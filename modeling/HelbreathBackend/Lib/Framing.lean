import Mathlib.Data.List.Basic

/-!
Cutting a stream into self-delimiting units.

A framing says, looking at the front of a buffer, how long the first unit is, or that it
is not complete yet. Extraction takes complete units off the front until none is left.
Whatever the framing is, extraction does not depend on how the stream arrived: that a
unit, once complete, stays the same unit when more symbols follow is all it takes.
-/

namespace HelbreathBackend.Lib

/-- How many symbols the first unit of a buffer takes, once it is complete. -/
structure Framing (α : Type*) where
  size : List α → Option ℕ
  pos : ∀ {b n}, size b = some n → 0 < n
  le : ∀ {b n}, size b = some n → n ≤ b.length
  mono : ∀ {b n} (c), size b = some n → size (b ++ c) = some n

namespace Framing

variable {α : Type*} (F : Framing α)

/-- The complete units at the front of a buffer, and what is left of it. -/
def extract (b : List α) : List (List α) × List α :=
  match _h : F.size b with
  | none => ([], b)
  | some n => (b.take n :: (extract (b.drop n)).1, (extract (b.drop n)).2)
termination_by b.length
decreasing_by
  all_goals
    have := F.pos _h
    have := F.le _h
    simp only [List.length_drop]; omega

lemma extract_none {b : List α} (h : F.size b = none) : F.extract b = ([], b) := by
  rw [extract]
  split
  · rfl
  · next h' => rw [h] at h'; cases h'

lemma extract_some {b : List α} {n : ℕ} (h : F.size b = some n) :
    F.extract b = (b.take n :: (F.extract (b.drop n)).1, (F.extract (b.drop n)).2) := by
  rw [extract]
  split
  · next h' => rw [h] at h'; cases h'
  · next h' => rw [h] at h'; cases h'; rfl

/-- **Nothing is lost**: the units and the rest make up the buffer. -/
theorem extract_flatten (b : List α) : (F.extract b).1.flatten ++ (F.extract b).2 = b := by
  induction b using extract.induct F with
  | case1 b h => simp [extract_none F h]
  | case2 b n h ih =>
    rw [extract_some F h]
    simp only [List.flatten_cons, List.append_assoc, ih, List.take_append_drop]

/-- **Nothing complete is left behind.** -/
theorem extract_rest (b : List α) : F.size (F.extract b).2 = none := by
  induction b using extract.induct F with
  | case1 b h => simpa [extract_none F h] using h
  | case2 b n h ih => rw [extract_some F h]; exact ih

/-- A unit is as long as the framing said when it was at the front. -/
theorem size_of_mem_extract {b u : List α} (hu : u ∈ (F.extract b).1) :
    ∃ c, F.size (u ++ c) = some u.length := by
  induction b using extract.induct F with
  | case1 b h => simp [extract_none F h] at hu
  | case2 b n h ih =>
    rw [extract_some F h, List.mem_cons] at hu
    rcases hu with rfl | hu
    · have hle := F.le h
      exact ⟨b.drop n, by rw [List.take_append_drop, h, List.length_take]; simp [hle]⟩
    · exact ih hu

/-- **Extraction may be interrupted**: what arrives later continues from the rest. -/
theorem extract_append (b c : List α) :
    F.extract (b ++ c) =
      ((F.extract b).1 ++ (F.extract ((F.extract b).2 ++ c)).1,
        (F.extract ((F.extract b).2 ++ c)).2) := by
  induction b using extract.induct F with
  | case1 b h => simp [extract_none F h]
  | case2 b n h ih =>
    have hle := F.le h
    rw [extract_some F h, extract_some F (F.mono c h), List.take_append_of_le_length hle,
      List.drop_append_of_le_length hle, ih]
    simp

/-! ### Streams that arrive in chunks -/

/-- One chunk arrives: the units so far, and the buffer between arrivals. -/
def feed (s : List (List α) × List α) (chunk : List α) : List (List α) × List α :=
  (s.1 ++ (F.extract (s.2 ++ chunk)).1, (F.extract (s.2 ++ chunk)).2)

lemma feed_extract (b chunk : List α) :
    F.feed (F.extract b) chunk = F.extract (b ++ chunk) := by
  rw [feed, ← extract_append]

/-- **Chunking is invisible**: any way of cutting the stream gives what one piece gives. -/
theorem foldl_feed (b : List α) (chunks : List (List α)) :
    chunks.foldl F.feed (F.extract b) = F.extract (b ++ chunks.flatten) := by
  induction chunks generalizing b with
  | nil => simp
  | cons c rest ih => rw [List.foldl_cons, feed_extract, ih]; simp

/-! ### Streams of well-delimited units -/

/-- A unit the framing recognises whatever follows it. -/
def Delimited (u : List α) : Prop := F.size u = some u.length

variable {F}

lemma Delimited.extract {u : List α} (hu : F.Delimited u) (b : List α) :
    F.extract (u ++ b) = (u :: (F.extract b).1, (F.extract b).2) := by
  rw [extract_some F (F.mono b hu)]
  simp

/-- **Delimited units come back one by one.** -/
theorem extract_flatten_delimited {us : List (List α)} (h : ∀ u ∈ us, F.Delimited u)
    (b : List α) :
    F.extract (us.flatten ++ b) = (us ++ (F.extract b).1, (F.extract b).2) := by
  induction us with
  | nil => simp
  | cons u rest ih =>
    have hu : F.Delimited u := h u (by simp)
    have hrest := ih fun v hv => h v (by simp [hv])
    rw [List.flatten_cons, List.append_assoc, hu.extract, hrest]
    simp

end Framing

end HelbreathBackend.Lib
