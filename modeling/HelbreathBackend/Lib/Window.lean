import Mathlib.Data.List.DropRight
import Mathlib.Data.List.Induction
import Mathlib.Tactic.Common

/-!
The last entries of a list.

A window of a given size slides over a list: each new entry pushes the oldest one out. What is in
the window is the end of the list; and the windows of a part of the list and of the whole list
are the same exactly when the window of the whole has nothing but entries of the part.
-/

namespace HelbreathBackend.Lib

variable {α β : Type*} {n k : ℕ} {l : List α}

lemma rtake_map (f : α → β) (l : List α) (n : ℕ) : (l.map f).rtake n = (l.rtake n).map f := by
  rw [List.rtake, List.rtake, List.length_map, List.map_drop]

lemma length_rtake (l : List α) (n : ℕ) : (l.rtake n).length = min n l.length := by
  rw [List.rtake, List.length_drop]
  omega

lemma rtake_rtake (l : List α) (n k : ℕ) : (l.rtake n).rtake k = l.rtake (min k n) := by
  have hlen := length_rtake l n
  unfold List.rtake at hlen ⊢
  rw [List.drop_drop, hlen]
  congr 1
  omega

/-- Push an entry into a window. -/
def slide (n : ℕ) (window : List α) (x : α) : List α := (window ++ [x]).rtake n

/-- **A window over a list**: what is in it is the end of the list. -/
theorem foldl_slide (n : ℕ) (l : List α) : l.foldl (slide n) [] = l.rtake n := by
  induction l using List.reverseRecOn with
  | nil => simp
  | append_singleton l x ih =>
    rw [List.foldl_append, List.foldl_cons, List.foldl_nil, ih, slide]
    cases n with
    | zero => simp
    | succ n =>
      rw [List.rtake_concat_succ, List.rtake_concat_succ, rtake_rtake]
      congr 2
      omega

/-- **The window of a part**: it is that of the whole list exactly when the latter has only entries
of the part. -/
theorem rtake_filter_iff (p : α → Bool) (n : ℕ) (l : List α) :
    l.rtake n = (l.filter p).rtake n ↔ ∀ x ∈ l.rtake n, p x = true := by
  constructor
  · intro h x hx
    rw [h] at hx
    exact (List.mem_filter.mp (List.mem_of_mem_drop hx)).2
  · induction l using List.reverseRecOn generalizing n with
    | nil => simp
    | append_singleton l x ih =>
      intro h
      cases n with
      | zero => simp
      | succ n =>
        rw [List.rtake_concat_succ] at h
        have hx : p x = true := h x (by simp)
        have hrest : ∀ y ∈ l.rtake n, p y = true := fun y hy => h y (by simp [hy])
        rw [List.filter_append, List.filter_singleton, hx, cond_true, List.rtake_concat_succ,
          List.rtake_concat_succ, ih n hrest]

end HelbreathBackend.Lib
