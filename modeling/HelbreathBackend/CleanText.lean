import HelbreathBackend.Translate
import Mathlib.Data.List.TakeWhile

/-!
The texts of packets.

Both directions read a text the same way: the bytes before the first zero, as UTF-8, with the white
space around them taken off. What comes out has the shape the services behind rely on.
-/

namespace HelbreathBackend.Translate

open HelbreathBackend.Application HelbreathBackend.Frame

/-- Text of one to `maxLen` bytes, without white space around it and without NUL. -/
structure Clean (maxLen : ℕ) (text : String) : Prop where
  nonempty : text ≠ ""
  front : ∀ c ∈ text.toList.head?, isWhiteSpace c = false
  back : ∀ c ∈ text.toList.getLast?, isWhiteSpace c = false
  noNul : Char.ofNat 0 ∉ text.toList
  fits : text.utf8ByteSize ≤ maxLen

lemma clean_of_ends {maxLen : ℕ} {text : String} {first last : Char}
    (hfirst : text.toList.head? = some first) (hlast : text.toList.getLast? = some last)
    (hends : isWhiteSpace first = false ∧ isWhiteSpace last = false)
    (hnul : Char.ofNat 0 ∉ text.toList) (hfits : text.utf8ByteSize ≤ maxLen) :
    Clean maxLen text where
  nonempty := by
    rintro rfl
    cases hfirst
  front c hc := by
    rw [hfirst] at hc
    obtain rfl := Option.some.inj hc
    exact hends.1
  back c hc := by
    rw [hlast] at hc
    obtain rfl := Option.some.inj hc
    exact hends.2
  noNul := hnul
  fits := hfits

/-! ### Trimming -/

lemma toList_trim (s : String) : (trim s).toList =
    ((s.toList.dropWhile isWhiteSpace).reverse.dropWhile isWhiteSpace).reverse :=
  String.toList_ofList

lemma head_dropWhile {α : Type} {p : α → Bool} {l : List α} :
    ∀ a ∈ (l.dropWhile p).head?, p a = false := by
  intro a ha
  have hnot := List.head?_dropWhile_not p l
  rw [Option.mem_def.mp ha] at hnot
  exact hnot

lemma mem_of_mem_trim {s : String} {c : Char} (h : c ∈ (trim s).toList) : c ∈ s.toList := by
  rw [toList_trim, List.mem_reverse] at h
  have hmid := (List.dropWhile_sublist _).subset h
  exact (List.dropWhile_sublist _).subset (List.mem_reverse.mp hmid)

/-- What is trimmed at both ends does not end in white space. -/
lemma getLast_trim (s : String) : ∀ c ∈ (trim s).toList.getLast?, isWhiteSpace c = false := by
  rw [toList_trim, List.getLast?_reverse]
  exact head_dropWhile

/-- Taking characters off the end leaves the front as it is. -/
lemma head_trim (s : String) : ∀ c ∈ (trim s).toList.head?, isWhiteSpace c = false := by
  intro c hc
  rw [toList_trim] at hc
  obtain ⟨cut, hcut⟩ := List.dropWhile_suffix isWhiteSpace
    (l := (s.toList.dropWhile isWhiteSpace).reverse)
  have hfront : s.toList.dropWhile isWhiteSpace =
      ((s.toList.dropWhile isWhiteSpace).reverse.dropWhile isWhiteSpace).reverse ++
        cut.reverse := by
    rw [← List.reverse_append, hcut, List.reverse_reverse]
  apply head_dropWhile (l := s.toList)
  rw [hfront, List.head?_append, Option.mem_def.mp hc]
  rfl

/-- Trimming leaves a text alone exactly when there is no white space around it. -/
lemma trim_eq_iff {s : String} : trim s = s ↔
    (∀ c ∈ s.toList.head?, isWhiteSpace c = false) ∧
      ∀ c ∈ s.toList.getLast?, isWhiteSpace c = false := by
  have hdrop : ∀ l : List Char, (∀ c ∈ l.head?, isWhiteSpace c = false) →
      l.dropWhile isWhiteSpace = l := by
    intro l hl
    cases l with
    | nil => rfl
    | cons c l => exact List.dropWhile_cons_of_neg (by rw [hl c rfl]; decide)
  constructor
  · intro h
    have hfront := head_trim s
    have hback := getLast_trim s
    rw [h] at hfront hback
    exact ⟨hfront, hback⟩
  · rintro ⟨hfront, hback⟩
    unfold trim
    rw [hdrop _ hfront, hdrop _ (by rwa [List.head?_reverse]), List.reverse_reverse,
      String.ofList_toList]

lemma Clean.trim_eq {maxLen : ℕ} {text : String} (h : Clean maxLen text) : trim text = text :=
  trim_eq_iff.mpr ⟨h.front, h.back⟩

/-! ### Bytes before the first zero -/

lemma head_splitOnP {α : Type} (p : α → Bool) (l : List α) :
    (l.splitOnP p).head? = some (l.takeWhile fun a => !p a) := by
  induction l with
  | nil => rfl
  | cons a l ih =>
    rw [List.splitOnP_cons_eq_if_modifyHead, List.takeWhile_cons]
    cases ha : p a with
    | true => rfl
    | false =>
      rcases hl : l.splitOnP p with _ | ⟨part, parts⟩
      · exact absurd hl (List.splitOnP_ne_nil p l)
      · rw [hl, List.head?_cons] at ih
        cases ih
        rfl

lemma zero_notMem_head (input : Bytes) :
    (0 : UInt8) ∉ (input.splitOnP (· == 0)).head?.getD input := by
  rw [head_splitOnP, Option.getD_some]
  intro hzero
  have hnot := List.mem_takeWhile_imp hzero
  simp at hnot

/-- The only text with a NUL is that of bytes with a zero. -/
lemma nul_notMem_fromUtf8 {bytes : Bytes} {text : String} (h : fromUtf8 bytes = some text)
    (hzero : (0 : UInt8) ∉ bytes) : Char.ofNat 0 ∉ text.toList := by
  intro hnul
  have hbytes : text.toByteArray = bytes.toByteArray := by
    unfold fromUtf8 String.fromUTF8? at h
    split at h
    · cases h
      rfl
    · cases h
  have hlist : text.toList.flatMap String.utf8EncodeChar = bytes := by
    rw [← List.toByteArray_inj, ← hbytes, ← String.utf8Encode_toList, List.utf8Encode]
  apply hzero
  rw [← hlist, List.mem_flatMap]
  exact ⟨Char.ofNat 0, hnul, by decide⟩

/-- **A text as it is read**: what is left of the bytes before the first zero is clean. -/
theorem clean_trim {input : Bytes} {raw : String} {maxLen : ℕ}
    (hraw : fromUtf8 ((input.splitOnP (· == 0)).head?.getD input) = some raw)
    (hempty : trim raw ≠ "") (hfits : (trim raw).utf8ByteSize ≤ maxLen) :
    Clean maxLen (trim raw) where
  nonempty := hempty
  front := head_trim raw
  back := getLast_trim raw
  noNul := fun hnul => nul_notMem_fromUtf8 hraw (zero_notMem_head input) (mem_of_mem_trim hnul)
  fits := hfits

lemma clean_bytesToCleanString {input : Bytes} {maxLen : ℕ} {text : String}
    (h : bytesToCleanString input maxLen = .ok text) : Clean maxLen text := by
  unfold bytesToCleanString at h
  dsimp only at h
  split at h
  · cases h
  · next raw hraw =>
    split at h
    · cases h
    · next hempty =>
      split at h
      · cases h
      · next hfits =>
        cases h
        exact clean_trim hraw hempty (by omega)

end HelbreathBackend.Translate
