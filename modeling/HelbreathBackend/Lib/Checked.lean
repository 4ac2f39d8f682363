import Mathlib.Data.Int.Notation
import Mathlib.Data.List.Basic
import Mathlib.Tactic.Common

/-!
Checked arithmetic of 32-bit signed integers, and checked loops.

A checked operation gives no value when its exact result is not an `i32`, and is the machine's
operation otherwise. A loop whose rounds are checked gives no value as soon as one round does.
-/

namespace HelbreathBackend.Lib

/-- The `i32` of an integer, if there is one. -/
def checked (z : ℤ) : Option Int32 :=
  if -2147483648 ≤ z ∧ z ≤ 2147483647 then some (Int32.ofInt z) else none

def checkedAdd (a b : Int32) : Option Int32 := checked (a.toInt + b.toInt)

def checkedSub (a b : Int32) : Option Int32 := checked (a.toInt - b.toInt)

def checkedAbs (a : Int32) : Option Int32 := checked a.toInt.natAbs

/-- A remainder overflows when the quotient does. -/
def checkedRem (a b : Int32) : Option Int32 :=
  if b = 0 then none else (checked (a.toInt.tdiv b.toInt)).map fun _ => a % b

variable {a b : Int32}

lemma checked_toInt (a : Int32) : checked a.toInt = some a := by
  have hlo := a.le_toInt
  have hhi := a.toInt_lt
  rw [checked, if_pos (by omega), Int32.ofInt_toInt]

/-- An operation whose result is exact. -/
lemma checked_eq_some {z : ℤ} (h : a.toInt = z) : checked z = some a := by
  rw [← h, checked_toInt]

lemma checkedSub_eq_some (h : (a - b).toInt = a.toInt - b.toInt) :
    checkedSub a b = some (a - b) := checked_eq_some h

lemma checkedAdd_eq_some (h : (a + b).toInt = a.toInt + b.toInt) :
    checkedAdd a b = some (a + b) := checked_eq_some h

lemma checkedAbs_eq_some (h : a ≠ Int32.minValue) : checkedAbs a = some a.abs := by
  have hne : a.toBitVec ≠ BitVec.intMin 32 := fun he => h (Int32.toBitVec_inj.mp he)
  exact checked_eq_some (BitVec.toInt_abs_eq_natAbs_of_ne_intMin hne)

lemma checkedRem_eq_some (hb : b ≠ 0) (hlo : -2147483648 ≤ a.toInt.tdiv b.toInt)
    (hhi : a.toInt.tdiv b.toInt ≤ 2147483647) : checkedRem a b = some (a % b) := by
  rw [checkedRem, if_neg hb, checked, if_pos ⟨hlo, hhi⟩]
  rfl

lemma checkedAbs_minValue : checkedAbs Int32.minValue = none := by decide

section

-- `B a`: the round with `a` overflows
variable {σ α : Type*} {f : σ → α → σ} {fc : σ → α → Option σ} {I : σ → Prop} {B : α → Prop}

/-- **A checked loop** without a bad round gives what the loop gives. -/
theorem foldlM_eq_some (hkeep : ∀ s a, I s → I (f s a))
    (hgood : ∀ s a, I s → ¬ B a → fc s a = some (f s a)) {l : List α} (hl : ∀ a ∈ l, ¬ B a)
    {s : σ} (hs : I s) : l.foldlM fc s = some (l.foldl f s) := by
  induction l generalizing s with
  | nil => rfl
  | cons a l ih =>
    obtain ⟨ha, hl⟩ := List.forall_mem_cons.mp hl
    rw [List.foldlM_cons, hgood s a hs ha]
    exact ih hl (hkeep s a hs)

/-- A checked loop with a bad round gives nothing. -/
theorem foldlM_eq_none (hkeep : ∀ s a, I s → I (f s a))
    (hgood : ∀ s a, I s → ¬ B a → fc s a = some (f s a))
    (hbad : ∀ s a, I s → B a → fc s a = none) {l : List α} (hl : ∃ a ∈ l, B a)
    {s : σ} (hs : I s) : l.foldlM fc s = none := by
  induction l generalizing s with
  | nil =>
    obtain ⟨a, ha, -⟩ := hl
    cases ha
  | cons a l ih =>
    rw [List.foldlM_cons]
    by_cases ha : B a
    · rw [hbad s a hs ha]
      rfl
    · rw [hgood s a hs ha]
      obtain ⟨b, hb, hbb⟩ := hl
      rcases List.mem_cons.mp hb with rfl | hb
      · exact absurd hbb ha
      · exact ih ⟨b, hb, hbb⟩ (hkeep s a hs)

end

end HelbreathBackend.Lib
