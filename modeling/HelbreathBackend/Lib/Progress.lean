import HelbreathBackend.Lib.Transition
import Mathlib.Algebra.BigOperators.Group.Finset.Basic
import Mathlib.Data.Nat.Find
import Mathlib.Tactic.Common

/-!
Systems that come to rest.

Some of the actions of a system are its own: it takes them without being asked. If each of them
lowers a measure, and one of them is possible wherever the work is not done, then the system, left
to itself, is done after a bounded number of steps, whichever of them it takes.
-/

namespace HelbreathBackend.Lib

open scoped BigOperators

namespace System

variable {σ α : Type*} (S : System σ α) (own : α → Prop)

/-- None of its own actions is possible. -/
def AtRest (s : σ) : Prop := ∀ a, own a → S.step s a = none

/-- Left to itself, the system comes to rest after at most `n` actions of its own, whichever they
are, and it is not at rest before `done` holds. -/
structure Settles [DecidablePred own] (done : σ → Prop) (s : σ) (n : ℕ) : Prop where
  bounded : ∀ as t, S.exec (fun _ a => own a) s as = some t → as.length ≤ n
  done_of_atRest : ∀ as t, S.exec (fun _ a => own a) s as = some t → S.AtRest own t → done t

variable {S own} [DecidablePred own] {done : σ → Prop} {s t : σ} {n : ℕ} {as : List α}

lemma exec_snoc {a : α} (h : S.exec (fun _ a => own a) s as = some t) (ha : own a) :
    S.exec (fun _ a => own a) s (as ++ [a]) = S.step t a := by
  induction as generalizing s with
  | nil =>
    obtain rfl := Option.some.inj h
    rw [List.nil_append, exec, if_pos ha]
    simp only [exec, Option.bind_fun_some]
  | cons b as ih =>
    simp only [exec] at h
    split at h
    · next hb =>
      obtain ⟨u, hu, hut⟩ := Option.bind_eq_some_iff.mp h
      rw [List.cons_append, exec, if_pos hb, hu, Option.bind_some, ih hut]
    · cases h

lemma Settles.mono {m : ℕ} (h : S.Settles own done s n) (hle : n ≤ m) : S.Settles own done s m :=
  ⟨fun as t hexec => le_trans (h.bounded as t hexec) hle, h.done_of_atRest⟩

/-- A system that settles gets done, and is done where it stays. -/
theorem Settles.exists_done (h : S.Settles own done s n) :
    ∃ as t, S.exec (fun _ a => own a) s as = some t ∧ S.AtRest own t ∧ done t := by
  classical
  let P : ℕ → Prop := fun k => ∃ as t, as.length = k ∧ S.exec (fun _ a => own a) s as = some t
  have hzero : P 0 := ⟨[], s, rfl, rfl⟩
  -- an execution that is not shorter than any other can not go on
  obtain ⟨as, t, hlen, hexec⟩ := Nat.findGreatest_spec (Nat.zero_le n) hzero
  have hrest : S.AtRest own t := by
    intro a ha
    by_contra hgo
    obtain ⟨u, hu⟩ := Option.ne_none_iff_exists'.mp hgo
    have hlonger : P (as ++ [a]).length := ⟨_, u, rfl, (exec_snoc hexec ha).trans hu⟩
    have hle := Nat.le_findGreatest (h.bounded _ u ((exec_snoc hexec ha).trans hu)) hlonger
    rw [List.length_append, List.length_singleton] at hle
    omega
  exact ⟨as, t, hexec, hrest, h.done_of_atRest as t hexec hrest⟩

/-- **Progress**: a measure that each of the system's own actions lowers bounds how many of them
there can be, and the system is done where it can not go on. -/
theorem settles (J : σ → Prop) (μ : σ → ℕ)
    (hstep : ∀ s a t, J s → own a → S.step s a = some t → J t ∧ μ t < μ s)
    (hgo : ∀ s, J s → S.AtRest own s → done s) (hs : J s) : S.Settles own done s (μ s) := by
  have hexec : ∀ as s t, J s → S.exec (fun _ a => own a) s as = some t →
      J t ∧ as.length + μ t ≤ μ s := by
    intro as
    induction as with
    | nil =>
      intro s t hs h
      obtain rfl := Option.some.inj h
      exact ⟨hs, by simp⟩
    | cons a as ih =>
      intro s t hs h
      simp only [exec] at h
      split at h
      · next ha =>
        obtain ⟨u, hu, hut⟩ := Option.bind_eq_some_iff.mp h
        obtain ⟨hju, hlt⟩ := hstep s a u hs ha hu
        obtain ⟨hjt, hle⟩ := ih u t hju hut
        refine ⟨hjt, ?_⟩
        rw [List.length_cons]
        omega
      · cases h
  refine ⟨fun as t h => ?_, fun as t h hrest => hgo t (hexec as s t hs h).1 hrest⟩
  have hle := (hexec as s t hs h).2
  omega

end System

/-- A sum that loses one where one of its terms loses one. -/
lemma sum_add_one_eq {ι : Type*} [DecidableEq ι] {s : Finset ι} {i : ι} (hi : i ∈ s) {f g : ι → ℕ}
    (hself : f i + 1 = g i) (hothers : ∀ j ∈ s, j ≠ i → f j = g j) :
    ∑ j ∈ s, f j + 1 = ∑ j ∈ s, g j := by
  have hrest : ∑ j ∈ s.erase i, f j = ∑ j ∈ s.erase i, g j :=
    Finset.sum_congr rfl fun j hj =>
      hothers j (Finset.mem_of_mem_erase hj) (Finset.ne_of_mem_erase hj)
  rw [← Finset.sum_erase_add _ _ hi, ← Finset.sum_erase_add s g hi, hrest, ← hself]
  omega

end HelbreathBackend.Lib
