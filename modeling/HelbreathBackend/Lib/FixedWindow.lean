import Mathlib.Algebra.Order.Monoid.Defs
import Mathlib.Algebra.Order.Monoid.Unbundled.Basic
import Mathlib.Data.List.TakeWhile
import Mathlib.Tactic.Common

/-!
Counting in windows of a fixed length.

A window starts with the first event that comes after the one before it is over, and the first `n`
events of each are let in. Windows start more than their length apart, so an interval of that length
meets two of them at most.
-/

namespace HelbreathBackend.Lib.FixedWindow

variable {T : Type*}

/-- The first `n` are let in, the others are not. -/
def mark (n : ℕ) (ts : List T) : List (T × Bool) :=
  (ts.take n).map (·, true) ++ (ts.drop n).map (·, false)

lemma map_fst_mark (n : ℕ) (ts : List T) : (mark n ts).map (·.1) = ts := by
  rw [mark, List.map_append, List.map_map, List.map_map]
  exact (congrArg₂ (· ++ ·) (List.map_id _) (List.map_id _)).trans (List.take_append_drop n ts)

lemma mark_succ_cons (n : ℕ) (t : T) (ts : List T) :
    mark (n + 1) (t :: ts) = (t, true) :: mark n ts := rfl

lemma mark_zero_cons (t : T) (ts : List T) : mark 0 (t :: ts) = (t, false) :: mark 0 ts := rfl

variable [LinearOrder T] {W s t t1 t2 : T} {n : ℕ} {ts : List T} {l : List (T × Bool)}

/-! ### Counting -/

/-- How many of the events from `t1` to `t2` are let in. -/
def letIn (t1 t2 : T) (l : List (T × Bool)) : ℕ :=
  l.countP fun o => o.2 && (decide (t1 ≤ o.1) && decide (o.1 ≤ t2))

lemma letIn_append (l l' : List (T × Bool)) :
    letIn t1 t2 (l ++ l') = letIn t1 t2 l + letIn t1 t2 l' := List.countP_append

lemma letIn_eq_zero (h : ∀ o ∈ l, o.1 < t1 ∨ t2 < o.1) : letIn t1 t2 l = 0 := by
  refine List.countP_eq_zero.mpr fun o ho hin => ?_
  simp only [Bool.and_eq_true, decide_eq_true_eq] at hin
  rcases h o ho with hlt | hlt
  · exact absurd hin.2.1 (not_le.mpr hlt)
  · exact absurd hin.2.2 (not_le.mpr hlt)

/-- Of one window at most `n` are let in. -/
lemma letIn_mark_le : letIn t1 t2 (mark n ts) ≤ n := by
  have hrest : letIn t1 t2 ((ts.drop n).map (·, false)) = 0 := by
    refine List.countP_eq_zero.mpr fun o ho hin => ?_
    obtain ⟨a, -, rfl⟩ := List.mem_map.mp ho
    cases hin
  rw [mark, letIn_append, hrest, Nat.add_zero]
  refine List.countP_le_length.trans ?_
  rw [List.length_map, List.length_take]
  exact Nat.min_le_left _ _

lemma lt_of_mem_dropWhile (hsorted : ts.Pairwise (· ≤ ·)) :
    ∀ x ∈ ts.dropWhile (· ≤ t), t < x := by
  induction ts with
  | nil => exact fun x hx => absurd hx List.not_mem_nil
  | cons a ts ih =>
    obtain ⟨ha, hsorted⟩ := List.pairwise_cons.mp hsorted
    intro x hx
    rw [List.dropWhile_cons] at hx
    split at hx
    · exact ih hsorted x hx
    · next hnot =>
      have hlt : t < a := not_le.mp fun hle => hnot (decide_eq_true hle)
      rcases List.mem_cons.mp hx with rfl | hx
      · exact hlt
      · exact hlt.trans_le (ha x hx)

/-! ### Windows -/

variable [AddCommMonoid T]

/-- The events of each window of length `W`. -/
def windows (W : T) : List T → List (List T)
  | [] => []
  | s :: ts => (s :: ts.takeWhile (· ≤ s + W)) :: windows W (ts.dropWhile (· ≤ s + W))
  termination_by ts => ts.length
  decreasing_by exact Nat.lt_succ_of_le (List.dropWhile_sublist _).length_le

/-- All events, each with whether it is let in. -/
def admitted (W : T) (n : ℕ) (ts : List T) : List (T × Bool) := (windows W ts).flatMap (mark n)

lemma admitted_nil : admitted W n [] = [] := by
  rw [admitted, windows]
  rfl

lemma admitted_cons : admitted W n (s :: ts) =
    mark n (s :: ts.takeWhile (· ≤ s + W)) ++ admitted W n (ts.dropWhile (· ≤ s + W)) := by
  rw [admitted, windows, List.flatMap_cons]
  rfl

lemma map_fst_admitted (W : T) (n : ℕ) (ts : List T) : (admitted W n ts).map (·.1) = ts := by
  induction ts using windows.induct (W := W) with
  | case1 => rw [admitted_nil, List.map_nil]
  | case2 s ts ih =>
    rw [admitted_cons, List.map_append, map_fst_mark, ih, List.cons_append,
      List.takeWhile_append_dropWhile]

variable [IsOrderedAddMonoid T]

/-- A window that starts in an interval of its length is the last one to meet it. -/
lemma letIn_admitted_le (hsorted : ts.Pairwise (· ≤ ·)) (hstart : t ≤ s) :
    letIn t (t + W) (admitted W n (s :: ts)) ≤ n := by
  have hlate : letIn t (t + W) (admitted W n (ts.dropWhile (· ≤ s + W))) = 0 := by
    refine letIn_eq_zero fun o ho => .inr ?_
    have hmem : o.1 ∈ (admitted W n (ts.dropWhile (· ≤ s + W))).map (·.1) := List.mem_map_of_mem ho
    rw [map_fst_admitted] at hmem
    exact (add_le_add_left hstart W).trans_lt (lt_of_mem_dropWhile hsorted _ hmem)
  rw [admitted_cons, letIn_append, hlate, Nat.add_zero]
  exact letIn_mark_le

/-- **Two windows**: an interval of the length of a window sees at most twice as many let in. -/
theorem letIn_le (hsorted : ts.Pairwise (· ≤ ·)) (t : T) :
    letIn t (t + W) (admitted W n ts) ≤ 2 * n := by
  induction ts using windows.induct (W := W) with
  | case1 =>
    rw [admitted_nil]
    exact Nat.zero_le _
  | case2 s ts ih =>
    obtain ⟨hs, hsorted⟩ := List.pairwise_cons.mp hsorted
    rcases le_or_gt t s with hstart | hearly
    · have hle : letIn t (t + W) (admitted W n (s :: ts)) ≤ n := letIn_admitted_le hsorted hstart
      omega
    have hdrop : (ts.dropWhile (· ≤ s + W)).Pairwise (· ≤ ·) :=
      hsorted.sublist (List.dropWhile_sublist _)
    have hafter : ∀ x ∈ ts.dropWhile (· ≤ s + W), s + W < x := lt_of_mem_dropWhile hsorted
    have hih := ih hdrop
    have hfirst : letIn t (t + W) (mark n (s :: ts.takeWhile (· ≤ s + W))) ≤ n := letIn_mark_le
    rw [admitted_cons, letIn_append]
    rcases hrest : ts.dropWhile (· ≤ s + W) with _ | ⟨s', ts'⟩
    · have hnone : letIn t (t + W) (admitted W n []) = 0 := by
        rw [admitted_nil]
        rfl
      omega
    rw [hrest] at hdrop hafter hih
    rcases le_or_gt t s' with hnext | hnext
    · -- the next window starts in the interval
      have hle : letIn t (t + W) (admitted W n (s' :: ts')) ≤ n :=
        letIn_admitted_le (List.pairwise_cons.mp hdrop).2 hnext
      omega
    · -- this window is over before the interval
      have hover : letIn t (t + W) (mark n (s :: ts.takeWhile (· ≤ s + W))) = 0 := by
        refine letIn_eq_zero fun o ho => .inl ?_
        have hmem : o.1 ∈ (mark n (s :: ts.takeWhile (· ≤ s + W))).map (·.1) :=
          List.mem_map_of_mem ho
        rw [map_fst_mark] at hmem
        rcases List.mem_cons.mp hmem with heq | hmem
        · rw [heq]
          exact hearly
        · have hle : decide (o.1 ≤ s + W) = true :=
            List.mem_takeWhile_imp (p := fun x => decide (x ≤ s + W)) hmem
          exact ((of_decide_eq_true hle).trans_lt (hafter s' List.mem_cons_self)).trans hnext
      omega

end HelbreathBackend.Lib.FixedWindow
