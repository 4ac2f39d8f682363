import Mathlib.Algebra.BigOperators.Group.List.Basic
import Mathlib.Algebra.Order.BigOperators.Group.List
import Mathlib.Algebra.Order.Field.Basic
import Mathlib.Tactic.Linarith
import Mathlib.Tactic.Ring

/-!
Token buckets.

A bucket fills at a constant rate up to its capacity; a call takes its cost out, or is refused
where there is not enough. The level is brought up to date by the calls only, whether they are
granted or not. As filling up to a time in between changes nothing, a refused call leaves no trace.
-/

namespace HelbreathBackend.Lib

/-- Leave out some of the things that have been refused. -/
inductive Thins {α : Type*} : List (α × Bool) → List (α × Bool) → Prop
  | nil : Thins [] []
  | keep (o : α × Bool) {l l' : List (α × Bool)} (h : Thins l l') : Thins (o :: l) (o :: l')
  | drop (a : α) {l l' : List (α × Bool)} (h : Thins l l') : Thins ((a, false) :: l) l'

lemma Thins.sublist {α : Type*} {l l' : List (α × Bool)} (h : Thins l l') : l'.Sublist l := by
  induction h with
  | nil => exact .slnil
  | keep o h ih => exact ih.cons_cons o
  | drop a h ih => exact ih.cons _

lemma Thins.map {α β : Type*} (f : α → β) {l l' : List (α × Bool)} (h : Thins l l') :
    Thins (l.map (Prod.map f id)) (l'.map (Prod.map f id)) := by
  induction h with
  | nil => exact .nil
  | keep o h ih => exact .keep _ ih
  | drop a h ih => exact .drop _ ih

structure TokenBucket (K : Type*) where
  rate : K
  cap : K
  level : K
  last : K

namespace TokenBucket

structure Call (K : Type*) where
  time : K
  cost : K

variable {K : Type*} [LinearOrder K] {c : Call K} {calls calls' : List (Call K)} {t t1 t2 : K}

/-! ### Times -/

/-- The calls come in the order of their times, none before `t`. -/
def Timely (t : K) (calls : List (Call K)) : Prop :=
  (t :: calls.map (·.time)).Pairwise (· ≤ ·)

lemma timely_cons : Timely t (c :: calls) ↔ t ≤ c.time ∧ Timely c.time calls := by
  unfold Timely
  simp only [List.map_cons, List.pairwise_cons, List.mem_cons]
  constructor
  · rintro ⟨h, h', hrest⟩
    exact ⟨h _ (.inl rfl), h', hrest⟩
  · rintro ⟨h, h', hrest⟩
    refine ⟨?_, h', hrest⟩
    rintro a (rfl | ha)
    · exact h
    · exact h.trans (h' a ha)

lemma Timely.sublist (h : Timely t calls) (hsub : calls'.Sublist calls) : Timely t calls' :=
  List.Pairwise.sublist ((hsub.map _).cons_cons t) h

lemma Timely.le_time (h : Timely t calls) (hc : c ∈ calls) : t ≤ c.time :=
  (List.pairwise_cons.mp h).1 _ (List.mem_map_of_mem hc)

/-- Once one call comes after `t2`, all do. -/
lemma Timely.late (h : Timely c.time calls) (hlate : t2 < c.time) :
    ∀ c' ∈ c :: calls, t2 < c'.time := by
  intro c' hc'
  rcases List.mem_cons.mp hc' with rfl | hc'
  · exact hlate
  · exact hlate.trans_le (h.le_time hc')

def inWindow (t1 t2 : K) (c : Call K) : Bool := decide (t1 ≤ c.time) && decide (c.time ≤ t2)

lemma inWindow_iff : inWindow t1 t2 c = true ↔ t1 ≤ c.time ∧ c.time ≤ t2 := by simp [inWindow]

/-! ### Buckets -/

variable [Field K]

/-- No time passes when the clock goes back. -/
def refill (b : TokenBucket K) (now : K) : TokenBucket K :=
  { b with level := min (b.level + max 0 (now - b.last) * b.rate) b.cap, last := now }

def acquire (b : TokenBucket K) (c : Call K) : Bool × TokenBucket K :=
  let b := b.refill c.time
  if c.cost ≤ b.level then (true, { b with level := b.level - c.cost }) else (false, b)

def after (b : TokenBucket K) (calls : List (Call K)) : TokenBucket K :=
  calls.foldl (fun b c => (b.acquire c).2) b

/-- The calls, each with whether it is granted. -/
def outcomes (b : TokenBucket K) : List (Call K) → List (Call K × Bool)
  | [] => []
  | c :: calls => (c, (b.acquire c).1) :: (b.acquire c).2.outcomes calls

/-- The cost of the calls of a window. -/
def requested (t1 t2 : K) (calls : List (Call K)) : K :=
  ((calls.filter (inWindow t1 t2)).map (·.cost)).sum

/-- The cost of the calls of a window that are granted. -/
def granted (t1 t2 : K) (b : TokenBucket K) (calls : List (Call K)) : K :=
  requested t1 t2 (((b.outcomes calls).filter (·.2)).map (·.1))

structure Good (b : TokenBucket K) : Prop where
  rate : 0 ≤ b.rate
  nonneg : 0 ≤ b.level
  le_cap : b.level ≤ b.cap

variable {b : TokenBucket K}

@[simp] lemma outcomes_cons :
    b.outcomes (c :: calls) = (c, (b.acquire c).1) :: (b.acquire c).2.outcomes calls := rfl

lemma map_fst_outcomes (b : TokenBucket K) (calls : List (Call K)) :
    (b.outcomes calls).map (·.1) = calls := by
  induction calls generalizing b with
  | nil => rfl
  | cons c calls ih => rw [outcomes_cons, List.map_cons, ih]

lemma refill_level (h : 0 ≤ t - b.last) :
    (b.refill t).level = min (b.level + (t - b.last) * b.rate) b.cap := by
  rw [refill, max_eq_right h]

/-- What a call does: it is granted and pays, or is refused and only looks. -/
lemma acquire_cases (b : TokenBucket K) (c : Call K) :
    (c.cost ≤ (b.refill c.time).level ∧
      b.acquire c = (true, { b.refill c.time with level := (b.refill c.time).level - c.cost })) ∨
    ((b.refill c.time).level < c.cost ∧ b.acquire c = (false, b.refill c.time)) := by
  unfold acquire
  rcases le_or_gt c.cost (b.refill c.time).level with h | h
  · exact .inl ⟨h, if_pos h⟩
  · exact .inr ⟨h, if_neg (not_le.mpr h)⟩

lemma acquire_last : (b.acquire c).2.last = c.time := by
  rcases b.acquire_cases c with ⟨-, heq⟩ | ⟨-, heq⟩ <;> rw [heq] <;> rfl

lemma acquire_rate : (b.acquire c).2.rate = b.rate := by
  rcases b.acquire_cases c with ⟨-, heq⟩ | ⟨-, heq⟩ <;> rw [heq] <;> rfl

lemma acquire_cap : (b.acquire c).2.cap = b.cap := by
  rcases b.acquire_cases c with ⟨-, heq⟩ | ⟨-, heq⟩ <;> rw [heq] <;> rfl

lemma after_cap : (b.after calls).cap = b.cap := by
  induction calls generalizing b with
  | nil => rfl
  | cons c calls ih => exact ih.trans acquire_cap

/-! ### Costs of a window -/

lemma requested_cons : requested t1 t2 (c :: calls) =
    (if inWindow t1 t2 c then c.cost else 0) + requested t1 t2 calls := by
  unfold requested
  rw [List.filter_cons]
  split
  · rw [List.map_cons, List.sum_cons]
  · rw [zero_add]

lemma requested_append (calls calls' : List (Call K)) :
    requested t1 t2 (calls ++ calls') = requested t1 t2 calls + requested t1 t2 calls' := by
  unfold requested
  rw [List.filter_append, List.map_append, List.sum_append]

/-- Calls that all come after the window cost it nothing. -/
lemma requested_of_late (h : ∀ c ∈ calls, t2 < c.time) : requested t1 t2 calls = 0 := by
  have hnone : calls.filter (inWindow t1 t2) = [] := by
    rw [List.filter_eq_nil_iff]
    intro c hc hin
    exact absurd (inWindow_iff.mp hin).2 (not_le.mpr (h c hc))
  rw [requested, hnone]
  rfl

lemma requested_of_inWindow (h : ∀ c ∈ calls, t1 ≤ c.time ∧ c.time ≤ t2) :
    requested t1 t2 calls = (calls.map (·.cost)).sum := by
  rw [requested, List.filter_eq_self.mpr fun c hc => inWindow_iff.mpr (h c hc)]

lemma granted_cons : granted t1 t2 b (c :: calls) =
    (if (b.acquire c).1 && inWindow t1 t2 c then c.cost else 0) +
      granted t1 t2 (b.acquire c).2 calls := by
  unfold granted
  rw [outcomes_cons, List.filter_cons]
  cases (b.acquire c).1 with
  | false => simp
  | true => simp [requested_cons]

lemma granted_of_late (h : ∀ c ∈ calls, t2 < c.time) : granted t1 t2 b calls = 0 := by
  refine requested_of_late fun c hc => h c ?_
  rw [← b.map_fst_outcomes calls]
  exact (List.filter_sublist.map _).subset hc

/-! ### The level -/

variable [IsStrictOrderedRing K]

lemma Good.refill (hb : b.Good) (t : K) : (b.refill t).Good := by
  have hgain : 0 ≤ max 0 (t - b.last) * b.rate := mul_nonneg (le_max_left _ _) hb.rate
  have hcap := hb.nonneg.trans hb.le_cap
  exact ⟨hb.rate, le_min (add_nonneg hb.nonneg hgain) hcap, min_le_right _ _⟩

lemma Good.acquire (hb : b.Good) (hcost : 0 ≤ c.cost) : (b.acquire c).2.Good := by
  have hrefill := hb.refill c.time
  rcases b.acquire_cases c with ⟨hle, heq⟩ | ⟨-, heq⟩
  · rw [heq]
    exact ⟨hb.rate, sub_nonneg.mpr hle, (sub_le_self _ hcost).trans hrefill.le_cap⟩
  · rw [heq]
    exact hrefill

/-- **The level stays within its bounds**, whatever is called. -/
theorem Good.after (hb : b.Good) (hcalls : ∀ c ∈ calls, 0 ≤ c.cost) : (b.after calls).Good := by
  induction calls generalizing b with
  | nil => exact hb
  | cons c calls ih =>
    have hc := hcalls c List.mem_cons_self
    exact ih (hb.acquire hc) fun c' hc' => hcalls c' (List.mem_cons_of_mem _ hc')

/-! ### Refills compose -/

/-- **Filling up on the way** makes no difference. -/
theorem refill_refill (hb : b.Good) {t' : K} (ht : b.last ≤ t) (ht' : t ≤ t') :
    (b.refill t).refill t' = b.refill t' := by
  have hrate := hb.rate
  have hgain : 0 ≤ (t' - t) * b.rate := mul_nonneg (sub_nonneg.mpr ht') hrate
  have hsum : b.level + (t - b.last) * b.rate + (t' - t) * b.rate =
      b.level + (t' - b.last) * b.rate := by ring
  have hlevel : ((b.refill t).refill t').level = (b.refill t').level := by
    rw [refill_level (sub_nonneg.mpr (ht.trans ht')), refill_level (sub_nonneg.mpr ht'),
      refill_level (sub_nonneg.mpr ht)]
    change min (min (b.level + (t - b.last) * b.rate) b.cap + (t' - t) * b.rate) b.cap = _
    rw [min_add, hsum, min_assoc, min_eq_right (le_add_of_nonneg_right hgain)]
  exact congrArg (fun l => { b with level := l, last := t' }) hlevel

/-- A bucket that has been looked at in between gives the same answers. -/
theorem outcomes_refill (hb : b.Good) (ht : b.last ≤ t) (hcalls : Timely t calls) :
    (b.refill t).outcomes calls = b.outcomes calls := by
  cases calls with
  | nil => rfl
  | cons c calls =>
    have hacquire : (b.refill t).acquire c = b.acquire c := by
      unfold acquire
      rw [refill_refill hb ht (timely_cons.mp hcalls).1]
    rw [outcomes_cons, outcomes_cons, hacquire]

/-! ### What a window may be granted -/

/-- From now on: no more than what is there and what is still to come. -/
lemma granted_le_level (hb : b.Good) (hcalls : Timely b.last calls)
    (hcost : ∀ c ∈ calls, 0 ≤ c.cost) (ht : b.last ≤ t2) :
    granted t1 t2 b calls ≤ b.level + (t2 - b.last) * b.rate := by
  induction calls generalizing b with
  | nil =>
    have hgain := mul_nonneg (sub_nonneg.mpr ht) hb.rate
    exact add_nonneg hb.nonneg hgain
  | cons c calls ih =>
    obtain ⟨hle, hrest⟩ := timely_cons.mp hcalls
    have hc := hcost c List.mem_cons_self
    have hcost' : ∀ c' ∈ calls, 0 ≤ c'.cost := fun c' hc' => hcost c' (List.mem_cons_of_mem _ hc')
    rcases lt_or_ge t2 c.time with hlate | hin
    · -- the window is over
      rw [granted_of_late (hrest.late hlate)]
      exact add_nonneg hb.nonneg (mul_nonneg (sub_nonneg.mpr ht) hb.rate)
    · have hih := ih (hb.acquire hc) (by rwa [acquire_last]) hcost' (by rwa [acquire_last])
      have hlevel : (b.refill c.time).level ≤ b.level + (c.time - b.last) * b.rate := by
        rw [refill_level (sub_nonneg.mpr hle)]
        exact min_le_left _ _
      have hsum : (c.time - b.last) * b.rate + (t2 - c.time) * b.rate =
          (t2 - b.last) * b.rate := by ring
      rw [acquire_last, acquire_rate] at hih
      rw [granted_cons]
      rcases b.acquire_cases c with ⟨-, heq⟩ | ⟨-, heq⟩
      · rw [heq] at hih ⊢
        have hpaid : (if true && inWindow t1 t2 c then c.cost else 0) ≤ c.cost := by
          split
          · exact le_rfl
          · exact hc
        dsimp only at hih ⊢
        linarith
      · rw [heq] at hih ⊢
        simp only [Bool.false_and, Bool.false_eq_true, if_false]
        linarith

/-- **The bound of a window**: a full bucket, and what flows in while the window is open. -/
theorem granted_le (hb : b.Good) (hcalls : Timely b.last calls) (hcost : ∀ c ∈ calls, 0 ≤ c.cost)
    (ht : t1 ≤ t2) : granted t1 t2 b calls ≤ b.cap + (t2 - t1) * b.rate := by
  have hgain := mul_nonneg (sub_nonneg.mpr ht) hb.rate
  have hcap := hb.nonneg.trans hb.le_cap
  induction calls generalizing b with
  | nil => exact add_nonneg hcap hgain
  | cons c calls ih =>
    obtain ⟨hle, hrest⟩ := timely_cons.mp hcalls
    have hc := hcost c List.mem_cons_self
    have hcost' : ∀ c' ∈ calls, 0 ≤ c'.cost := fun c' hc' => hcost c' (List.mem_cons_of_mem _ hc')
    rcases lt_or_ge c.time t1 with hearly | hin
    · -- the window is not open yet
      have hout : inWindow t1 t2 c = false := by
        rw [Bool.eq_false_iff, Ne, inWindow_iff, not_and_or]
        exact .inl (not_le.mpr hearly)
      have hih := ih (hb.acquire hc) (by rwa [acquire_last]) hcost' (by rwa [acquire_rate])
        (by rwa [acquire_cap])
      rw [acquire_cap, acquire_rate] at hih
      rw [granted_cons, hout, Bool.and_false, if_neg Bool.false_ne_true, zero_add]
      exact hih
    rcases lt_or_ge t2 c.time with hlate | hbefore
    · rw [granted_of_late (hrest.late hlate)]
      exact add_nonneg hcap hgain
    · -- the first call of the window finds at most a full bucket
      have hsame : granted t1 t2 (b.refill c.time) (c :: calls) = granted t1 t2 b (c :: calls) := by
        unfold granted
        rw [outcomes_refill hb hle (timely_cons.mpr ⟨le_rfl, hrest⟩)]
      have hlevel : granted t1 t2 (b.refill c.time) (c :: calls) ≤
          (b.refill c.time).level + (t2 - c.time) * b.rate :=
        granted_le_level (hb.refill c.time) (timely_cons.mpr ⟨le_rfl, hrest⟩) hcost hbefore
      have hfull := (hb.refill c.time).le_cap
      have hshort : (t2 - c.time) * b.rate ≤ (t2 - t1) * b.rate :=
        mul_le_mul_of_nonneg_right (sub_le_sub_left hin _) hb.rate
      rw [hsame] at hlevel
      calc granted t1 t2 b (c :: calls)
          ≤ (b.refill c.time).level + (t2 - c.time) * b.rate := hlevel
        _ ≤ b.cap + (t2 - t1) * b.rate := add_le_add hfull hshort

/-! ### Refused calls -/

/-- **A refused call leaves no trace**: without it the others are answered as with it. -/
theorem outcomes_of_thins {l' : List (Call K × Bool)} (hb : b.Good) (hcalls : Timely b.last calls)
    (hcost : ∀ c ∈ calls, 0 ≤ c.cost) (h : Thins (b.outcomes calls) l') :
    b.outcomes (l'.map (·.1)) = l' := by
  induction calls generalizing b l' with
  | nil =>
    cases h
    rfl
  | cons c calls ih =>
    obtain ⟨hle, hrest⟩ := timely_cons.mp hcalls
    have hc := hcost c List.mem_cons_self
    have hih : ∀ l', Thins ((b.acquire c).2.outcomes calls) l' →
        (b.acquire c).2.outcomes (l'.map (·.1)) = l' := fun l' =>
      ih (hb.acquire hc) (by rwa [acquire_last]) fun c' hc' =>
        hcost c' (List.mem_cons_of_mem _ hc')
    rw [outcomes_cons] at h
    rcases b.acquire_cases c with ⟨-, heq⟩ | ⟨-, heq⟩
    · rw [heq] at h hih
      cases h with
      | keep o h => rw [List.map_cons, outcomes_cons, heq, hih _ h]
    · rw [heq] at h hih
      cases h with
      | keep o h => rw [List.map_cons, outcomes_cons, heq, hih _ h]
      | drop c h =>
        have hsub := h.sublist.map (·.1)
        rw [map_fst_outcomes] at hsub
        rw [← outcomes_refill hb hle (hrest.sublist hsub), hih _ h]

/-! ### Calls within the bound -/

/-- No window asks for more than a full bucket and what flows in. -/
def Conforming (rate cap : K) (calls : List (Call K)) : Prop :=
  ∀ t1 t2, t1 ≤ t2 → requested t1 t2 calls ≤ cap + (t2 - t1) * rate

lemma requested_nonneg (t1 t2 : K) (hcost : ∀ c ∈ calls, 0 ≤ c.cost) :
    0 ≤ requested t1 t2 calls := by
  refine List.sum_nonneg fun x hx => ?_
  obtain ⟨c, hc, rfl⟩ := List.mem_map.mp hx
  exact hcost c (List.mem_filter.mp hc).1

/-- What is taken out in a window that ends with a call. -/
lemma cost_le_of_conforming {rate cap : K} (past recent : List (Call K)) (ht : t ≤ c.time)
    (hrecent : ∀ c' ∈ recent, t ≤ c'.time ∧ c'.time ≤ c.time)
    (hcost : ∀ c' ∈ past ++ recent ++ c :: calls, 0 ≤ c'.cost)
    (hconf : Conforming rate cap (past ++ recent ++ c :: calls)) :
    (recent.map (·.cost)).sum + c.cost ≤ cap + (c.time - t) * rate := by
  have hpast := requested_nonneg t c.time fun c' (hc' : c' ∈ past) => hcost c' (by simp [hc'])
  have hcalls := requested_nonneg t c.time fun c' (hc' : c' ∈ calls) => hcost c' (by simp [hc'])
  calc (recent.map (·.cost)).sum + c.cost
      ≤ requested t c.time past + (recent.map (·.cost)).sum +
          (c.cost + requested t c.time calls) := by linarith
    _ = requested t c.time (past ++ recent ++ c :: calls) := by
        rw [requested_append, requested_append, requested_cons,
          if_pos (inWindow_iff.mpr ⟨ht, le_rfl⟩), requested_of_inWindow hrecent]
    _ ≤ cap + (c.time - t) * rate := hconf t c.time ht

/-- The bucket has been full at `t`, and since then `recent` has been taken out. -/
lemma granted_of_conforming (past recent : List (Call K)) (hrate : 0 ≤ b.rate)
    (hlevel : b.level = b.cap + (b.last - t) * b.rate - (recent.map (·.cost)).sum)
    (htime : t ≤ b.last) (hrecent : ∀ c ∈ recent, t ≤ c.time ∧ c.time ≤ b.last)
    (hcalls : Timely b.last calls) (hcost : ∀ c ∈ past ++ recent ++ calls, 0 ≤ c.cost)
    (hconf : Conforming b.rate b.cap (past ++ recent ++ calls)) :
    ∀ o ∈ b.outcomes calls, o.2 = true := by
  induction calls generalizing b t past recent with
  | nil => exact fun o ho => absurd ho List.not_mem_nil
  | cons c calls ih =>
    obtain ⟨hle, hrest⟩ := timely_cons.mp hcalls
    have hin : ∀ c' ∈ recent, t ≤ c'.time ∧ c'.time ≤ c.time := fun c' hc' =>
      ⟨(hrecent c' hc').1, (hrecent c' hc').2.trans hle⟩
    -- the window since the bucket was full, and that of this call alone
    have hsince := cost_le_of_conforming past recent (htime.trans hle) hin hcost hconf
    have hnow : c.cost ≤ b.cap := by
      have halone := cost_le_of_conforming (past ++ recent) [] (le_refl c.time)
        (fun c' hc' => absurd hc' List.not_mem_nil) (by rwa [List.append_nil])
        (by rwa [List.append_nil])
      rwa [List.map_nil, List.sum_nil, zero_add, sub_self, zero_mul, add_zero] at halone
    have hfilled : (b.refill c.time).level =
        min (b.cap + (c.time - t) * b.rate - (recent.map (·.cost)).sum) b.cap := by
      rw [refill_level (sub_nonneg.mpr hle), hlevel]
      congr 1
      ring
    have henough : c.cost ≤ (b.refill c.time).level := by
      rw [hfilled]
      exact le_min (by linarith) hnow
    have hacquire : b.acquire c =
        (true, { b.refill c.time with level := (b.refill c.time).level - c.cost }) := if_pos henough
    rw [outcomes_cons, hacquire]
    refine List.forall_mem_cons.mpr ⟨rfl, ?_⟩
    rcases le_total (b.cap + (c.time - t) * b.rate - (recent.map (·.cost)).sum) b.cap with
      hless | hfull
    · -- it has not been full again
      have hassoc : past ++ (recent ++ [c]) ++ calls = past ++ recent ++ c :: calls := by simp
      refine ih past (recent ++ [c]) hrate ?_ (htime.trans hle) ?_ hrest (by rwa [hassoc])
        (by rwa [hassoc])
      · rw [min_eq_left hless] at hfilled
        simp only [List.map_append, List.map_cons, List.map_nil, List.sum_append, List.sum_cons,
          List.sum_nil, hfilled]
        change _ = b.cap + (c.time - t) * b.rate - _
        ring
      · intro c' hc'
        rcases List.mem_append.mp hc' with hc' | hc'
        · exact hin c' hc'
        · rw [List.mem_singleton.mp hc']
          exact ⟨htime.trans hle, le_rfl⟩
    · have hassoc : past ++ recent ++ [c] ++ calls = past ++ recent ++ c :: calls := by simp
      refine ih (past ++ recent) [c] hrate ?_ (le_refl c.time) ?_ hrest (by rwa [hassoc])
        (by rwa [hassoc])
      · rw [min_eq_right hfull] at hfilled
        simp only [List.map_cons, List.map_nil, List.sum_cons, List.sum_nil, hfilled]
        change _ = b.cap + (c.time - c.time) * b.rate - _
        ring
      · intro c' hc'
        rw [List.mem_singleton.mp hc']
        exact ⟨le_rfl, le_rfl⟩

/-- **Calls within the bound are granted**, from a full bucket on. -/
theorem outcomes_of_conforming (hrate : 0 ≤ b.rate) (hfull : b.level = b.cap)
    (hcalls : Timely b.last calls) (hcost : ∀ c ∈ calls, 0 ≤ c.cost)
    (hconf : Conforming b.rate b.cap calls) : ∀ o ∈ b.outcomes calls, o.2 = true := by
  refine granted_of_conforming [] [] hrate ?_ (le_refl b.last) ?_ hcalls hcost hconf
  · rw [hfull, sub_self, zero_mul]
    simp
  · exact fun c hc => absurd hc List.not_mem_nil

end TokenBucket

end HelbreathBackend.Lib
