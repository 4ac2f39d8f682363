import HelbreathBackend.Lib.FiniteMap
import HelbreathBackend.Lib.Transition
import Mathlib.Algebra.BigOperators.Group.Finset.Piecewise
import Mathlib.Algebra.Order.BigOperators.Group.Finset
import Mathlib.Algebra.Order.Ring.Rat

/-!
Counters with a lifetime, in a store that many share.

A counter begins with its first increment and is gone when its deadline is over; to renew it puts
the deadline a while ahead. All that is known of a store is the counter it has under a key at a
time, and what the operations do to it. Entries of a history that are numbered as they come are
counted by their numbers.
-/

namespace HelbreathBackend.Lib

structure Counter where
  count : ℕ
  /-- without one, it stays -/
  deadline : Option ℚ

/-- The counter is there at a time. -/
def Counter.alive (now : ℚ) (c : Counter) : Bool := c.deadline.all fun d => now ≤ d

structure CounterStore (σ κ : Type) where
  incr : ℚ → κ → σ → Option ℕ × σ
  renew : ℚ → κ → σ → σ
  /-- the counter under a key at a time -/
  get : ℚ → κ → σ → Option Counter

namespace CounterStore

variable {σ κ : Type}

/-- What the operations of a store do, which counts up to `cap` and renews for `ttl`. -/
structure Lawful (S : CounterStore σ κ) (cap : ℕ) (ttl : ℚ) : Prop where
  get_later : ∀ {now later k s}, now ≤ later →
    S.get later k s = (S.get now k s).filter (Counter.alive later)
  incr_none : ∀ {now k s}, S.get now k s = none →
    (S.incr now k s).1 = some 1 ∧ S.get now k (S.incr now k s).2 = some ⟨1, none⟩
  incr_some : ∀ {now k s c}, S.get now k s = some c → c.count < cap →
    (S.incr now k s).1 = some (c.count + 1) ∧
      S.get now k (S.incr now k s).2 = some { c with count := c.count + 1 }
  incr_full : ∀ {now k s c}, S.get now k s = some c → cap ≤ c.count →
    (S.incr now k s).1 = none ∧ S.get now k (S.incr now k s).2 = some c
  incr_other : ∀ {now k k' s}, k' ≠ k → S.get now k' (S.incr now k s).2 = S.get now k' s
  renew_self : ∀ {now k s}, S.get now k (S.renew now k s) =
    (S.get now k s).map fun c => { c with deadline := some (now + ttl) }
  renew_other : ∀ {now k k' s}, k' ≠ k → S.get now k' (S.renew now k s) = S.get now k' s

section

variable [DecidableEq κ]

/-- A store that keeps its counters in a table. -/
def table (cap : ℕ) (ttl : ℚ) : CounterStore (FMap κ Counter) κ where
  get now k m := (m.lookup k).filter (Counter.alive now)
  incr now k m :=
    match (m.lookup k).filter (Counter.alive now) with
    | none => (some 1, m.insert k ⟨1, none⟩)
    | some c =>
      if c.count < cap then (some (c.count + 1), m.insert k { c with count := c.count + 1 })
      else (none, m)
  renew now k m :=
    match (m.lookup k).filter (Counter.alive now) with
    | none => m
    | some c => m.insert k { c with deadline := some (now + ttl) }

lemma get_insert_self {cap : ℕ} {ttl now : ℚ} {k : κ} {c : Counter} (m : FMap κ Counter)
    (hc : c.alive now = true) : (table cap ttl).get now k (m.insert k c) = some c := by
  change ((m.insert k c).lookup k).filter (Counter.alive now) = some c
  rw [Finmap.lookup_insert, Option.filter_some, if_pos hc]

lemma get_insert_other {cap : ℕ} {ttl now : ℚ} {k k' : κ} {c : Counter} (m : FMap κ Counter)
    (hk : k' ≠ k) : (table cap ttl).get now k' (m.insert k c) = (table cap ttl).get now k' m := by
  change ((m.insert k c).lookup k').filter _ = (m.lookup k').filter _
  rw [Finmap.lookup_insert_of_ne _ hk]

/-- A counter that is there is alive. -/
lemma alive_of_get {cap : ℕ} {ttl now : ℚ} {k : κ} {c : Counter} {m : FMap κ Counter}
    (h : (table cap ttl).get now k m = some c) : c.alive now = true :=
  (Option.filter_eq_some_iff.mp h).2

lemma incr_table (cap : ℕ) (ttl now : ℚ) (k : κ) (m : FMap κ Counter) :
    (table cap ttl).incr now k m =
      match (table cap ttl).get now k m with
      | none => (some 1, m.insert k ⟨1, none⟩)
      | some c =>
        if c.count < cap then (some (c.count + 1), m.insert k { c with count := c.count + 1 })
        else (none, m) := rfl

lemma renew_table (cap : ℕ) (ttl now : ℚ) (k : κ) (m : FMap κ Counter) :
    (table cap ttl).renew now k m =
      match (table cap ttl).get now k m with
      | none => m
      | some c => m.insert k { c with deadline := some (now + ttl) } := rfl

/-- **Such a store is lawful.** -/
theorem lawful_table (cap : ℕ) {ttl : ℚ} (httl : 0 ≤ ttl) :
    (table (κ := κ) cap ttl).Lawful cap ttl where
  get_later {now later k m} hle := by
    change (m.lookup k).filter _ = ((m.lookup k).filter _).filter _
    rw [Option.filter_filter]
    congr 1
    funext c
    obtain ⟨n, _ | d⟩ := c
    · rfl
    · simp only [Counter.alive, Option.all_some]
      by_cases hd : later ≤ d
      · simp [hd, hle.trans hd]
      · simp [hd]
  incr_none {now k m} h := by
    rw [incr_table, h]
    exact ⟨rfl, get_insert_self m rfl⟩
  incr_some {now k m c} h hc := by
    rw [incr_table, h]
    dsimp only
    rw [if_pos hc]
    have halive : c.alive now = true := alive_of_get h
    exact ⟨rfl, get_insert_self m halive⟩
  incr_full {now k m c} h hc := by
    rw [incr_table, h]
    dsimp only
    rw [if_neg (not_lt.mpr hc)]
    exact ⟨rfl, h⟩
  incr_other {now k k' m} hk := by
    rw [incr_table]
    rcases (table cap ttl).get now k m with _ | c
    · exact get_insert_other m hk
    · dsimp only
      split
      · exact get_insert_other m hk
      · rfl
  renew_self {now k m} := by
    rw [renew_table]
    rcases h : (table cap ttl).get now k m with _ | c
    · exact h
    · exact get_insert_self m (decide_eq_true (le_add_of_nonneg_right httl))
  renew_other {now k k' m} hk := by
    rw [renew_table]
    rcases (table cap ttl).get now k m with _ | c
    · rfl
    · exact get_insert_other m hk

end

end CounterStore

/-! ### Entries that are numbered as they come -/

section

variable {α : Type*} {p : α → Bool} {number : α → Option ℕ} {l : List α}

/-- Where the entries of a kind are numbered from one on as they come, if they are numbered at all,
at most `n` of them have a number up to `n`. -/
theorem countP_number_le (h : Along (fun pre x => p x = true →
    number x = some (pre.countP p + 1) ∨ number x = none) l) (n : ℕ) :
    l.countP (fun x => p x && (number x).any (· ≤ n)) ≤ n := by
  have hle : ∀ l : List α, l.countP (fun x => p x && (number x).any (· ≤ n)) ≤ l.countP p :=
    fun l => List.countP_mono_left fun x _ hx => (Bool.and_eq_true_iff.mp hx).1
  induction l using List.reverseRecOn with
  | nil => exact Nat.zero_le n
  | append_singleton l x ih =>
    obtain ⟨hbefore, hx⟩ := along_snoc.mp h
    rw [List.countP_append, List.countP_singleton]
    by_cases hpx : (p x && (number x).any (· ≤ n)) = true
    · rw [if_pos hpx]
      obtain ⟨hp, hnumber⟩ := Bool.and_eq_true_iff.mp hpx
      rcases hx hp with hn | hn
      · rw [hn, Option.any_some, decide_eq_true_eq] at hnumber
        have := hle l
        omega
      · rw [hn] at hnumber
        cases hnumber
    · rw [if_neg hpx]
      exact ih hbefore

/-- Entries of finitely many kinds, at most `n` of each. -/
theorem countP_le_card_mul {κ : Type*} [DecidableEq κ] (kinds : Finset κ) (kind : α → κ) (n : ℕ)
    (hkind : ∀ x ∈ l, p x = true → kind x ∈ kinds)
    (hn : ∀ k ∈ kinds, l.countP (fun x => p x && decide (kind x = k)) ≤ n) :
    l.countP p ≤ kinds.card * n := by
  have hsum : ∀ l : List α, (∀ x ∈ l, p x = true → kind x ∈ kinds) →
      l.countP p = ∑ k ∈ kinds, l.countP fun x => p x && decide (kind x = k) := by
    intro l
    induction l with
    | nil => intro _; simp
    | cons x l ih =>
      intro h
      have ih' := ih fun y hy => h y (List.mem_cons_of_mem _ hy)
      simp only [List.countP_cons, Finset.sum_add_distrib, ← ih']
      congr 1
      by_cases hp : p x = true
      · have hx := h x List.mem_cons_self hp
        simp only [hp, Bool.true_and, decide_eq_true_eq, if_true]
        rw [Finset.sum_ite_eq, if_pos hx]
      · simp [hp]
  rw [hsum l hkind]
  exact Finset.sum_le_card_nsmul kinds _ n hn

end

end HelbreathBackend.Lib
