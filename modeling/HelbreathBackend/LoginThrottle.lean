import HelbreathBackend.Lib.FiniteMap
import HelbreathBackend.Lib.FixedWindow
import Mathlib.Algebra.Order.Group.Nat

/-!
The throttle of the login.

Every remote address has a window of its own, in a table they share. A window is started anew by the
first call that finds it over; until then its calls are counted. An instant is its time in
nanoseconds.
-/

namespace HelbreathBackend.LoginThrottle

open HelbreathBackend.Lib HelbreathBackend.Lib.FixedWindow

/-- `WINDOW`: sixty seconds. -/
def window : ℕ := 60000000000

/-- `MAX_ATTEMPTS`. -/
def maxAttempts : UInt32 := 30

structure RateWindow where
  startedAt : ℕ
  attempts : UInt32
  deriving DecidableEq

abbrev RateTable := FMap String RateWindow

/-- A call of `is_rate_limited`, and the instant it reads off the clock. -/
structure Call where
  key : String
  now : ℕ
  deriving DecidableEq

/-- `saturating_add(1)`. -/
def saturatingSucc (n : UInt32) : UInt32 := if n.toNat = 2 ^ 32 - 1 then n else n + 1

/-- What a call makes of the entry of its key; `duration_since` is zero for an instant that is
not later. -/
def RateWindow.counted (entry : Option RateWindow) (now : ℕ) : RateWindow :=
  let entry := entry.getD ⟨now, 0⟩
  let entry := if window < now - entry.startedAt then ⟨now, 0⟩ else entry
  { entry with attempts := saturatingSucc entry.attempts }

def isRateLimited (table : RateTable) (c : Call) : Bool × RateTable :=
  let entry := RateWindow.counted (table.lookup c.key) c.now
  (decide (maxAttempts < entry.attempts), table.insert c.key entry)

/-- The calls, each with whether it is limited. -/
def results : RateTable → List Call → List (Call × Bool)
  | _, [] => []
  | table, c :: calls => (c, (isRateLimited table c).1) :: results (isRateLimited table c).2 calls

def timesOf (key : String) (calls : List Call) : List ℕ :=
  (calls.filter (·.key == key)).map (·.now)

/-- The calls of one key, by their times, each with whether it is let through. -/
def letThrough (key : String) (rs : List (Call × Bool)) : List (ℕ × Bool) :=
  (rs.filter (·.1.key == key)).map fun r => (r.1.now, !r.2)

/-! ### One key -/

/-- The calls of one key, with nothing but its own entry. -/
def passes : Option RateWindow → List ℕ → List (ℕ × Bool)
  | _, [] => []
  | entry, now :: rest =>
    (now, !decide (maxAttempts < (RateWindow.counted entry now).attempts)) ::
      passes (some (RateWindow.counted entry now)) rest

lemma lookup_isRateLimited (table : RateTable) (c : Call) (key : String) :
    (isRateLimited table c).2.lookup key =
      if key = c.key then some (RateWindow.counted (table.lookup c.key) c.now)
      else table.lookup key := FMap.lookup_insert_eq _ _ _ _

lemma letThrough_results (key : String) (table : RateTable) (calls : List Call) :
    letThrough key (results table calls) = passes (table.lookup key) (timesOf key calls) := by
  induction calls generalizing table with
  | nil => rfl
  | cons c calls ih =>
    have hih := ih (isRateLimited table c).2
    rw [lookup_isRateLimited] at hih
    unfold letThrough timesOf at hih ⊢
    rw [results, List.filter_cons, List.filter_cons]
    by_cases hkey : c.key = key
    · rw [if_pos (beq_iff_eq.mpr hkey), if_pos (beq_iff_eq.mpr hkey), List.map_cons, hih,
        if_pos hkey.symm, List.map_cons, passes, hkey]
      rw [← hkey]
      rfl
    · rw [if_neg fun h => hkey (beq_iff_eq.mp h), if_neg fun h => hkey (beq_iff_eq.mp h), hih,
        if_neg (Ne.symm hkey)]

lemma saturatingSucc_toNat (n : UInt32) :
    (saturatingSucc n).toNat = min (n.toNat + 1) (2 ^ 32 - 1) := by
  have hlt := n.toNat_lt
  unfold saturatingSucc
  split
  · next h => omega
  · next h =>
    have hadd : (n + 1).toNat = (n.toNat + 1) % 2 ^ 32 := UInt32.toNat_add n 1
    omega

lemma counted_within {s a now} (h : now ≤ s + window) :
    RateWindow.counted (some ⟨s, a⟩) now = ⟨s, saturatingSucc a⟩ := by
  unfold RateWindow.counted
  rw [Option.getD_some]
  dsimp only
  rw [if_neg (by omega)]

lemma counted_after {s a now} (h : s + window < now) :
    RateWindow.counted (some ⟨s, a⟩) now = ⟨now, 1⟩ := by
  unfold RateWindow.counted
  rw [Option.getD_some]
  dsimp only
  rw [if_pos (by omega)]
  rfl

lemma counted_none (now : ℕ) : RateWindow.counted none now = ⟨now, 1⟩ := by
  unfold RateWindow.counted
  rw [Option.getD_none]
  dsimp only
  rw [if_neg (by omega)]
  rfl

/-- From a window with `a` calls on: what is left of it, and then the windows after it. -/
lemma passes_some (s : ℕ) (a : UInt32) (ts : List ℕ) : passes (some ⟨s, a⟩) ts =
    mark (30 - a.toNat) (ts.takeWhile (· ≤ s + window)) ++
      admitted window 30 (ts.dropWhile (· ≤ s + window)) := by
  induction ts generalizing s a with
  | nil =>
    rw [List.takeWhile_nil, List.dropWhile_nil, admitted_nil]
    simp [passes, mark]
  | cons t ts ih =>
    rw [List.takeWhile_cons, List.dropWhile_cons, passes]
    rcases le_or_gt t (s + window) with hin | hout
    · rw [if_pos (decide_eq_true hin), if_pos (decide_eq_true hin), counted_within hin, ih,
        saturatingSucc_toNat]
      have hlimit : maxAttempts < saturatingSucc a ↔ 30 ≤ a.toNat := by
        rw [UInt32.lt_iff_toNat_lt, saturatingSucc_toNat]
        change 30 < _ ↔ _
        omega
      rcases lt_or_ge a.toNat 30 with hfew | hmany
      · have hnot : ¬ maxAttempts < saturatingSucc a := fun h => absurd (hlimit.mp h) (by omega)
        have hleft : 30 - a.toNat = 30 - min (a.toNat + 1) (2 ^ 32 - 1) + 1 := by omega
        rw [hleft, mark_succ_cons, List.cons_append, decide_eq_false hnot]
        rfl
      · have hnone : 30 - a.toNat = 0 := by omega
        have hnone' : 30 - min (a.toNat + 1) (2 ^ 32 - 1) = 0 := by omega
        rw [hnone, hnone', mark_zero_cons, List.cons_append, decide_eq_true (hlimit.mpr hmany)]
        rfl
    · have hnot : ¬ decide (t ≤ s + window) = true := fun h => by
        have hle := of_decide_eq_true h
        omega
      have hempty : mark (30 - a.toNat) ([] : List ℕ) = [] := by simp [mark]
      rw [if_neg hnot, if_neg hnot, counted_after hout, ih, admitted_cons, mark_succ_cons, hempty]
      rfl

/-- **The windows of a key**: the first thirty calls of each are let through. -/
lemma passes_none (ts : List ℕ) : passes none ts = admitted window 30 ts := by
  cases ts with
  | nil => rw [passes, admitted_nil]
  | cons t ts =>
    rw [passes, counted_none, passes_some, admitted_cons, mark_succ_cons]
    rfl

/-! ### All keys -/

lemma filter_results (key : String) (table table' : RateTable)
    (hsame : table.lookup key = table'.lookup key) (calls : List Call) :
    (results table calls).filter (·.1.key == key) =
      results table' (calls.filter (·.key == key)) := by
  induction calls generalizing table table' with
  | nil => rfl
  | cons c calls ih =>
    rw [results, List.filter_cons, List.filter_cons]
    by_cases hkey : c.key = key
    · subst hkey
      have hlimited : (isRateLimited table c).1 = (isRateLimited table' c).1 := by
        rw [isRateLimited, isRateLimited, hsame]
      have hentry : (isRateLimited table c).2.lookup c.key =
          (isRateLimited table' c).2.lookup c.key := by
        rw [lookup_isRateLimited, lookup_isRateLimited, hsame]
      rw [if_pos (beq_self_eq_true _), if_pos (beq_self_eq_true _), results, hlimited,
        ih _ _ hentry]
    · have hentry : (isRateLimited table c).2.lookup key = table'.lookup key := by
        rw [lookup_isRateLimited, if_neg (Ne.symm hkey), hsame]
      rw [if_neg fun h => hkey (beq_iff_eq.mp h), if_neg fun h => hkey (beq_iff_eq.mp h),
        ih _ _ hentry]

/-- **Login throttling**: of the calls of one key, in order of time, at most sixty are let through in
any sixty seconds; the first thirty of each of its windows are let through, and no others; and the
calls of other keys make no difference to its answers. -/
theorem login_throttling (key : String) (calls : List Call) :
    ((calls.map (·.now)).Pairwise (· ≤ ·) →
      ∀ t, letIn t (t + window) (letThrough key (results ∅ calls)) ≤ 60) ∧
    letThrough key (results ∅ calls) = admitted window 30 (timesOf key calls) ∧
    (results ∅ calls).filter (·.1.key == key) = results ∅ (calls.filter (·.key == key)) := by
  have hwindows : letThrough key (results ∅ calls) = admitted window 30 (timesOf key calls) := by
    rw [letThrough_results, ← passes_none]
    rfl
  refine ⟨fun hclock t => ?_, hwindows, filter_results key ∅ ∅ rfl calls⟩
  have hsorted : (timesOf key calls).Pairwise (· ≤ ·) :=
    hclock.sublist (List.filter_sublist.map _)
  rw [hwindows]
  exact letIn_le hsorted t

/-- Two addresses. One calls seventy times, mostly at the end of its first window and at the
beginning of its second; ten of these calls are refused. -/
theorem login_throttling_two :
    let calls := ⟨"10.0.0.1", 0⟩ :: List.replicate 34 ⟨"10.0.0.1", 59000000000⟩ ++
      ⟨"10.0.0.2", 59500000000⟩ :: List.replicate 35 ⟨"10.0.0.1", 60000000001⟩
    (letThrough "10.0.0.1" (results ∅ calls)).countP (fun c => !c.2) = 10 ∧
      letIn 1 (1 + window) (letThrough "10.0.0.1" (results ∅ calls)) ≤ 60 := by
  intro calls
  exact ⟨by decide +kernel, (login_throttling "10.0.0.1" calls).1 (by decide +kernel) 1⟩

end HelbreathBackend.LoginThrottle
