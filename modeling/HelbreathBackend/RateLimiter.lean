import HelbreathBackend.Lib.TokenBucket
import Mathlib.Data.Rat.Cast.Order
import Mathlib.Algebra.Order.Field.Rat

/-!
The rate limiter of a connection.

The source computes with `f64`; here the numbers are rational and the arithmetic is exact. An
instant is its time in seconds. The clock is read once in a call.
-/

namespace HelbreathBackend.RateLimiter

open HelbreathBackend.Lib

structure TokenBucketRateLimiter where
  ratePerSec : ℚ
  burst : ℚ
  available : ℚ
  lastRefill : ℚ

/-- A call of `try_acquire`, and the instant it reads off the clock. -/
structure Attempt where
  now : ℚ
  cost : UInt32
  deriving DecidableEq

namespace TokenBucketRateLimiter

def new (ratePerSec burst : UInt32) (now : ℚ) : TokenBucketRateLimiter where
  ratePerSec := ratePerSec.toNat
  burst := burst.toNat
  available := burst.toNat
  lastRefill := now

/-- `duration_since` is zero when the clock has gone back. -/
def refill (l : TokenBucketRateLimiter) (now : ℚ) : TokenBucketRateLimiter :=
  let elapsed := max 0 (now - l.lastRefill)
  { l with
    lastRefill := now
    available := min (l.available + elapsed * l.ratePerSec) l.burst }

def tryAcquire (l : TokenBucketRateLimiter) (a : Attempt) : Bool × TokenBucketRateLimiter :=
  let l := l.refill a.now
  let cost : ℚ := a.cost.toNat
  if cost ≤ l.available then (true, { l with available := l.available - cost }) else (false, l)

def after (l : TokenBucketRateLimiter) (attempts : List Attempt) : TokenBucketRateLimiter :=
  attempts.foldl (fun l a => (l.tryAcquire a).2) l

/-- The attempts, each with whether it is granted. -/
def results (l : TokenBucketRateLimiter) : List Attempt → List (Attempt × Bool)
  | [] => []
  | a :: attempts => (a, (l.tryAcquire a).1) :: (l.tryAcquire a).2.results attempts

end TokenBucketRateLimiter

/-- The clock of a history does not go back. -/
def Clocked (start : ℚ) (attempts : List Attempt) : Prop :=
  (start :: attempts.map (·.now)).Pairwise (· ≤ ·)

instance (start : ℚ) (attempts : List Attempt) : Decidable (Clocked start attempts) :=
  inferInstanceAs (Decidable (List.Pairwise _ _))

/-- What the attempts of a window cost. -/
def costWithin (t1 t2 : ℚ) (attempts : List Attempt) : ℚ :=
  ((attempts.filter fun a => decide (t1 ≤ a.now) && decide (a.now ≤ t2)).map
    fun a => (a.cost.toNat : ℚ)).sum

def granted (results : List (Attempt × Bool)) : List Attempt :=
  (results.filter (·.2)).map (·.1)

/-! ### The limiter is a bucket -/

def Attempt.toCall (a : Attempt) : TokenBucket.Call ℚ := ⟨a.now, a.cost.toNat⟩

namespace TokenBucketRateLimiter

def toBucket (l : TokenBucketRateLimiter) : TokenBucket ℚ :=
  ⟨l.ratePerSec, l.burst, l.available, l.lastRefill⟩

lemma toBucket_tryAcquire (l : TokenBucketRateLimiter) (a : Attempt) :
    ((l.tryAcquire a).1, (l.tryAcquire a).2.toBucket) = l.toBucket.acquire a.toCall := by
  unfold tryAcquire TokenBucket.acquire
  dsimp only
  by_cases h : (a.cost.toNat : ℚ) ≤ (l.refill a.now).available
  · rw [if_pos h]
    exact (if_pos h).symm
  · rw [if_neg h]
    exact (if_neg h).symm

lemma toBucket_after (l : TokenBucketRateLimiter) (attempts : List Attempt) :
    (l.after attempts).toBucket = l.toBucket.after (attempts.map Attempt.toCall) := by
  induction attempts generalizing l with
  | nil => rfl
  | cons a attempts ih =>
    have hstep : (l.tryAcquire a).2.toBucket = (l.toBucket.acquire a.toCall).2 :=
      congrArg Prod.snd (l.toBucket_tryAcquire a)
    change ((l.tryAcquire a).2.after attempts).toBucket = _
    rw [ih, hstep]
    rfl

lemma outcomes_toBucket (l : TokenBucketRateLimiter) (attempts : List Attempt) :
    l.toBucket.outcomes (attempts.map Attempt.toCall) =
      (l.results attempts).map (Prod.map Attempt.toCall id) := by
  induction attempts generalizing l with
  | nil => rfl
  | cons a attempts ih =>
    have hstep := l.toBucket_tryAcquire a
    rw [List.map_cons, TokenBucket.outcomes_cons, ← hstep, ih]
    rfl

lemma good_new (ratePerSec burst : UInt32) (now : ℚ) :
    (new ratePerSec burst now).toBucket.Good where
  rate := Nat.cast_nonneg _
  nonneg := Nat.cast_nonneg _
  le_cap := le_refl (burst.toNat : ℚ)

end TokenBucketRateLimiter

variable {ratePerSec burst : UInt32} {start : ℚ} {attempts : List Attempt}

lemma timely_toCall (hclock : Clocked start attempts) :
    TokenBucket.Timely start (attempts.map Attempt.toCall) := by
  unfold TokenBucket.Timely
  rw [List.map_map]
  exact hclock

lemma cost_toCall : ∀ c ∈ attempts.map Attempt.toCall, 0 ≤ c.cost := by
  intro c hc
  obtain ⟨a, -, rfl⟩ := List.mem_map.mp hc
  exact Nat.cast_nonneg _

lemma requested_toCall (t1 t2 : ℚ) (attempts : List Attempt) :
    TokenBucket.requested t1 t2 (attempts.map Attempt.toCall) = costWithin t1 t2 attempts := by
  unfold TokenBucket.requested costWithin
  rw [List.filter_map, List.map_map]
  rfl

lemma granted_toCall (t1 t2 : ℚ) (l : TokenBucketRateLimiter) (attempts : List Attempt) :
    TokenBucket.granted t1 t2 l.toBucket (attempts.map Attempt.toCall) =
      costWithin t1 t2 (granted (l.results attempts)) := by
  unfold TokenBucket.granted granted
  rw [l.outcomes_toBucket, List.filter_map, List.map_map, ← requested_toCall, List.map_map]
  rfl

/-- **The bound of the rate limiter**: a window is granted at most the burst and what comes in at the
rate meanwhile; and what is available is never less than nothing nor more than the burst. -/
theorem tryAcquire_bounded (hclock : Clocked start attempts) :
    (∀ t1 t2, t1 ≤ t2 →
      costWithin t1 t2 (granted ((TokenBucketRateLimiter.new ratePerSec burst start).results
        attempts)) ≤ burst.toNat + ratePerSec.toNat * (t2 - t1)) ∧
    ∀ n now,
      let l := (TokenBucketRateLimiter.new ratePerSec burst start).after (attempts.take n)
      (0 ≤ l.available ∧ l.available ≤ burst.toNat) ∧
        0 ≤ (l.refill now).available ∧ (l.refill now).available ≤ burst.toNat := by
  have hgood := TokenBucketRateLimiter.good_new ratePerSec burst start
  constructor
  · intro t1 t2 ht
    have hle := TokenBucket.granted_le hgood (timely_toCall hclock) cost_toCall ht
    rw [granted_toCall] at hle
    rw [mul_comm]
    exact hle
  · intro n now l
    have hafter : l.toBucket.Good := by
      rw [TokenBucketRateLimiter.toBucket_after]
      exact hgood.after cost_toCall
    have hrefill : (l.refill now).toBucket.Good := hafter.refill now
    have hburst : l.burst = burst.toNat := by
      change l.toBucket.cap = _
      rw [TokenBucketRateLimiter.toBucket_after, TokenBucket.after_cap]
      rfl
    exact ⟨⟨hafter.nonneg, hafter.le_cap.trans hburst.le⟩,
      hrefill.nonneg, hrefill.le_cap.trans hburst.le⟩

/-- Two attempts at once with a burst of one, and one a second later: two of them are granted. -/
theorem tryAcquire_bounded_two :
    costWithin 0 1 (granted ((TokenBucketRateLimiter.new 1 1 0).results
        [⟨0, 1⟩, ⟨0, 1⟩, ⟨1, 1⟩])) ≤ 1 + 1 * (1 - 0) ∧
      granted ((TokenBucketRateLimiter.new 1 1 0).results [⟨0, 1⟩, ⟨0, 1⟩, ⟨1, 1⟩]) =
        [⟨0, 1⟩, ⟨1, 1⟩] := by
  have hclock : Clocked 0 [⟨0, 1⟩, ⟨0, 1⟩, ⟨1, 1⟩] := by decide +kernel
  exact ⟨(tryAcquire_bounded hclock).1 0 1 (by decide +kernel), by decide +kernel⟩

/-! ### Refused attempts -/

lemma toCall_injective : Function.Injective Attempt.toCall := by
  rintro ⟨now, cost⟩ ⟨now', cost'⟩ h
  simp only [Attempt.toCall, TokenBucket.Call.mk.injEq, Nat.cast_inj, UInt32.toNat_inj] at h
  rw [h.1, h.2]

/-- A history without some of the attempts that are refused in it. -/
lemma results_of_thins {kept : List (Attempt × Bool)} (hclock : Clocked start attempts)
    (h : Thins ((TokenBucketRateLimiter.new ratePerSec burst start).results attempts) kept) :
    (TokenBucketRateLimiter.new ratePerSec burst start).results (kept.map (·.1)) = kept := by
  have hthins := h.map Attempt.toCall
  rw [← TokenBucketRateLimiter.outcomes_toBucket] at hthins
  have hgood := TokenBucketRateLimiter.good_new ratePerSec burst start
  have hsame := TokenBucket.outcomes_of_thins hgood (timely_toCall hclock) cost_toCall hthins
  have hcalls : (kept.map (Prod.map Attempt.toCall id)).map (·.1) =
      (kept.map (·.1)).map Attempt.toCall := by
    rw [List.map_map, List.map_map]
    rfl
  rw [hcalls, TokenBucketRateLimiter.outcomes_toBucket] at hsame
  have hinj : Function.Injective (Prod.map Attempt.toCall (id : Bool → Bool)) :=
    toCall_injective.prodMap Function.injective_id
  exact List.map_injective_iff.mpr hinj hsame

lemma granted_of_costWithin_le (hclock : Clocked start attempts)
    (hconf : ∀ t1 t2, t1 ≤ t2 →
      costWithin t1 t2 attempts ≤ burst.toNat + ratePerSec.toNat * (t2 - t1)) :
    ∀ r ∈ (TokenBucketRateLimiter.new ratePerSec burst start).results attempts, r.2 = true := by
  have hall := TokenBucket.outcomes_of_conforming
    (b := (TokenBucketRateLimiter.new ratePerSec burst start).toBucket) (Nat.cast_nonneg _) rfl
    (timely_toCall hclock) cost_toCall fun t1 t2 ht => by
      rw [requested_toCall, mul_comm]
      exact hconf t1 t2 ht
  intro r hr
  rw [TokenBucketRateLimiter.outcomes_toBucket] at hall
  exact hall _ (List.mem_map_of_mem hr)

/-- **Refused attempts are invisible**: with them or without them, every other attempt is answered
the same. And nothing is refused as long as no window asks for more than the burst and what comes in
at the rate. -/
theorem refused_invisible :
    (∀ ratePerSec burst start attempts kept, Clocked start attempts →
      Thins ((TokenBucketRateLimiter.new ratePerSec burst start).results attempts) kept →
        (TokenBucketRateLimiter.new ratePerSec burst start).results (kept.map (·.1)) = kept) ∧
    ∀ ratePerSec burst start attempts, Clocked start attempts →
      (∀ t1 t2, t1 ≤ t2 →
        costWithin t1 t2 attempts ≤ burst.toNat + ratePerSec.toNat * (t2 - t1)) →
        ∀ r ∈ (TokenBucketRateLimiter.new ratePerSec burst start).results attempts, r.2 = true :=
  ⟨fun _ _ _ _ _ hclock h => results_of_thins hclock h,
    fun _ _ _ _ hclock hconf => granted_of_costWithin_le hclock hconf⟩

/-- The second of two attempts at once is refused, and leaving it out changes nothing; an attempt
alone is granted. -/
theorem refused_invisible_two :
    (TokenBucketRateLimiter.new 1 1 0).results [⟨0, 1⟩, ⟨1, 1⟩] =
        [(⟨0, 1⟩, true), (⟨1, 1⟩, true)] ∧
      ∀ r ∈ (TokenBucketRateLimiter.new 1 1 0).results [⟨0, 1⟩], r.2 = true := by
  have hthins : Thins
      ((TokenBucketRateLimiter.new 1 1 0).results [⟨0, 1⟩, ⟨0, 1⟩, ⟨1, 1⟩])
      [(⟨0, 1⟩, true), (⟨1, 1⟩, true)] := by
    have hresults : (TokenBucketRateLimiter.new 1 1 0).results [⟨0, 1⟩, ⟨0, 1⟩, ⟨1, 1⟩] =
        [(⟨0, 1⟩, true), (⟨0, 1⟩, false), (⟨1, 1⟩, true)] := by decide +kernel
    rw [hresults]
    exact .keep _ (.drop _ (.keep _ .nil))
  have hconf : ∀ t1 t2 : ℚ, t1 ≤ t2 → costWithin t1 t2 [⟨0, 1⟩] ≤
      (1 : UInt32).toNat + (1 : UInt32).toNat * (t2 - t1) := by
    intro t1 t2 ht
    have hcost : costWithin t1 t2 [⟨0, 1⟩] ≤ 1 := by
      unfold costWithin
      rw [List.filter_cons]
      split
      · simp
      · simp
    have hone : ((1 : UInt32).toNat : ℚ) = 1 := rfl
    rw [hone]
    linarith
  exact ⟨refused_invisible.1 1 1 0 [⟨0, 1⟩, ⟨0, 1⟩, ⟨1, 1⟩] _ (by decide +kernel) hthins,
    refused_invisible.2 1 1 0 [⟨0, 1⟩] (by decide +kernel) hconf⟩

end HelbreathBackend.RateLimiter
