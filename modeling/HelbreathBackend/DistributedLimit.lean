import HelbreathBackend.Lib.ExpiringCounter
import Mathlib.Algebra.Order.Floor.Semiring
import Mathlib.Data.Rat.Floor
import Mathlib.Order.Interval.Finset.Nat
import Mathlib.Tactic.Linarith

/-!
The rate limiter that gateways share.

Connections of any number of gateways count their frames in one store, under keys of the address
and of the second that the gateway's own clock shows. The two commands of an attempt are run one
after the other, with those of other attempts in between; the reply may be lost, or given up and
the commands run later. Then the frame is left to the limiter of the connection.
-/

namespace HelbreathBackend.DistributedLimit

open HelbreathBackend.Lib

/-- `rate_limit_per_sec.saturating_add(rate_limit_burst).max(1)` -/
def distributedLimit (perSec burst : UInt32) : ℕ :=
  max (min (perSec.toNat + burst.toNat) (2 ^ 32 - 1)) 1

def rateKey (remoteIp : String) (unixSecond : ℕ) : String :=
  s!"hb:gateway:rate:{remoteIp}:{unixSecond}"

/-- What `try_acquire_distributed_rate_limit` makes of the reply to `INCR`, unless it fails: the
number has to fit in a `u32`. -/
def verdict (perSecondLimit : ℕ) (reply : Option ℕ) : Option Bool :=
  reply.bind fun count =>
    if count ≤ 2 ^ 32 - 1 then some (decide (count ≤ perSecondLimit)) else none

/-! ### Attempts -/

/-- An increment: for which attempt, when, and what was replied. -/
structure Count where
  id : ℕ
  remoteIp : String
  unixSecond : ℕ
  time : ℚ
  reply : Option ℕ

/-- How far the commands of an attempt are. -/
inductive Stage
  | sent
  | counted (c : Count)
  | renewed (c : Count)

structure Attempt where
  remoteIp : String
  unixSecond : ℕ
  stage : Stage
  /-- the connection waits for the reply -/
  waiting : Bool

structure Limiter (σ : Type) where
  store : σ
  /-- the clock of the store, in seconds -/
  now : ℚ
  attempts : FMap ℕ Attempt
  next : ℕ
  /-- history: the increments so far -/
  counted : List Count
  /-- history: the increments of the attempts that were allowed -/
  allowed : List Count

inductive Action
  | wait (time : ℚ)
  /-- a connection begins an attempt; the second is what its gateway's clock shows -/
  | acquire (remoteIp : String) (unixSecond : ℕ)
  | incr (i : ℕ)
  | expire (i : ℕ)
  /-- the replies reach the connection -/
  | answer (i : ℕ)
  /-- the connection is told of an error, whatever becomes of the commands -/
  | giveUp (i : ℕ)

section

variable {σ : Type} (S : CounterStore σ String) (perSecondLimit : ℕ)

def acquire (r : Limiter σ) (remoteIp : String) (unixSecond : ℕ) : Limiter σ :=
  { r with
    attempts := r.attempts.insert r.next ⟨remoteIp, unixSecond, .sent, true⟩
    next := r.next + 1 }

def incr (r : Limiter σ) (i : ℕ) : Option (Limiter σ) :=
  match r.attempts.lookup i with
  | some ⟨ip, second, .sent, waiting⟩ =>
    let (reply, store) := S.incr r.now (rateKey ip second) r.store
    let c : Count := ⟨i, ip, second, r.now, reply⟩
    some { r with
      store := store
      attempts := r.attempts.insert i ⟨ip, second, .counted c, waiting⟩
      counted := r.counted ++ [c] }
  | _ => none

def expire (r : Limiter σ) (i : ℕ) : Option (Limiter σ) :=
  match r.attempts.lookup i with
  | some ⟨ip, second, .counted c, waiting⟩ =>
    some { r with
      store := S.renew r.now (rateKey ip second) r.store
      attempts := r.attempts.insert i ⟨ip, second, .renewed c, waiting⟩ }
  | _ => none

/-- The attempt, if it is allowed. -/
def passed (c : Count) : List Count :=
  if verdict perSecondLimit c.reply = some true then [c] else []

def answer (r : Limiter σ) (i : ℕ) : Option (Limiter σ) :=
  match r.attempts.lookup i with
  | some ⟨_, _, .renewed c, true⟩ =>
    some { r with
      attempts := r.attempts.erase i
      allowed := r.allowed ++ passed perSecondLimit c }
  | _ => none

def giveUp (r : Limiter σ) (i : ℕ) : Option (Limiter σ) :=
  match r.attempts.lookup i with
  | some a => some { r with attempts := r.attempts.insert i { a with waiting := false } }
  | none => none

def step (r : Limiter σ) : Action → Option (Limiter σ)
  | .wait time => if r.now ≤ time then some { r with now := time } else none
  | .acquire remoteIp unixSecond => some (acquire r remoteIp unixSecond)
  | .incr i => incr S r i
  | .expire i => expire S r i
  | .answer i => answer perSecondLimit r i
  | .giveUp i => giveUp r i

/-- At the beginning the store has no counters. -/
def system : System (Limiter σ) Action where
  init r := ∃ store now, (∀ key, S.get now key store = none) ∧ r = ⟨store, now, ∅, 0, [], []⟩
  step := step S perSecondLimit

end

/-- The clock of the store is at most `early` behind the second an attempt is counted for, and at
most `late` over its end: so far the clocks differ, and so long a command is on its way. -/
def Punctual {σ : Type} (early late : ℚ) (r : Limiter σ) : Action → Prop
  | .incr i => ∀ a ∈ r.attempts.lookup i,
    a.unixSecond - early ≤ r.now ∧ r.now ≤ a.unixSecond + 1 + late
  | _ => True

instance {σ : Type} (early late : ℚ) (r : Limiter σ) (a : Action) :
    Decidable (Punctual early late r a) :=
  match a with
  | .incr i => inferInstanceAs (Decidable (∀ a ∈ r.attempts.lookup i,
      a.unixSecond - early ≤ r.now ∧ r.now ≤ a.unixSecond + 1 + late))
  | .wait _ | .acquire _ _ | .expire _ | .answer _ | .giveUp _ => .isTrue trivial

/-! ### Keys -/

lemma append_cons_inj {α : Type} [DecidableEq α] {a : α} {l l' d d' : List α} (hd : a ∉ d)
    (hd' : a ∉ d') (h : l ++ a :: d = l' ++ a :: d') : l = l' ∧ d = d' := by
  have hcut : ∀ {l d : List α}, a ∉ d →
      ((l ++ a :: d).reverse.takeWhile (· ≠ a)).reverse = d ∧
        (((l ++ a :: d).reverse.dropWhile (· ≠ a)).drop 1).reverse = l := by
    intro l d hd
    have hall : ∀ x ∈ d.reverse, decide (x ≠ a) = true := fun x hx =>
      decide_eq_true fun he => hd (he ▸ List.mem_reverse.mp hx)
    have hrev : (l ++ a :: d).reverse = d.reverse ++ a :: l.reverse := by simp
    have hstop : (a :: l.reverse).takeWhile (· ≠ a) = [] := by simp
    have hgo : (a :: l.reverse).dropWhile (· ≠ a) = a :: l.reverse := by simp
    rw [hrev, List.takeWhile_append_of_pos hall, List.dropWhile_append_of_pos hall, hstop, hgo]
    simp
  obtain ⟨h₁, h₂⟩ := hcut (l := l) hd
  obtain ⟨h₁', h₂'⟩ := hcut (l := l') hd'
  rw [h] at h₁ h₂
  exact ⟨h₂.symm.trans h₂', h₁.symm.trans h₁'⟩

lemma toList_toString (n : ℕ) : (toString n).toList = Nat.toDigits 10 n := by
  change (Nat.repr n).toList = _
  unfold Nat.repr
  exact String.toList_ofList

lemma colon_notMem (n : ℕ) : ':' ∉ (toString n).toList := by
  intro h
  rw [toList_toString] at h
  have hdigit := Nat.isDigit_of_mem_toDigits (by decide) (by decide) h
  cases hdigit

/-- Keys of different addresses or seconds are different, also where the address has colons. -/
lemma rateKey_inj {ip ip' : String} {second second' : ℕ}
    (h : rateKey ip second = rateKey ip' second') : ip = ip' ∧ second = second' := by
  have hlist := congrArg String.toList h
  have hkey : ∀ (ip : String) (second : ℕ), (rateKey ip second).toList =
      "hb:gateway:rate:".toList ++ (ip.toList ++ ':' :: (toString second).toList) := by
    intro ip second
    unfold rateKey
    simp only [String.toList_append, List.append_assoc]
    rfl
  rw [hkey, hkey] at hlist
  obtain ⟨hip, hsecond⟩ := append_cons_inj (colon_notMem _) (colon_notMem _)
    (List.append_cancel_left hlist)
  rw [toList_toString, toList_toString] at hsecond
  have hnumber := congrArg (fun l => Nat.ofDigitChars 10 l 0) hsecond
  simp only [Nat.ofDigitChars_toDigits (by decide : 1 < 10) (by decide : 10 ≤ 10)] at hnumber
  exact ⟨String.toList_injective hip, hnumber⟩

/-! ### Attempts and increments -/

def Stage.count : Stage → Option Count
  | .sent => none
  | .counted c => some c
  | .renewed c => some c

section

variable {σ : Type} {S : CounterStore σ String} {perSecondLimit : ℕ} {r r' : Limiter σ} {i : ℕ}

/-- What one step is. -/
inductive Step (S : CounterStore σ String) (perSecondLimit : ℕ) (r : Limiter σ) :
    Action → Limiter σ → Prop
  | wait {time : ℚ} (h : r.now ≤ time) : Step S perSecondLimit r (.wait time) { r with now := time }
  | acquire (remoteIp : String) (unixSecond : ℕ) :
      Step S perSecondLimit r (.acquire remoteIp unixSecond) (acquire r remoteIp unixSecond)
  | incr {i : ℕ} {a : Attempt} (hi : r.attempts.lookup i = some a) (hstage : a.stage = .sent)
      {c : Count} (hc : c = ⟨i, a.remoteIp, a.unixSecond, r.now,
        (S.incr r.now (rateKey a.remoteIp a.unixSecond) r.store).1⟩) :
      Step S perSecondLimit r (.incr i) { r with
        store := (S.incr r.now (rateKey a.remoteIp a.unixSecond) r.store).2
        attempts := r.attempts.insert i { a with stage := .counted c }
        counted := r.counted ++ [c] }
  | expire {i : ℕ} {a : Attempt} {c : Count} (hi : r.attempts.lookup i = some a)
      (hstage : a.stage = .counted c) :
      Step S perSecondLimit r (.expire i) { r with
        store := S.renew r.now (rateKey a.remoteIp a.unixSecond) r.store
        attempts := r.attempts.insert i { a with stage := .renewed c } }
  | answer {i : ℕ} {a : Attempt} {c : Count} (hi : r.attempts.lookup i = some a)
      (hstage : a.stage = .renewed c) :
      Step S perSecondLimit r (.answer i) { r with
        attempts := r.attempts.erase i
        allowed := r.allowed ++ passed perSecondLimit c }
  | giveUp {i : ℕ} {a : Attempt} (hi : r.attempts.lookup i = some a) :
      Step S perSecondLimit r (.giveUp i)
        { r with attempts := r.attempts.insert i { a with waiting := false } }

lemma step_cases {a : Action} (h : step S perSecondLimit r a = some r') :
    Step S perSecondLimit r a r' := by
  cases a with
  | wait time =>
    simp only [step] at h
    split at h
    · next hle =>
      cases h
      exact .wait hle
    · cases h
  | acquire remoteIp unixSecond =>
    cases h
    exact .acquire remoteIp unixSecond
  | incr i =>
    simp only [step, DistributedLimit.incr] at h
    split at h
    · next ip second waiting hi =>
      cases h
      exact .incr (a := ⟨ip, second, .sent, waiting⟩) hi rfl rfl
    · cases h
  | expire i =>
    simp only [step, DistributedLimit.expire] at h
    split at h
    · next ip second c waiting hi =>
      cases h
      exact .expire (a := ⟨ip, second, .counted c, waiting⟩) hi rfl
    · cases h
  | answer i =>
    simp only [step, DistributedLimit.answer] at h
    split at h
    · next ip second c hi =>
      cases h
      exact .answer (a := ⟨ip, second, .renewed c, true⟩) hi rfl
    · cases h
  | giveUp i =>
    simp only [step, DistributedLimit.giveUp] at h
    split at h
    · next a hi =>
      cases h
      exact .giveUp hi
    · cases h

/-- Each attempt is counted once and allowed once. -/
structure Tidy (perSecondLimit : ℕ) (r : Limiter σ) : Prop where
  below : ∀ i a, r.attempts.lookup i = some a → i < r.next
  counted_below : ∀ c ∈ r.counted, c.id < r.next
  sent : ∀ i a, r.attempts.lookup i = some a → a.stage = .sent → ∀ c ∈ r.counted, c.id ≠ i
  placed : ∀ i a c, r.attempts.lookup i = some a → a.stage.count = some c →
    c ∈ r.counted ∧ c.id = i ∧ c.remoteIp = a.remoteIp ∧ c.unixSecond = a.unixSecond
  allowed : ∀ c ∈ r.allowed, c ∈ r.counted ∧ verdict perSecondLimit c.reply = some true ∧
    r.attempts.lookup c.id = none
  once : r.allowed.Nodup

lemma mem_passed {c d : Count} :
    d ∈ passed perSecondLimit c ↔ d = c ∧ verdict perSecondLimit c.reply = some true := by
  unfold passed
  split
  · next h => simp [h]
  · next h => simp [h]

/-- An attempt goes on, with the increment it has. -/
lemma Tidy.restage {a b : Attempt} (h : Tidy perSecondLimit r) (hi : r.attempts.lookup i = some a)
    (hip : b.remoteIp = a.remoteIp) (hsecond : b.unixSecond = a.unixSecond)
    (hcount : b.stage.count = a.stage.count) (hsent : b.stage = .sent → a.stage = .sent)
    (store : σ) :
    Tidy perSecondLimit { r with store := store, attempts := r.attempts.insert i b } := by
  refine ⟨fun j d hj => ?_, h.counted_below, fun j d hj hd => ?_, fun j d c hj hd => ?_,
    fun c hc => ?_, h.once⟩
  · rcases FMap.lookup_insert_cases hj with ⟨rfl, -⟩ | ⟨-, hj⟩
    · exact h.below j a hi
    · exact h.below j d hj
  · rcases FMap.lookup_insert_cases hj with ⟨rfl, rfl⟩ | ⟨-, hj⟩
    · exact h.sent j a hi (hsent hd)
    · exact h.sent j d hj hd
  · rcases FMap.lookup_insert_cases hj with ⟨rfl, rfl⟩ | ⟨-, hj⟩
    · rw [hip, hsecond]
      exact h.placed j a c hi (hcount ▸ hd)
    · exact h.placed j d c hj hd
  · obtain ⟨hcounted, hverdict, hnone⟩ := h.allowed c hc
    have hne : c.id ≠ i := fun he => by
      rw [he, hi] at hnone
      cases hnone
    exact ⟨hcounted, hverdict, (Finmap.lookup_insert_of_ne _ hne).trans hnone⟩

lemma Tidy.step {a : Action} (h : Tidy perSecondLimit r) (hstep : Step S perSecondLimit r a r') :
    Tidy perSecondLimit r' := by
  cases hstep with
  | wait hle => exact ⟨h.below, h.counted_below, h.sent, h.placed, h.allowed, h.once⟩
  | acquire ip second =>
    refine ⟨fun j b hj => ?_, fun c hc => (h.counted_below c hc).trans (Nat.lt_succ_self _),
      fun j b hj hb c hc => ?_, fun j b c hj hb => ?_, fun c hc => ?_, h.once⟩
    · rcases FMap.lookup_insert_cases hj with ⟨rfl, -⟩ | ⟨-, hj⟩
      · exact Nat.lt_succ_self _
      · exact (h.below j b hj).trans (Nat.lt_succ_self _)
    · rcases FMap.lookup_insert_cases hj with ⟨rfl, -⟩ | ⟨-, hj⟩
      · exact (h.counted_below c hc).ne
      · exact h.sent j b hj hb c hc
    · rcases FMap.lookup_insert_cases hj with ⟨-, rfl⟩ | ⟨-, hj⟩
      · cases hb
      · exact h.placed j b c hj hb
    · obtain ⟨hcounted, hverdict, hnone⟩ := h.allowed c hc
      refine ⟨hcounted, hverdict, ?_⟩
      exact (Finmap.lookup_insert_of_ne _ (h.counted_below c hcounted).ne).trans hnone
  | @incr i a hi hstage c hc =>
    have hid : c.id = i := by rw [hc]
    refine ⟨fun j b hj => ?_, fun d hd => ?_, fun j b hj hb d hd => ?_, fun j b d hj hb => ?_,
      fun d hd => ?_, h.once⟩
    · rcases FMap.lookup_insert_cases hj with ⟨rfl, -⟩ | ⟨-, hj⟩
      · exact h.below j a hi
      · exact h.below j b hj
    · rcases List.mem_append.mp hd with hd | hd
      · exact h.counted_below d hd
      · rw [List.mem_singleton.mp hd, hid]
        exact h.below i a hi
    · rcases FMap.lookup_insert_cases hj with ⟨-, rfl⟩ | ⟨hne, hj⟩
      · cases hb
      · rcases List.mem_append.mp hd with hd | hd
        · exact h.sent j b hj hb d hd
        · rw [List.mem_singleton.mp hd, hid]
          exact hne.symm
    · rcases FMap.lookup_insert_cases hj with ⟨rfl, rfl⟩ | ⟨-, hj⟩
      · obtain rfl := Option.some.inj hb
        exact ⟨List.mem_append_right _ (List.mem_singleton_self _), hid, by rw [hc], by rw [hc]⟩
      · obtain ⟨hmem, hrest⟩ := h.placed j b d hj hb
        exact ⟨List.mem_append_left _ hmem, hrest⟩
    · obtain ⟨hcounted, hverdict, hnone⟩ := h.allowed d hd
      refine ⟨List.mem_append_left _ hcounted, hverdict, ?_⟩
      exact (Finmap.lookup_insert_of_ne _ (h.sent i a hi hstage d hcounted)).trans hnone
  | @expire i a c hi hstage =>
    have hcount : (Stage.renewed c).count = a.stage.count := by
      rw [hstage]
      rfl
    exact h.restage (b := { a with stage := .renewed c }) hi rfl rfl hcount
      (fun hb => by cases hb) _
  | @answer i a c hi hstage =>
    have hc : a.stage.count = some c := by rw [hstage]; rfl
    obtain ⟨hcounted, hid, -⟩ := h.placed i a c hi hc
    have hnew : c ∉ r.allowed := fun hc => by
      have hnone := (h.allowed c hc).2.2
      rw [hid, hi] at hnone
      cases hnone
    refine ⟨fun j b hj => h.below j b (FMap.lookup_of_erase hj).2, h.counted_below,
      fun j b hj => h.sent j b (FMap.lookup_of_erase hj).2,
      fun j b d hj => h.placed j b d (FMap.lookup_of_erase hj).2, fun d hd => ?_, ?_⟩
    · rcases List.mem_append.mp hd with hd | hd
      · obtain ⟨hcounted, hverdict, hnone⟩ := h.allowed d hd
        refine ⟨hcounted, hverdict, ?_⟩
        dsimp only
        rw [FMap.lookup_erase_eq, hnone, ite_self]
      · obtain ⟨rfl, hverdict⟩ := mem_passed.mp hd
        refine ⟨hcounted, hverdict, ?_⟩
        rw [hid]
        exact Finmap.lookup_erase _ _
    · refine h.once.append ?_ fun d hd hd' => ?_
      · unfold passed
        split
        · exact List.nodup_singleton _
        · exact List.nodup_nil
      · obtain ⟨rfl, -⟩ := mem_passed.mp hd'
        exact hnew hd
  | @giveUp i a hi => exact h.restage (b := { a with waiting := false }) hi rfl rfl rfl id _

/-! ### Counters -/

/-- The increments under a key. -/
def ofKey (remoteIp : String) (unixSecond : ℕ) (c : Count) : Bool :=
  c.remoteIp == remoteIp && c.unixSecond == unixSecond

lemma ofKey_iff {ip : String} {second : ℕ} {c : Count} :
    ofKey ip second c = true ↔ c.remoteIp = ip ∧ c.unixSecond = second := by
  simp [ofKey]

/-- How often a counter counts at most: it is an `i64`. -/
def maxCount : ℕ := 2 ^ 63 - 1

lemma maxCount_pos : 0 < maxCount := by decide

/-- What the store has under a key after `n` increments, as long as there may be more of them. -/
def Holds (S : CounterStore σ String) (late : ℚ) (now : ℚ) (store : σ) (ip : String) (second : ℕ)
    (n : ℕ) : Prop :=
  (n = 0 → S.get now (rateKey ip second) store = none) ∧
  (0 < n → ∃ c, S.get now (rateKey ip second) store = some c ∧ c.count = min n maxCount ∧
    ∀ d ∈ c.deadline, second + 1 + late ≤ d)

structure Stored (S : CounterStore σ String) (early late : ℚ) (r : Limiter σ) : Prop where
  times : ∀ c ∈ r.counted, c.unixSecond - early ≤ c.time ∧ c.time ≤ c.unixSecond + 1 + late ∧
    c.time ≤ r.now
  holds : ∀ ip (second : ℕ), r.now ≤ second + 1 + late →
    Holds S late r.now r.store ip second (r.counted.countP (ofKey ip second))
  numbered : Along (fun pre x => x.reply =
    some (pre.countP (ofKey x.remoteIp x.unixSecond) + 1) ∨ x.reply = none) r.counted

variable {early late : ℚ}

variable {ip : String} {second n : ℕ} {now time : ℚ} {store : σ}

/-- A counter does not expire before attempts are counted under it no more. -/
lemma Holds.wait (hS : S.Lawful maxCount 2) (h : Holds S late now store ip second n)
    (hle : now ≤ time) (htime : time ≤ second + 1 + late) :
    Holds S late time store ip second n := by
  have hget := hS.get_later (k := rateKey ip second) (s := store) hle
  refine ⟨fun hn => ?_, fun hn => ?_⟩
  · rw [hget, h.1 hn]
    rfl
  · obtain ⟨c, hc, hcount, hdeadline⟩ := h.2 hn
    refine ⟨c, ?_, hcount, hdeadline⟩
    rw [hget, hc, Option.filter_some, if_pos]
    unfold Counter.alive
    rw [Option.all_eq_true]
    exact fun d hd => decide_eq_true (htime.trans (hdeadline d hd))

lemma Holds.incr (hS : S.Lawful maxCount 2) (h : Holds S late now store ip second n) :
    ((S.incr now (rateKey ip second) store).1 = some (n + 1) ∨
      (S.incr now (rateKey ip second) store).1 = none) ∧
    Holds S late now (S.incr now (rateKey ip second) store).2 ip second (n + 1) := by
  have hpos := maxCount_pos
  rcases Nat.eq_zero_or_pos n with rfl | hn
  · obtain ⟨hreply, hget⟩ := hS.incr_none (h.1 rfl)
    refine ⟨.inl hreply, fun hn => absurd hn (Nat.succ_ne_zero _), fun _ => ⟨_, hget, ?_, ?_⟩⟩
    · dsimp only
      omega
    · intro d hd
      cases hd
  · obtain ⟨c, hc, hcount, hdeadline⟩ := h.2 hn
    by_cases hlt : c.count < maxCount
    · obtain ⟨hreply, hget⟩ := hS.incr_some hc hlt
      refine ⟨.inl ?_, fun hn => absurd hn (Nat.succ_ne_zero _), fun _ => ⟨_, hget, ?_, hdeadline⟩⟩
      · rw [hreply]
        congr 1
        omega
      · dsimp only
        omega
    · obtain ⟨hreply, hget⟩ := hS.incr_full hc (not_lt.mp hlt)
      refine ⟨.inr hreply, fun hn => absurd hn (Nat.succ_ne_zero _),
        fun _ => ⟨_, hget, ?_, hdeadline⟩⟩
      omega

lemma Holds.renew (hS : S.Lawful maxCount 2) (h : Holds S late now store ip second n)
    (hnow : second + 1 + late ≤ now + 2) :
    Holds S late now (S.renew now (rateKey ip second) store) ip second n := by
  refine ⟨fun hn => ?_, fun hn => ?_⟩
  · rw [hS.renew_self, h.1 hn]
    rfl
  · obtain ⟨c, hc, hcount, -⟩ := h.2 hn
    refine ⟨{ c with deadline := some (now + 2) }, ?_, hcount, ?_⟩
    · rw [hS.renew_self, hc]
      rfl
    · rintro d ⟨⟩
      exact hnow

lemma Holds.other {store' : σ} (h : Holds S late now store ip second n)
    (hget : S.get now (rateKey ip second) store' = S.get now (rateKey ip second) store) :
    Holds S late now store' ip second n := by
  unfold Holds
  rw [hget]
  exact h

lemma Stored.step {a : Action} (hS : S.Lawful maxCount 2) (hskew : early + late ≤ 1)
    (ht : Tidy perSecondLimit r) (h : Stored S early late r) (hp : Punctual early late r a)
    (hstep : Step S perSecondLimit r a r') : Stored S early late r' := by
  cases hstep with
  | @wait time hle =>
    refine ⟨fun c hc => ?_, fun ip second htime => ?_, h.numbered⟩
    · obtain ⟨hlow, hhigh, hnow⟩ := h.times c hc
      exact ⟨hlow, hhigh, hnow.trans hle⟩
    · exact (h.holds ip second (hle.trans htime)).wait hS hle htime
  | acquire ip second => exact ⟨h.times, h.holds, h.numbered⟩
  | @incr i a hi hstage c hc =>
    obtain ⟨hlow, hhigh⟩ := hp a (Option.mem_def.mpr hi)
    obtain ⟨hreply, hnew⟩ := (h.holds a.remoteIp a.unixSecond hhigh).incr hS
    refine ⟨fun d hd => ?_, fun ip second htime => ?_, along_snoc.mpr ⟨h.numbered, ?_⟩⟩
    · rcases List.mem_append.mp hd with hd | hd
      · exact h.times d hd
      · rw [List.mem_singleton.mp hd, hc]
        exact ⟨hlow, hhigh, le_rfl⟩
    · dsimp only
      rw [List.countP_append, List.countP_singleton]
      by_cases hkey : ofKey ip second c = true
      · rw [if_pos hkey]
        obtain ⟨rfl, rfl⟩ := ofKey_iff.mp hkey
        rw [hc]
        exact hnew
      · rw [if_neg hkey]
        refine (h.holds ip second htime).other (hS.incr_other fun he => hkey (ofKey_iff.mpr ?_))
        obtain ⟨rfl, rfl⟩ := rateKey_inj he
        rw [hc]
        exact ⟨rfl, rfl⟩
    · rw [hc]
      exact hreply
  | @expire i a c hi hstage =>
    have hcount : a.stage.count = some c := by
      rw [hstage]
      rfl
    obtain ⟨hmem, -, -, hsecond⟩ := ht.placed i a c hi hcount
    obtain ⟨hlow, -, hnow⟩ := h.times c hmem
    rw [hsecond] at hlow
    refine ⟨h.times, fun ip second htime => ?_, h.numbered⟩
    have hold := h.holds ip second htime
    by_cases hkey : rateKey ip second = rateKey a.remoteIp a.unixSecond
    · obtain ⟨rfl, rfl⟩ := rateKey_inj hkey
      exact hold.renew hS (by linarith)
    · exact hold.other (hS.renew_other hkey)
  | answer hi hstage => exact ⟨h.times, h.holds, h.numbered⟩
  | giveUp hi => exact ⟨h.times, h.holds, h.numbered⟩

/-- What holds in every state reached. -/
structure Kept (S : CounterStore σ String) (perSecondLimit : ℕ) (early late : ℚ) (r : Limiter σ) :
    Prop where
  tidy : Tidy perSecondLimit r
  stored : Stored S early late r

theorem kept_of_reached (hS : S.Lawful maxCount 2) (hskew : early + late ≤ 1)
    (h : (system S perSecondLimit).ReachedBy (Punctual early late) r) :
    Kept S perSecondLimit early late r := by
  refine h.invariant (Kept S perSecondLimit early late) ?_ fun r a r' hk hp hst => ?_
  · rintro r ⟨store, now, hnone, rfl⟩
    refine ⟨⟨?_, ?_, ?_, ?_, ?_, List.nodup_nil⟩, ⟨?_, fun ip second _ => ?_, along_nil⟩⟩
    · intro i a hi
      cases hi
    · intro c hc
      cases hc
    · intro i a hi
      cases hi
    · intro i a c hi
      cases hi
    · intro c hc
      cases hc
    · intro c hc
      cases hc
    · exact ⟨fun _ => hnone _, fun hn => absurd hn (lt_irrefl 0)⟩
  · have hstep := step_cases hst
    exact ⟨hk.tidy.step hstep, hk.stored.step hS hskew hk.tidy hp hstep⟩

/-! ### What is allowed -/

/-- The number replied is within the limit. -/
def within (perSecondLimit : ℕ) (c : Count) : Bool := c.reply.any (· ≤ perSecondLimit)

lemma within_of_verdict {c : Count} (h : verdict perSecondLimit c.reply = some true) :
    within perSecondLimit c = true := by
  unfold verdict at h
  obtain ⟨count, hreply, hcount⟩ := Option.bind_eq_some_iff.mp h
  unfold within
  rw [hreply, Option.any_some]
  split at hcount
  · exact Option.some.inj hcount
  · cases hcount

lemma Tidy.countP_allowed (h : Tidy perSecondLimit r) (p : Count → Bool) :
    r.allowed.countP p ≤ r.counted.countP fun c => p c && within perSecondLimit c := by
  have hsub : r.allowed.Subperm r.counted :=
    List.Nodup.subperm h.once fun c hc => (h.allowed c hc).1
  refine le_trans (List.countP_mono_left fun c hc hp => ?_) (hsub.countP_le _)
  rw [hp, Bool.true_and]
  exact within_of_verdict (h.allowed c hc).2.1

lemma Stored.countP_within (h : Stored S early late r) (ip : String) (second : ℕ) :
    r.counted.countP (fun c => ofKey ip second c && within perSecondLimit c) ≤ perSecondLimit := by
  refine countP_number_le (fun pre x post hsplit hkey => ?_) perSecondLimit
  obtain ⟨rfl, rfl⟩ := ofKey_iff.mp hkey
  exact h.numbered pre x post hsplit

/-- The seconds that attempts of a while can be counted for. -/
lemma card_seconds {t T : ℚ} (hskew : early + late ≤ 1) :
    (Finset.Icc ⌈t - 1 - late⌉₊ ⌊t + T + early⌋₊).card ≤ ⌊T⌋₊ + 3 := by
  rw [Nat.card_Icc]
  have hceil := Nat.le_ceil (t - 1 - late)
  have hfloorT := Nat.lt_floor_add_one T
  rcases le_or_gt 0 (t + T + early) with hpos | hneg
  · have hfloor := Nat.floor_le hpos
    have hlt : (⌊t + T + early⌋₊ : ℚ) + 1 < ⌈t - 1 - late⌉₊ + (⌊T⌋₊ + 4) := by linarith
    have hlt' : ⌊t + T + early⌋₊ + 1 < ⌈t - 1 - late⌉₊ + (⌊T⌋₊ + 4) := by exact_mod_cast hlt
    omega
  · rw [Nat.floor_of_nonpos hneg.le]
    omega

end

/-- **The shared limit.** However many connections of however many gateways count the frames of an
address in one store, and however their commands interleave or get lost: as long as the clocks and
the way of the increments to the store are off by a second at most together, no more frames are
allowed for each second than the limit, and no more than that in each of the seconds that a while
can fall into. -/
theorem allowed_in_window {σ : Type} {S : CounterStore σ String} (hS : S.Lawful maxCount 2)
    (perSec burst : UInt32) {early late : ℚ} (hskew : early + late ≤ 1) {r : Limiter σ}
    (h : (system S (distributedLimit perSec burst)).ReachedBy (Punctual early late) r)
    (ip : String) :
    (∀ second, r.allowed.countP (ofKey ip second) ≤ distributedLimit perSec burst) ∧
    ∀ t T : ℚ,
      r.allowed.countP (fun c => c.remoteIp == ip && decide (t < c.time ∧ c.time ≤ t + T)) ≤
        (⌊T⌋₊ + 3) * distributedLimit perSec burst := by
  obtain ⟨htidy, hstored⟩ := kept_of_reached hS hskew h
  refine ⟨fun second => (htidy.countP_allowed _).trans (hstored.countP_within ip second),
    fun t T => (htidy.countP_allowed _).trans ?_⟩
  refine le_trans (countP_le_card_mul (Finset.Icc ⌈t - 1 - late⌉₊ ⌊t + T + early⌋₊)
    Count.unixSecond (distributedLimit perSec burst) (fun c hc hp => ?_) fun second _ => ?_)
    (Nat.mul_le_mul_right _ (card_seconds hskew))
  · simp only [Bool.and_eq_true, beq_iff_eq, decide_eq_true_eq] at hp
    obtain ⟨⟨-, hafter, hbefore⟩, -⟩ := hp
    obtain ⟨hlow, hhigh, -⟩ := hstored.times c hc
    refine Finset.mem_Icc.mpr ⟨Nat.ceil_le.mpr ?_, Nat.le_floor ?_⟩
    · linarith
    · linarith
  · refine le_trans (List.countP_mono_left fun c _ hp => ?_) (hstored.countP_within ip second)
    simp only [Bool.and_eq_true, beq_iff_eq, decide_eq_true_eq] at hp ⊢
    exact ⟨ofKey_iff.mpr ⟨hp.1.1.1, hp.2⟩, hp.1.2⟩

/-- Two gateways try a frame each within the same second; the limit is one. -/
def bothTry : List Action :=
  [.acquire "::1" 7, .acquire "::1" 7, .incr 0, .incr 1, .expire 1, .expire 0, .answer 1, .answer 0]

/-- One of them is allowed. -/
theorem allowed_in_window_both : ∃ r : Limiter (FMap String Counter),
    (system (CounterStore.table maxCount 2) (distributedLimit 1 0)).ReachedBy
      (Punctual 0 1) r ∧ r.allowed.length = 1 ∧ r.counted.length = 2 ∧
    r.allowed.countP (ofKey "::1" 7) ≤ distributedLimit 1 0 := by
  obtain ⟨r, hr, hlengths⟩ := (system (CounterStore.table maxCount 2)
    (distributedLimit 1 0)).exists_reachedBy (Punctual 0 1) (s := ⟨∅, 7, ∅, 0, [], []⟩)
    ⟨∅, 7, fun _ => rfl, rfl⟩ bothTry
    (fun r => r.allowed.length == 1 && r.counted.length == 2) (by decide +kernel)
  simp only [Bool.and_eq_true, beq_iff_eq] at hlengths
  have hS := CounterStore.lawful_table (κ := String) maxCount zero_le_two
  exact ⟨r, hr, hlengths.1, hlengths.2,
    (allowed_in_window hS 1 0 (zero_add (1 : ℚ)).le hr "::1").1 7⟩

end HelbreathBackend.DistributedLimit
