import HelbreathBackend.Domain
import HelbreathBackend.Lib.FiniteMap
import HelbreathBackend.Lib.Transition

/-!
The connections of an address.

The accept loop counts a connection for its address, then in the gauge of all connections, and
starts its task; when its session has ended, the task takes it out of the gauge and then out of
the count of its address. The two counters are only apart in between.
-/

namespace HelbreathBackend.ConnectionCounts

open HelbreathBackend.Lib HelbreathBackend.Domain

/-- How far the accept loop or the task of a connection has come. -/
inductive Stage
  /-- counted for its address -/
  | counted
  /-- counted in the gauge as well, the task still to be spawned -/
  | opened
  | running
  /-- `handle_session` has returned -/
  | ended
  /-- out of the gauge -/
  | leaving
  deriving DecidableEq

structure Connection where
  remoteIp : String
  stage : Stage
  deriving DecidableEq

structure Listener where
  ipConnectionCounts : FMap String ℕ
  activeConnections : ℕ
  /-- the accepted connections whose completion section has not run -/
  connections : FMap SessionId Connection
  /-- the connection that the accept loop is busy with -/
  accepting : Option SessionId

inductive Action
  | accept (sessionId : SessionId) (remoteIp : String)
  | open
  | spawn
  /-- the session ends, with an error or not -/
  | finish (sessionId : SessionId) (failed : Bool)
  | subtract (sessionId : SessionId)
  | complete (sessionId : SessionId)

/-- `fetch_sub`, which wraps. -/
def fetchSub (n : ℕ) : ℕ := if n = 0 then 2 ^ 64 - 1 else n - 1

namespace Listener

variable (g : Listener)

def start : Listener := ⟨∅, 0, ∅, none⟩

def setStage (s : SessionId) (remoteIp : String) (stage : Stage) : Listener :=
  { g with connections := g.connections.insert s ⟨remoteIp, stage⟩ }

/-- The section under the lock, for a connection that is just accepted. -/
def accept (limit : ℕ) (s : SessionId) (remoteIp : String) : Option Listener :=
  match g.accepting, g.connections.lookup s with
  | none, none =>
    let current := (g.ipConnectionCounts.lookup remoteIp).getD 0
    if current ≥ limit then some g
    else
      some { g with
        ipConnectionCounts := g.ipConnectionCounts.insert remoteIp (current + 1)
        connections := g.connections.insert s ⟨remoteIp, .counted⟩
        accepting := some s }
  | _, _ => none

def openNext : Option Listener := do
  let s ← g.accepting
  match g.connections.lookup s with
  | some ⟨remoteIp, .counted⟩ =>
    some { g.setStage s remoteIp .opened with activeConnections := g.activeConnections + 1 }
  | _ => none

def spawn : Option Listener := do
  let s ← g.accepting
  match g.connections.lookup s with
  | some ⟨remoteIp, .opened⟩ =>
    some { g.setStage s remoteIp .running with accepting := none }
  | _ => none

def finish (s : SessionId) : Option Listener :=
  match g.connections.lookup s with
  | some ⟨remoteIp, .running⟩ => some (g.setStage s remoteIp .ended)
  | _ => none

def subtract (s : SessionId) : Option Listener :=
  match g.connections.lookup s with
  | some ⟨remoteIp, .ended⟩ =>
    some { g.setStage s remoteIp .leaving with
      activeConnections := fetchSub g.activeConnections }
  | _ => none

/-- What the completion section makes of the counts. -/
def release (counts : FMap String ℕ) (remoteIp : String) : FMap String ℕ :=
  match counts.lookup remoteIp with
  | some count => if count ≤ 1 then counts.erase remoteIp else counts.insert remoteIp (count - 1)
  | none => counts

def complete (s : SessionId) : Option Listener :=
  match g.connections.lookup s with
  | some ⟨remoteIp, .leaving⟩ =>
    some { g with
      ipConnectionCounts := release g.ipConnectionCounts remoteIp
      connections := g.connections.erase s }
  | _ => none

end Listener

def step (limit : ℕ) (g : Listener) : Action → Option Listener
  | .accept s remoteIp => g.accept limit s remoteIp
  | .open => g.openNext
  | .spawn => g.spawn
  | .finish s _ => g.finish s
  | .subtract s => g.subtract s
  | .complete s => g.complete s

def system (limit : ℕ) : System Listener Action where
  init g := g = .start
  step := step limit

/-! ### What the counters should say -/

/-- The accepted connections of an address whose completion section has not run. -/
def pending (g : Listener) (remoteIp : String) : Finset SessionId :=
  g.connections.keys.filter fun s => (g.connections.lookup s).map (·.remoteIp) = some remoteIp

/-- No connection is counted in one of the two counters only. -/
def Settled (g : Listener) : Prop :=
  ∀ s c, g.connections.lookup s = some c → c.stage ≠ .counted ∧ c.stage ≠ .leaving

structure Exact (limit : ℕ) (g : Listener) : Prop where
  counts : ∀ ip, FMap.count g.ipConnectionCounts ip = (pending g ip).card
  limit : ∀ ip, FMap.count g.ipConnectionCounts ip ≤ limit
  keys : ∀ ip ∈ g.ipConnectionCounts.keys, 0 < (pending g ip).card
  gauge : Settled g → g.activeConnections = FMap.total g.ipConnectionCounts
  /-- the subtraction that a task is about to make does not wrap -/
  subtract : ∀ s ip, g.connections.lookup s = some ⟨ip, .ended⟩ → 0 < g.activeConnections

/-! ### Steps -/

/-- The steps of a connection between its two sections, and what they do to the gauge. -/
inductive Moves : Stage → Stage → (ℕ → ℕ) → Prop
  | open : Moves .counted .opened (· + 1)
  | spawn : Moves .opened .running id
  | finish : Moves .running .ended id
  | subtract : Moves .ended .leaving fetchSub

inductive Effect (limit : ℕ) (g : Listener) : Listener → Prop
  | rejected : Effect limit g g
  | accepted {s : SessionId} {ip : String} (hs : g.connections.lookup s = none)
    (hlt : FMap.count g.ipConnectionCounts ip < limit) :
    Effect limit g { g with
      ipConnectionCounts :=
        g.ipConnectionCounts.insert ip (FMap.count g.ipConnectionCounts ip + 1)
      connections := g.connections.insert s ⟨ip, .counted⟩
      accepting := some s }
  | moved {s : SessionId} {ip : String} {stage stage' : Stage} {f : ℕ → ℕ}
    {accepting : Option SessionId} (h : g.connections.lookup s = some ⟨ip, stage⟩)
    (hm : Moves stage stage' f) :
    Effect limit g { g.setStage s ip stage' with
      activeConnections := f g.activeConnections
      accepting := accepting }
  | completed {s : SessionId} {ip : String} (h : g.connections.lookup s = some ⟨ip, .leaving⟩) :
    Effect limit g { g with
      ipConnectionCounts := Listener.release g.ipConnectionCounts ip
      connections := g.connections.erase s }

variable {limit : ℕ} {g g' : Listener}

lemma effect_of_step {a : Action} (h : step limit g a = some g') : Effect limit g g' := by
  cases a with
  | accept s ip =>
    simp only [step, Listener.accept] at h
    split at h
    · next hs =>
      split at h
      · cases h
        exact .rejected
      · next hlt =>
        cases h
        exact .accepted hs (Nat.lt_of_not_le hlt)
    · cases h
  | «open» =>
    obtain ⟨s, -, h⟩ := Option.bind_eq_some_iff.mp h
    split at h
    · next hl =>
      cases h
      exact .moved hl .open
    · cases h
  | spawn =>
    obtain ⟨s, -, h⟩ := Option.bind_eq_some_iff.mp h
    split at h
    · next hl =>
      cases h
      exact .moved hl .spawn
    · cases h
  | finish s failed =>
    simp only [step, Listener.finish] at h
    split at h
    · next hl =>
      cases h
      exact .moved hl .finish
    · cases h
  | subtract s =>
    simp only [step, Listener.subtract] at h
    split at h
    · next hl =>
      cases h
      exact .moved hl .subtract
    · cases h
  | complete s =>
    simp only [step, Listener.complete] at h
    split at h
    · next hl =>
      cases h
      exact .completed hl
    · cases h

/-! ### The invariant -/

/-- The addresses of the connections. -/
def addresses (g : Listener) : FMap SessionId String :=
  FMap.mapValues (·.remoteIp) g.connections

/-- A connection that the gauge counts. -/
def metered : Stage → Bool
  | .opened | .running | .ended => true
  | .counted | .leaving => false

/-- Which of the connections the gauge counts. -/
def gauged (g : Listener) : FMap SessionId Bool :=
  FMap.mapValues (fun c => metered c.stage) g.connections

structure Kept (limit : ℕ) (g : Listener) : Prop where
  tally : FMap.Tally g.ipConnectionCounts (addresses g)
  positive : ∀ ip n, g.ipConnectionCounts.lookup ip = some n → 0 < n
  limit : ∀ ip, FMap.count g.ipConnectionCounts ip ≤ limit
  gauge : g.activeConnections = (FMap.fibre (gauged g) true).card

lemma kept_start : Kept limit .start where
  tally := FMap.tally_empty
  positive _ _ h := by cases h
  limit _ := Nat.zero_le _
  gauge := rfl

lemma Kept.accepted (h : Kept limit g) {s : SessionId} {ip : String}
    (hs : g.connections.lookup s = none) (hlt : FMap.count g.ipConnectionCounts ip < limit) :
    Kept limit { g with
      ipConnectionCounts :=
        g.ipConnectionCounts.insert ip (FMap.count g.ipConnectionCounts ip + 1)
      connections := g.connections.insert s ⟨ip, .counted⟩
      accepting := some s } where
  tally := by
    have haddr : (addresses g).lookup s = none := by
      rw [addresses, FMap.lookup_mapValues, hs, Option.map_none]
    unfold addresses
    rw [FMap.mapValues_insert]
    exact h.tally.insert haddr ip
  positive x n hx := by
    rcases FMap.lookup_insert_cases hx with ⟨-, hv⟩ | ⟨-, hx⟩
    · cases hv
      exact Nat.succ_pos _
    · exact h.positive x n hx
  limit x := by
    rw [FMap.count_insert]
    split
    · exact hlt
    · exact h.limit x
  gauge := by
    have hfib := FMap.card_fibre_insert (gauged g) s (metered .counted) true
    rw [gauged, FMap.lookup_mapValues, hs] at hfib
    unfold gauged
    rw [FMap.mapValues_insert]
    exact h.gauge.trans hfib.symm

/-- A connection that moves keeps its address, and the gauge goes with it. -/
lemma Kept.moved (h : Kept limit g) {s : SessionId} {ip : String} {stage stage' : Stage}
    {f : ℕ → ℕ} {accepting : Option SessionId} (hl : g.connections.lookup s = some ⟨ip, stage⟩)
    (hm : Moves stage stage' f) :
    Kept limit { g.setStage s ip stage' with
      activeConnections := f g.activeConnections
      accepting := accepting } where
  tally := by
    have haddr : (addresses g).lookup s = some ip := by
      rw [addresses, FMap.lookup_mapValues, hl, Option.map_some]
    have hsame : FMap.mapValues (·.remoteIp) (g.connections.insert s ⟨ip, stage'⟩) =
        addresses g := by
      rw [FMap.mapValues_insert]
      exact FMap.insert_lookup haddr
    have htally : FMap.Tally g.ipConnectionCounts (addresses g) := h.tally
    rw [← hsame] at htally
    exact htally
  positive := h.positive
  limit := h.limit
  gauge := by
    have hold : (gauged g).lookup s = some (metered stage) := by
      rw [gauged, FMap.lookup_mapValues, hl, Option.map_some]
    have hfib := FMap.card_fibre_insert (gauged g) s (metered stage') true
    rw [hold, ← h.gauge] at hfib
    have hnew : gauged (g.setStage s ip stage') = (gauged g).insert s (metered stage') :=
      FMap.mapValues_insert ..
    change f g.activeConnections = (FMap.fibre (gauged (g.setStage s ip stage')) true).card
    rw [hnew]
    cases hm with
    | «open» => exact hfib.symm
    | spawn | finish => exact (Nat.add_right_cancel hfib).symm
    | subtract =>
      have hone : (FMap.fibre ((gauged g).insert s (metered .leaving)) true).card + 1 =
          g.activeConnections := hfib
      unfold fetchSub
      split <;> omega

lemma release_eq {counts : FMap String ℕ} {ip : String} (h : 0 < FMap.count counts ip) :
    Listener.release counts ip = if FMap.count counts ip ≤ 1 then counts.erase ip
      else counts.insert ip (FMap.count counts ip - 1) := by
  unfold Listener.release FMap.count at *
  split
  · next n hn => rw [hn, Option.getD_some]
  · next hn =>
    rw [hn] at h
    cases h

lemma Kept.completed (h : Kept limit g) {s : SessionId} {ip : String}
    (hl : g.connections.lookup s = some ⟨ip, .leaving⟩) :
    Kept limit { g with
      ipConnectionCounts := Listener.release g.ipConnectionCounts ip
      connections := g.connections.erase s } := by
  have haddr : (addresses g).lookup s = some ip := by
    rw [addresses, FMap.lookup_mapValues, hl, Option.map_some]
  have hpos : 0 < FMap.count g.ipConnectionCounts ip := by
    rw [h.tally ip]
    exact Finset.card_pos.mpr ⟨s, FMap.mem_fibre.mpr haddr⟩
  have hrelease := release_eq hpos
  refine ⟨?_, fun x n hx => ?_, fun x => ?_, ?_⟩
  · unfold addresses
    rw [FMap.mapValues_erase, hrelease]
    exact h.tally.erase haddr
  · dsimp only at hx
    rw [hrelease] at hx
    split at hx
    · obtain ⟨-, hx⟩ := FMap.lookup_of_erase hx
      exact h.positive x n hx
    · rcases FMap.lookup_insert_cases hx with ⟨-, hv⟩ | ⟨-, hx⟩
      · cases hv
        omega
      · exact h.positive x n hx
  · have hx := h.limit x
    dsimp only
    rw [hrelease]
    split
    · rw [FMap.count_erase]
      split <;> omega
    · rw [FMap.count_insert]
      split
      · next hxi =>
        subst hxi
        omega
      · exact hx
  · have hfib := FMap.card_fibre_erase (gauged g) s true
    rw [← h.gauge, gauged, FMap.lookup_mapValues, hl, Option.map_some] at hfib
    unfold gauged
    rw [FMap.mapValues_erase]
    exact hfib.symm

theorem kept_of_reached (h : (system limit).Reached g) : Kept limit g := by
  refine h.invariant (Kept limit) ?_ fun g a g' hk _ hst => ?_
  · rintro g rfl
    exact kept_start
  · cases effect_of_step hst with
    | rejected => exact hk
    | accepted hs hlt => exact hk.accepted hs hlt
    | moved hl hm => exact hk.moved hl hm
    | completed hl => exact hk.completed hl

lemma pending_eq (g : Listener) (ip : String) : pending g ip = FMap.fibre (addresses g) ip := by
  ext s
  rw [FMap.mem_fibre, addresses, FMap.lookup_mapValues, pending, Finset.mem_filter,
    and_iff_right_iff_imp]
  intro hs
  obtain ⟨c, hc, -⟩ := Option.map_eq_some_iff.mp hs
  exact Finmap.mem_keys.mpr (Finmap.mem_of_lookup_eq_some hc)

/-- **The counters are exact** in every reachable state. -/
theorem exact_of_reached (h : (system limit).Reached g) : Exact limit g := by
  have hk := kept_of_reached h
  have hcounts : ∀ ip, FMap.count g.ipConnectionCounts ip = (pending g ip).card := by
    intro ip
    rw [pending_eq]
    exact hk.tally ip
  refine ⟨hcounts, hk.limit, fun ip hip => ?_, fun hset => ?_, fun s ip hs => ?_⟩
  · obtain ⟨n, hn⟩ := Finmap.mem_iff.mp (Finmap.mem_keys.mp hip)
    have hpos := hk.positive ip n hn
    rw [← hcounts ip, FMap.count, hn]
    exact hpos
  · have hall : FMap.fibre (gauged g) true = g.connections.keys := by
      ext s
      rw [FMap.mem_fibre, gauged, FMap.lookup_mapValues, Option.map_eq_some_iff,
        Finmap.mem_keys, Finmap.mem_iff]
      refine exists_congr fun c => and_iff_left_of_imp fun hc => ?_
      obtain ⟨hcounted, hleaving⟩ := hset s c hc
      cases hst : c.stage <;> simp_all [metered]
    rw [hk.gauge, hall, hk.tally.total_eq, addresses, FMap.keys_mapValues]
  · rw [hk.gauge]
    refine Finset.card_pos.mpr ⟨s, FMap.mem_fibre.mpr ?_⟩
    rw [gauged, FMap.lookup_mapValues, hs]
    rfl

/-- Two addresses with one connection each. One was refused a second one, and got it when the first
was complete; the connection of the other is leaving. -/
theorem exact_of_reached_two :
    ∃ g, (system 1).Reached g ∧ g.connections.keys.card = 2 ∧ g.activeConnections = 1 ∧
      Exact 1 g := by
  obtain ⟨g, hg, hp⟩ := (system 1).exists_reachedBy (fun _ _ => True) rfl
    [.accept (.fill 7) "10.0.0.1", .open, .spawn, .accept (.fill 8) "10.0.0.1",
      .accept (.fill 9) "10.0.0.2", .open, .spawn, .finish (.fill 7) true, .subtract (.fill 7),
      .complete (.fill 7), .accept (.fill 8) "10.0.0.1", .open, .spawn, .finish (.fill 9) false,
      .subtract (.fill 9)]
    (fun g => g.connections.keys.card = 2 ∧ g.activeConnections = 1) (by decide +kernel)
  obtain ⟨hcard, hgauge⟩ := of_decide_eq_true hp
  exact ⟨g, hg, hcard, hgauge, exact_of_reached hg⟩

end HelbreathBackend.ConnectionCounts
