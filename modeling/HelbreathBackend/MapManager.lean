import HelbreathBackend.World
import HelbreathBackend.Lib.Transition

/-!
The manager of the map runtimes, and the coordinator it sends to.

An activation holds the lock of the table of runtimes from its check to its insertion, and
sends its `RegisterMap` in between. A deactivation holds the lock only while it takes the
runtime out, and sends its `UnregisterMap` after it has let go. Each lock section and each
send is one step of a call, so calls interleave in every way the source allows. A runtime is
known by the channel the coordinator was given for it.
-/

namespace HelbreathBackend.MapManager

open HelbreathBackend.Lib HelbreathBackend.Domain HelbreathBackend.Application
open HelbreathBackend.World

abbrev CallId := ℕ

inductive Call
  /-- wants the lock -/
  | activate (mapId : MapId)
  /-- holds the lock, the map is not active; about to send `RegisterMap` -/
  | registering (mapId : MapId) (tx : ChannelId)
  /-- holds the lock, has sent; about to insert the runtime and let go -/
  | inserting (mapId : MapId) (tx : ChannelId)
  /-- wants the lock -/
  | deactivate (mapId : MapId)
  /-- has taken the runtime out and let go of the lock; about to send `UnregisterMap` -/
  | unregistering (mapId : MapId) (tx : ChannelId)
  /-- has sent; about to abort the tasks of the runtime -/
  | aborting (mapId : MapId) (tx : ChannelId)
  | returned (mapId : MapId) (changed : Bool)
  deriving DecidableEq

def Call.hasReturned : Call → Bool
  | .returned .. => true
  | _ => false

structure MapRuntimeManager where
  inbox : List WorldMessage
  coordinator : WorldCoordinator
  runtimes : FMap MapId ChannelId
  lock : Option CallId
  calls : FMap CallId Call
  nextChannel : ChannelId

inductive Action
  | activate (id : CallId) (mapId : MapId)
  | deactivate (id : CallId) (mapId : MapId)
  | resume (id : CallId)
  | post (msg : WorldMessage)
  | recv

namespace MapRuntimeManager

variable (g : MapRuntimeManager)

def setCall (id : CallId) (call : Call) : MapRuntimeManager :=
  { g with calls := g.calls.insert id call }

/-- A new call, under an identifier of its own. -/
def spawn (id : CallId) (call : Call) : Option MapRuntimeManager :=
  if id ∈ g.calls then none else some (g.setCall id call)

def isActive (mapId : MapId) : Bool := mapId ∈ g.runtimes

/-- The next step of a call; a call that wants the lock waits until it is free. -/
def resume (id : CallId) : Option MapRuntimeManager :=
  match g.calls.lookup id with
  | some (.activate mapId) =>
    if g.lock.isSome then none
    else if g.isActive mapId then some (g.setCall id (.returned mapId false))
    else
      some { g.setCall id (.registering mapId g.nextChannel) with
        lock := some id
        nextChannel := g.nextChannel + 1 }
  | some (.registering mapId tx) =>
    some { g.setCall id (.inserting mapId tx) with inbox := g.inbox ++ [.registerMap mapId tx] }
  | some (.inserting mapId tx) =>
    some { g.setCall id (.returned mapId true) with
      runtimes := g.runtimes.insert mapId tx
      lock := none }
  | some (.deactivate mapId) =>
    if g.lock.isSome then none
    else
      match g.runtimes.lookup mapId with
      | none => some (g.setCall id (.returned mapId false))
      | some tx =>
        some { g.setCall id (.unregistering mapId tx) with runtimes := g.runtimes.erase mapId }
  | some (.unregistering mapId tx) =>
    some { g.setCall id (.aborting mapId tx) with inbox := g.inbox ++ [.unregisterMap mapId] }
  | some (.aborting mapId _) => some (g.setCall id (.returned mapId true))
  | some (.returned _ _) | none => none

/-- A message of somebody else, who does not manage maps. -/
def post : WorldMessage → Option MapRuntimeManager
  | .registerMap .. | .unregisterMap _ => none
  | msg => some { g with inbox := g.inbox ++ [msg] }

/-- The coordinator takes a message; what it sends is returned. -/
def recv : Option (MapRuntimeManager × Option Effect) :=
  match g.inbox with
  | msg :: rest =>
    some ({ g with inbox := rest, coordinator := (g.coordinator.handle msg).1 },
      (g.coordinator.handle msg).2)
  | [] => none

def step : Action → Option MapRuntimeManager
  | .activate id mapId => g.spawn id (.activate mapId)
  | .deactivate id mapId => g.spawn id (.deactivate mapId)
  | .resume id => g.resume id
  | .post msg => g.post msg
  | .recv => g.recv.map (·.1)

/-- Every call has returned and the coordinator has handled everything. -/
def Quiet : Prop :=
  g.inbox = [] ∧ ∀ id ∈ g.calls.keys, ∀ call ∈ g.calls.lookup id, call.hasReturned = true

instance : Decidable g.Quiet := inferInstanceAs (Decidable (_ ∧ _))

variable {g} {g' : MapRuntimeManager}

/-- What the next step of a call can be. -/
inductive Resumes (g : MapRuntimeManager) (id : CallId) : MapRuntimeManager → Prop
  | refused {m : MapId} (hc : g.calls.lookup id = some (.activate m)) (hl : g.lock = none)
      (hm : m ∈ g.runtimes) : Resumes g id (g.setCall id (.returned m false))
  | locked {m : MapId} (hc : g.calls.lookup id = some (.activate m)) (hl : g.lock = none)
      (hm : m ∉ g.runtimes) :
      Resumes g id { g.setCall id (.registering m g.nextChannel) with
        lock := some id
        nextChannel := g.nextChannel + 1 }
  | registered {m : MapId} {tx : ChannelId} (hc : g.calls.lookup id = some (.registering m tx)) :
      Resumes g id { g.setCall id (.inserting m tx) with inbox := g.inbox ++ [.registerMap m tx] }
  | inserted {m : MapId} {tx : ChannelId} (hc : g.calls.lookup id = some (.inserting m tx)) :
      Resumes g id { g.setCall id (.returned m true) with
        runtimes := g.runtimes.insert m tx
        lock := none }
  | inactive {m : MapId} (hc : g.calls.lookup id = some (.deactivate m)) (hl : g.lock = none)
      (hm : g.runtimes.lookup m = none) : Resumes g id (g.setCall id (.returned m false))
  | removed {m : MapId} {tx : ChannelId} (hc : g.calls.lookup id = some (.deactivate m))
      (hl : g.lock = none) (hm : g.runtimes.lookup m = some tx) :
      Resumes g id { g.setCall id (.unregistering m tx) with runtimes := g.runtimes.erase m }
  | unregistered {m : MapId} {tx : ChannelId}
      (hc : g.calls.lookup id = some (.unregistering m tx)) :
      Resumes g id { g.setCall id (.aborting m tx) with inbox := g.inbox ++ [.unregisterMap m] }
  | aborted {m : MapId} {tx : ChannelId} (hc : g.calls.lookup id = some (.aborting m tx)) :
      Resumes g id (g.setCall id (.returned m true))

lemma resume_cases {id : CallId} (h : g.resume id = some g') : Resumes g id g' := by
  unfold resume at h
  split at h
  · next m hc =>
    split at h
    · cases h
    · next hl =>
      have hl : g.lock = none := Option.not_isSome_iff_eq_none.mp hl
      split at h
      · next hm =>
        obtain rfl := Option.some.inj h
        exact .refused hc hl (of_decide_eq_true hm)
      · next hm =>
        obtain rfl := Option.some.inj h
        exact .locked hc hl fun hin => hm (decide_eq_true hin)
  · next m tx hc =>
    obtain rfl := Option.some.inj h
    exact .registered hc
  · next m tx hc =>
    obtain rfl := Option.some.inj h
    exact .inserted hc
  · next m hc =>
    split at h
    · cases h
    · next hl =>
      have hl : g.lock = none := Option.not_isSome_iff_eq_none.mp hl
      split at h
      · next hm =>
        obtain rfl := Option.some.inj h
        exact .inactive hc hl hm
      · next tx hm =>
        obtain rfl := Option.some.inj h
        exact .removed hc hl hm
  · next m tx hc =>
    obtain rfl := Option.some.inj h
    exact .unregistered hc
  · next m tx hc =>
    obtain rfl := Option.some.inj h
    exact .aborted hc
  · cases h
  · cases h

lemma spawn_cases {id : CallId} {call : Call} (h : g.spawn id call = some g') :
    id ∉ g.calls ∧ g' = g.setCall id call := by
  unfold spawn at h
  split at h
  · cases h
  · next hid => exact ⟨hid, (Option.some.inj h).symm⟩

lemma post_cases {msg : WorldMessage} (h : g.post msg = some g') :
    g' = { g with inbox := g.inbox ++ [msg] } ∧
      (∀ m tx, msg ≠ .registerMap m tx) ∧ ∀ m, msg ≠ .unregisterMap m := by
  cases msg
  case registerMap m tx => cases h
  case unregisterMap m => cases h
  all_goals exact ⟨(Option.some.inj h).symm, nofun, nofun⟩

lemma recv_cases {eff : Option Effect} (h : g.recv = some (g', eff)) :
    ∃ msg rest, g.inbox = msg :: rest ∧ eff = (g.coordinator.handle msg).2 ∧
      g' = { g with inbox := rest, coordinator := g.coordinator.next msg } := by
  unfold recv at h
  split at h
  · next msg rest hin =>
    obtain ⟨rfl, rfl⟩ := Prod.mk.inj (Option.some.inj h)
    exact ⟨msg, rest, hin, rfl, rfl⟩
  · cases h

lemma lookup_setCall (id x : CallId) (call : Call) :
    (g.setCall id call).calls.lookup x = if x = id then some call else g.calls.lookup x :=
  FMap.lookup_insert_eq _ _ _ _

lemma lookup_setCall_cases {id x : CallId} {call c : Call}
    (h : (g.setCall id call).calls.lookup x = some c) :
    (x = id ∧ call = c) ∨ (x ≠ id ∧ g.calls.lookup x = some c) :=
  FMap.lookup_insert_cases h

/-- Another stage than the one that is set is that of another call. -/
lemma lookup_of_setCall {id x : CallId} {call c : Call}
    (h : (g.setCall id call).calls.lookup x = some c) (hne : call ≠ c) :
    x ≠ id ∧ g.calls.lookup x = some c :=
  (lookup_setCall_cases h).resolve_left fun ⟨_, hcall⟩ => hne hcall

lemma lookup_setCall_self (id : CallId) (call : Call) :
    (g.setCall id call).calls.lookup id = some call := by
  rw [lookup_setCall, if_pos rfl]

/-- A call at another stage than the one that moves is another call. -/
lemma lookup_setCall_keep {id x : CallId} {call old c : Call}
    (hold : g.calls.lookup id = some old) (hx : g.calls.lookup x = some c) (hne : old ≠ c) :
    (g.setCall id call).calls.lookup x = some c := by
  rw [lookup_setCall, if_neg ?_]
  · exact hx
  · rintro rfl
    exact hne (Option.some.inj (hold.symm.trans hx))

end MapRuntimeManager

/-- Nothing is active, registered or under way. -/
def start : MapRuntimeManager := ⟨[], .new, ∅, none, ∅, 0⟩

def system : System MapRuntimeManager Action where
  init g := g = start
  step g a := g.step a

end HelbreathBackend.MapManager
