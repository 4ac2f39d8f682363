import HelbreathBackend.MapManager
import HelbreathBackend.MapRun
import HelbreathBackend.MapRuntimes

/-!
The way of a command to its map.

The manager makes the channel of a map and registers its sender, the coordinator puts the
commands of the map into it, a task moves them into the queue of the instance, and each tick
takes as many of them as its budget allows. All four run on their own. What has been processed,
with what is in the queue and in the channel, is what the coordinator has sent: so a command is
never lost, doubled or overtaken on its way.
-/

namespace HelbreathBackend.Delivery

open HelbreathBackend.Lib HelbreathBackend.Domain HelbreathBackend.Application
open HelbreathBackend.World HelbreathBackend.MapServer HelbreathBackend.MapManager
open HelbreathBackend.MapRuntimes (MapRuntime incoming announced)
open HelbreathBackend.MapRuntimes.WorldRuntime (deliver)

/-! ### What the coordinator sends -/

/-- The part of an effect that goes into a channel. -/
def sentInto (tx : ChannelId) : Option Effect → List IncomingCommand
  | some (.forward tx' cmd) => if tx' = tx then [incoming cmd] else []
  | _ => []

/-- What the coordinator has put into a channel in the course of a history. -/
def forwarded (tx : ChannelId) (hist : List WorldMessage) : List IncomingCommand :=
  (outputs WorldCoordinator.handle .new hist).flatMap (sentInto tx)

/-- The command of a message for map `m`. -/
def addressed (m : MapId) : WorldMessage → List IncomingCommand
  | .routeToMap mapId sessionId characterId command =>
    if mapId = m then [⟨sessionId, characterId, command⟩] else []
  | _ => []

/-- The message registers or unregisters map `m`. -/
def changesSender (m : MapId) : WorldMessage → Bool
  | .registerMap mapId _ | .unregisterMap mapId => mapId == m
  | _ => false

variable {tx : ChannelId} {m : MapId}

lemma sentInto_routeToMap (c : WorldCoordinator) (m : MapId) (s : SessionId)
    (cid : Option CharacterId) (cmd : ClientCommand) :
    sentInto tx (c.handle (.routeToMap m s cid cmd)).2 =
      if c.mapSenders.lookup m = some tx then [⟨s, cid, cmd⟩] else [] := by
  have ht := c.track_mapSenders m s cmd
  unfold WorldCoordinator.handle
  dsimp only
  rw [ht]
  rcases c.mapSenders.lookup m with _ | tx'
  · rfl
  · by_cases htx : tx' = tx
    · rw [if_pos (congrArg some htx)]
      exact if_pos htx
    · rw [if_neg fun h => htx (Option.some.inj h)]
      exact if_neg htx

/-- The channel is the sender of no map. -/
def Unused (tx : ChannelId) (c : WorldCoordinator) : Prop :=
  ∀ x, c.mapSenders.lookup x ≠ some tx

/-- The channel is the sender of map `m`, and of no other. -/
def SenderOf (tx : ChannelId) (m : MapId) (c : WorldCoordinator) : Prop :=
  ∀ x, c.mapSenders.lookup x = some tx ↔ x = m

lemma unused_handle {c : WorldCoordinator} {msg : WorldMessage} (h : Unused tx c)
    (hmsg : ∀ m, msg ≠ .registerMap m tx) : Unused tx (c.handle msg).1 := by
  intro x
  have hnext := c.next_mapSenders msg x
  change (c.next msg).mapSenders.lookup x ≠ some tx
  rw [hnext]
  cases msg with
  | registerMap m' tx' =>
    have hne : tx' ≠ tx := fun he => hmsg m' (he ▸ rfl)
    simp only [WorldCoordinator.senderAfter]
    split
    · simpa using hne
    · exact h x
  | unregisterMap m' =>
    simp only [WorldCoordinator.senderAfter]
    split
    · simp
    · exact h x
  | routeToMap | broadcast | getStats => exact h x

lemma senderOf_handle {c : WorldCoordinator} {msg : WorldMessage} (h : SenderOf tx m c)
    (hmsg : ∀ m', msg ≠ .registerMap m' tx) (hm : changesSender m msg = false) :
    SenderOf tx m (c.handle msg).1 := by
  intro x
  have hnext := c.next_mapSenders msg x
  change (c.next msg).mapSenders.lookup x = some tx ↔ x = m
  rw [hnext]
  cases msg with
  | registerMap m' tx' =>
    have hne : tx' ≠ tx := fun he => hmsg m' (he ▸ rfl)
    have hm' : m' ≠ m := by simpa [changesSender] using hm
    simp only [WorldCoordinator.senderAfter]
    split
    · next hx => simp [hne, hx, hm']
    · exact h x
  | unregisterMap m' =>
    have hm' : m' ≠ m := by simpa [changesSender] using hm
    simp only [WorldCoordinator.senderAfter]
    split
    · next hx => simp [hx, hm']
    · exact h x
  | routeToMap | broadcast | getStats => exact h x

/-- Nothing is sent into a channel before it is registered. -/
lemma forwarded_unused {hist : List WorldMessage} (h : ∀ m, .registerMap m tx ∉ hist) :
    forwarded tx hist = [] ∧ Unused tx (final WorldCoordinator.handle .new hist) := by
  have hnew : Unused tx .new := fun x => by simp [WorldCoordinator.new]
  obtain ⟨hout, hlast⟩ := outputs_flatMap (g := sentInto tx) (f := fun _ => []) hnew
    fun c msg hmsg (hc : Unused tx c) => by
      refine ⟨?_, unused_handle hc fun m he => h m (he ▸ hmsg)⟩
      cases msg with
      | routeToMap m' s cid cmd => rw [sentInto_routeToMap, if_neg (hc m')]
      | registerMap | unregisterMap | broadcast | getStats => rfl
  exact ⟨hout.trans (List.flatMap_eq_nil_iff.mpr fun _ _ => rfl), hlast⟩

/-- **What goes into the channel of a map that is registered once** is the commands for that
map, from its registration on. -/
theorem forwarded_registered {pre post : List WorldMessage}
    (honce : ∀ msg ∈ pre ++ post, changesSender m msg = false)
    (htx : ∀ m', .registerMap m' tx ∉ pre ++ post) :
    forwarded tx (pre ++ .registerMap m tx :: post) = post.flatMap (addressed m) := by
  have hbefore : ∀ m', .registerMap m' tx ∉ pre := fun m' hin =>
    htx m' (List.mem_append_left _ hin)
  obtain ⟨hpre, hunused⟩ := forwarded_unused hbefore
  have hsender : SenderOf tx m
      ((final WorldCoordinator.handle .new pre).handle (.registerMap m tx)).1 := by
    intro x
    have hnext := (final WorldCoordinator.handle .new pre).next_mapSenders (.registerMap m tx) x
    change ((final WorldCoordinator.handle .new pre).next _).mapSenders.lookup x = some tx ↔ x = m
    rw [hnext]
    simp only [WorldCoordinator.senderAfter]
    split
    · next hx => exact iff_of_true rfl hx
    · next hx => exact iff_of_false (hunused x) hx
  obtain ⟨hpost, -⟩ := outputs_flatMap (g := sentInto tx) (f := addressed m) hsender
    fun c msg hmsg (hc : SenderOf tx m c) => by
      refine ⟨?_, senderOf_handle hc (fun m' he => htx m' (List.mem_append_right _ (he ▸ hmsg)))
        (honce msg (List.mem_append_right _ hmsg))⟩
      cases msg with
      | routeToMap m' s cid cmd =>
        rw [sentInto_routeToMap]
        simp only [hc m', addressed]
      | registerMap | unregisterMap | broadcast | getStats => rfl
  rw [forwarded, outputs_append, List.flatMap_append, outputs, List.flatMap_cons]
  change forwarded tx pre ++ ([] ++ _) = _
  rw [hpre, hpost]
  rfl

/-! ### The tasks of the world service -/

/-- A tick of an instance: what was in its queue, and what it has processed. -/
structure Tick where
  channel : ChannelId
  mapId : MapId
  available : ℕ
  commands : List IncomingCommand

structure WorldService where
  manager : MapRuntimeManager
  /-- what the activations have made -/
  runtimes : FMap ChannelId MapRuntime
  /-- the runtimes whose two tasks are running -/
  running : Finset ChannelId
  /-- history: what the coordinator has handled -/
  handled : List WorldMessage
  /-- history: the ticks of all instances -/
  ticks : List Tick

inductive Action
  | manager (a : MapManager.Action)
  | route (tx : ChannelId)
  | tick (tx : ChannelId) (iter : Iteration)

/-- The tick of an instance, as history has it. -/
def tickOf (tx : ChannelId) (m : MapInstance) : Tick where
  channel := tx
  mapId := m.config.mapId
  available := m.rx.length
  commands := m.begun.pendingCommands

/-- What a tick does after its input. -/
def afterInput (iter : Iteration) (m : MapInstance) : MapInstance :=
  ((((m.systemMovement iter).systemCombat).systemAi iter).systemAoi iter).systemInventory

namespace WorldService

variable (w : WorldService)

/-- What a step of a call of the manager does beside the manager: an activation makes its channels
with the registration, and spawns its tasks after it; a deactivation aborts them at its end. -/
def resumed (commandBudget : ℕ) (id : CallId) (g : MapRuntimeManager) : WorldService :=
  match w.manager.calls.lookup id with
  | some (.registering mapId tx) =>
    { w with manager := g, runtimes := w.runtimes.insert tx (.new mapId commandBudget) }
  | some (.inserting _ tx) => { w with manager := g, running := insert tx w.running }
  | some (.aborting _ tx) => { w with manager := g, running := w.running.erase tx }
  | _ => { w with manager := g }

/-- The coordinator takes the first message of its inbox. -/
def received (g : MapRuntimeManager) : WorldService :=
  match w.manager.inbox with
  | msg :: _ =>
    { w with
      manager := g
      runtimes := deliver w.runtimes (w.manager.coordinator.handle msg).2
      handled := w.handled ++ [msg] }
  | [] => { w with manager := g }

def managed (commandBudget : ℕ) (a : MapManager.Action) (g : MapRuntimeManager) : WorldService :=
  match a with
  | .resume id => w.resumed commandBudget id g
  | .recv => w.received g
  | .activate .. | .deactivate .. | .post _ => { w with manager := g }

def setRuntime (tx : ChannelId) (rt : MapRuntime) : WorldService :=
  { w with runtimes := w.runtimes.insert tx rt }

def runningRuntime (tx : ChannelId) : Option MapRuntime :=
  if tx ∈ w.running then w.runtimes.lookup tx else none

def step (commandBudget : ℕ) : Action → Option WorldService
  | .manager a => (w.manager.step a).map (w.managed commandBudget a)
  | .route tx => ((w.runningRuntime tx).bind (·.route)).map (w.setRuntime tx)
  | .tick tx iter => (w.runningRuntime tx).map fun rt =>
    { w.setRuntime tx (rt.tick iter) with ticks := w.ticks ++ [tickOf tx rt.mapInstance] }

/-- What the manager and the others have sent to the coordinator. -/
def sent : List WorldMessage := w.handled ++ w.manager.inbox

/-- What the instance behind a channel has processed. -/
def processed (tx : ChannelId) : List IncomingCommand :=
  w.ticks.flatMap fun t => if t.channel = tx then t.commands else []

/-- What the instances of a map have processed. -/
def processedOn (m : MapId) : List IncomingCommand :=
  w.ticks.flatMap fun t => if t.mapId = m then t.commands else []

end WorldService

def start : WorldService := ⟨MapManager.start, ∅, ∅, [], []⟩

def system (commandBudget : ℕ) : System WorldService Action where
  init w := w = start
  step w a := w.step commandBudget a

/-! ### Every activation has its own channel -/

variable {w w' : WorldService} {budget : ℕ}

lemma announced_append (l l' : List WorldMessage) :
    announced (l ++ l') = announced l ++ announced l' := List.filterMap_append

lemma mem_announced {l : List WorldMessage} : tx ∈ announced l ↔ ∃ m, .registerMap m tx ∈ l := by
  constructor
  · intro h
    obtain ⟨msg, hmsg, htx⟩ := List.mem_filterMap.mp h
    cases msg with
    | registerMap m tx' =>
      obtain rfl := Option.some.inj htx
      exact ⟨m, hmsg⟩
    | unregisterMap | routeToMap | broadcast | getStats => cases htx
  · rintro ⟨m, hmsg⟩
    exact List.mem_filterMap.mpr ⟨_, hmsg, rfl⟩

/-- A call of the manager is about to register a channel. -/
def Registering (w : WorldService) (id : CallId) (m : MapId) (tx : ChannelId) : Prop :=
  w.manager.calls.lookup id = some (.registering m tx)

structure Numbered (w : WorldService) : Prop where
  nodup : (announced w.sent).Nodup
  announced_lt : ∀ tx ∈ announced w.sent, tx < w.manager.nextChannel
  registering_lt : ∀ id m tx, Registering w id m tx → tx < w.manager.nextChannel
  registering_new : ∀ id m tx, Registering w id m tx → tx ∉ announced w.sent
  registering_unique : ∀ id id' m m' tx, Registering w id m tx → Registering w id' m' tx → id = id'

lemma numbered_start : Numbered start where
  nodup := List.nodup_nil
  announced_lt _ h := by simp [start, MapManager.start, WorldService.sent, announced] at h
  registering_lt _ _ _ h := by simp [Registering, start, MapManager.start] at h
  registering_new _ _ _ h := by simp [Registering, start, MapManager.start] at h
  registering_unique _ _ _ _ _ h := by simp [Registering, start, MapManager.start] at h

/-- Nothing new is registered, nor about to be. -/
lemma Numbered.keep (h : Numbered w) (hsent : announced w'.sent = announced w.sent)
    (hnext : w'.manager.nextChannel = w.manager.nextChannel)
    (hcalls : ∀ id m tx, Registering w' id m tx → Registering w id m tx) : Numbered w' where
  nodup := hsent ▸ h.nodup
  announced_lt tx htx := hnext ▸ h.announced_lt tx (hsent ▸ htx)
  registering_lt id m tx hr := hnext ▸ h.registering_lt id m tx (hcalls id m tx hr)
  registering_new id m tx hr := hsent ▸ h.registering_new id m tx (hcalls id m tx hr)
  registering_unique id id' m m' tx hr hr' :=
    h.registering_unique id id' m m' tx (hcalls id m tx hr) (hcalls id' m' tx hr')

/-- What a step of the manager or of the coordinator can be. -/
inductive Managed (budget : ℕ) (w : WorldService) : WorldService → Prop
  | kept {g : MapRuntimeManager} {running : Finset ChannelId} {more : List WorldMessage}
    (hcoordinator : g.coordinator = w.manager.coordinator)
    (hinbox : g.inbox = w.manager.inbox ++ more) (hmore : announced more = [])
    (hnext : g.nextChannel = w.manager.nextChannel)
    (hcalls : ∀ id m tx, g.calls.lookup id = some (.registering m tx) → Registering w id m tx) :
    Managed budget w { w with manager := g, running := running }
  | locked {id : CallId} {m : MapId} :
    Managed budget w { w with
      manager := { w.manager.setCall id (.registering m w.manager.nextChannel) with
        lock := some id
        nextChannel := w.manager.nextChannel + 1 } }
  | registered {id : CallId} {m : MapId} {tx : ChannelId} (hr : Registering w id m tx) :
    Managed budget w { w with
      manager := { w.manager.setCall id (.inserting m tx) with
        inbox := w.manager.inbox ++ [.registerMap m tx] }
      runtimes := w.runtimes.insert tx (.new m budget) }
  | received {msg : WorldMessage} {rest : List WorldMessage}
    (hin : w.manager.inbox = msg :: rest) :
    Managed budget w { w with
      manager := { w.manager with
        inbox := rest
        coordinator := (w.manager.coordinator.handle msg).1 }
      runtimes := deliver w.runtimes (w.manager.coordinator.handle msg).2
      handled := w.handled ++ [msg] }

lemma Managed.called {id : CallId} {call : Call} {running : Finset ChannelId}
    (hcall : ∀ m tx, call ≠ .registering m tx) :
    Managed budget w { w with manager := w.manager.setCall id call, running := running } :=
  .kept rfl (List.append_nil _).symm rfl rfl fun _ m tx h =>
    (MapRuntimeManager.lookup_of_setCall h (hcall m tx)).2

lemma managed_resume {id : CallId} {g : MapRuntimeManager} (h : w.manager.resume id = some g) :
    Managed budget w (w.resumed budget id g) := by
  have hr := MapRuntimeManager.resume_cases h
  unfold WorldService.resumed
  cases hr with
  | refused hc =>
    rw [hc]
    exact .called fun _ _ he => by cases he
  | locked hc =>
    rw [hc]
    exact .locked
  | registered hc =>
    rw [hc]
    exact .registered hc
  | inserted hc =>
    rw [hc]
    exact .kept rfl (List.append_nil _).symm rfl rfl fun _ _ _ h =>
      (MapRuntimeManager.lookup_of_setCall h fun he => by cases he).2
  | inactive hc =>
    rw [hc]
    exact .called fun _ _ he => by cases he
  | removed hc =>
    rw [hc]
    exact .kept rfl (List.append_nil _).symm rfl rfl fun _ _ _ h =>
      (MapRuntimeManager.lookup_of_setCall h fun he => by cases he).2
  | unregistered hc =>
    rw [hc]
    exact .kept rfl rfl rfl rfl fun _ _ _ h =>
      (MapRuntimeManager.lookup_of_setCall h fun he => by cases he).2
  | aborted hc =>
    rw [hc]
    exact .called fun _ _ he => by cases he

lemma managed_cases {a : MapManager.Action} (h : w.step budget (.manager a) = some w') :
    Managed budget w w' := by
  obtain ⟨g, hg, rfl⟩ := Option.map_eq_some_iff.mp h
  cases a with
  | activate id m | deactivate id m =>
    obtain ⟨-, rfl⟩ := MapRuntimeManager.spawn_cases hg
    exact .called fun _ _ he => by cases he
  | resume id => exact managed_resume hg
  | post msg =>
    obtain ⟨rfl, hmsg, -⟩ := MapRuntimeManager.post_cases hg
    refine .kept rfl rfl ?_ rfl fun _ _ _ h => h
    cases msg with
    | registerMap m tx => exact absurd rfl (hmsg m tx)
    | unregisterMap | routeToMap | broadcast | getStats => rfl
  | recv =>
    obtain ⟨⟨g', eff⟩, hrecv, rfl⟩ := Option.map_eq_some_iff.mp hg
    obtain ⟨msg, rest, hin, -, rfl⟩ := MapRuntimeManager.recv_cases hrecv
    unfold WorldService.managed WorldService.received
    dsimp only
    rw [hin]
    exact .received hin

lemma Numbered.locked (h : Numbered w) {id : CallId} :
    Numbered { w with
      manager := { w.manager.setCall id (.registering m w.manager.nextChannel) with
        lock := some id
        nextChannel := w.manager.nextChannel + 1 } } := by
  have hcases : ∀ {x m' tx},
      (w.manager.setCall id (.registering m w.manager.nextChannel)).calls.lookup x =
        some (.registering m' tx) →
      (x = id ∧ tx = w.manager.nextChannel) ∨ Registering w x m' tx := by
    intro x m' tx hx
    rcases MapRuntimeManager.lookup_setCall_cases hx with ⟨rfl, he⟩ | ⟨-, hx⟩
    · exact .inl ⟨rfl, (Call.registering.inj he).2.symm⟩
    · exact .inr hx
  refine ⟨h.nodup, fun tx htx => Nat.lt_succ_of_lt (h.announced_lt tx htx), fun x m' tx hr => ?_,
    fun x m' tx hr => ?_, fun x x' m' m'' tx hr hr' => ?_⟩
  · rcases hcases hr with ⟨-, rfl⟩ | hr
    · exact Nat.lt_succ_self _
    · exact Nat.lt_succ_of_lt (h.registering_lt x m' tx hr)
  · rcases hcases hr with ⟨-, rfl⟩ | hr
    · exact fun hin => absurd (h.announced_lt _ hin) (lt_irrefl _)
    · exact h.registering_new x m' tx hr
  · rcases hcases hr with ⟨hx, htx⟩ | hold <;> rcases hcases hr' with ⟨hx', htx'⟩ | hold'
    · exact hx.trans hx'.symm
    · exact absurd (htx ▸ h.registering_lt x' m'' tx hold') (lt_irrefl _)
    · exact absurd (htx' ▸ h.registering_lt x m' tx hold) (lt_irrefl _)
    · exact h.registering_unique x x' m' m'' tx hold hold'

lemma Numbered.registered (h : Numbered w) {id : CallId} (hr : Registering w id m tx)
    {runtimes : FMap ChannelId MapRuntime} :
    Numbered { w with
      manager := { w.manager.setCall id (.inserting m tx) with
        inbox := w.manager.inbox ++ [.registerMap m tx] }
      runtimes := runtimes } := by
  have hann : announced (w.handled ++ (w.manager.inbox ++ [.registerMap m tx])) =
      announced w.sent ++ [tx] := by
    rw [← List.append_assoc, announced_append]
    rfl
  have hcalls : ∀ {x m' tx'}, (w.manager.setCall id (.inserting m tx)).calls.lookup x =
      some (.registering m' tx') → x ≠ id ∧ Registering w x m' tx' :=
    fun hx => MapRuntimeManager.lookup_of_setCall hx fun he => by cases he
  refine ⟨?_, fun tx' htx => ?_, fun x m' tx' hx => h.registering_lt x m' tx' (hcalls hx).2,
    fun x m' tx' hx htx => ?_, fun x x' m' m'' tx' hx hx' =>
      h.registering_unique x x' m' m'' tx' (hcalls hx).2 (hcalls hx').2⟩
  · change (announced (w.handled ++ _)).Nodup
    rw [hann, List.nodup_append]
    refine ⟨h.nodup, List.nodup_singleton tx, fun a ha b hb => ?_⟩
    obtain rfl := List.mem_singleton.mp hb
    rintro rfl
    exact h.registering_new id m a hr ha
  · change tx' ∈ announced (w.handled ++ _) at htx
    rw [hann, List.mem_append, List.mem_singleton] at htx
    rcases htx with htx | rfl
    · exact h.announced_lt tx' htx
    · exact h.registering_lt id m tx' hr
  · change tx' ∈ announced (w.handled ++ _) at htx
    rw [hann, List.mem_append, List.mem_singleton] at htx
    rcases htx with htx | rfl
    · exact h.registering_new x m' tx' (hcalls hx).2 htx
    · exact (hcalls hx).1 (h.registering_unique x id m' m tx' (hcalls hx).2 hr)

lemma Numbered.managed (h : Numbered w) (hm : Managed budget w w') : Numbered w' := by
  cases hm with
  | kept _ hinbox hmore hnext hcalls =>
    refine h.keep ?_ hnext hcalls
    rw [WorldService.sent, hinbox, ← List.append_assoc, announced_append, hmore, List.append_nil]
    rfl
  | locked => exact h.locked
  | registered hr => exact h.registered hr
  | received hin =>
    refine h.keep ?_ rfl fun _ _ _ hr => hr
    rw [WorldService.sent, WorldService.sent, hin, List.append_assoc]
    rfl

/-! ### Nothing is lost on the way -/

/-- A runtime has processed what was sent into its channel, up to what is still on its way. -/
structure Behind (budget : ℕ) (w : WorldService) (tx : ChannelId) (rt : MapRuntime) : Prop where
  budget : rt.mapInstance.config.commandBudget = budget
  sent : .registerMap rt.mapInstance.config.mapId tx ∈ w.sent
  pending : rt.mapInstance.pendingCommands = []
  flow : w.processed tx ++ (rt.mapInstance.rx ++ rt.worldMapRx.map incoming) =
    forwarded tx w.handled

/-- A tick was one of an instance that is there, and processed what its budget allowed. -/
structure Ticked (budget : ℕ) (w : WorldService) (t : Tick) : Prop where
  runtime : ∃ rt, w.runtimes.lookup t.channel = some rt ∧ rt.mapInstance.config.mapId = t.mapId
  length : t.commands.length = min budget t.available

structure Carried (budget : ℕ) (w : WorldService) : Prop where
  coordinator : w.manager.coordinator = final WorldCoordinator.handle .new w.handled
  behind : ∀ tx rt, w.runtimes.lookup tx = some rt → Behind budget w tx rt
  ticked : ∀ t ∈ w.ticks, Ticked budget w t

lemma carried_start : Carried budget start where
  coordinator := rfl
  behind _ _ h := by simp [start] at h
  ticked _ h := absurd h List.not_mem_nil

lemma processed_of_stranger (h : Carried budget w) (htx : w.runtimes.lookup tx = none) :
    w.processed tx = [] := by
  refine List.flatMap_eq_nil_iff.mpr fun t ht => if_neg ?_
  rintro rfl
  obtain ⟨rt, hrt, -⟩ := (h.ticked t ht).runtime
  rw [htx] at hrt
  cases hrt

lemma Behind.mono {rt : MapRuntime} (h : Behind budget w tx rt) (hticks : w'.ticks = w.ticks)
    (hhandled : w'.handled = w.handled) (hsent : ∀ msg ∈ w.sent, msg ∈ w'.sent) :
    Behind budget w' tx rt where
  budget := h.budget
  sent := hsent _ h.sent
  pending := h.pending
  flow := by
    rw [WorldService.processed, hticks, hhandled]
    exact h.flow

/-- The table of runtimes, the history and what has been sent stay. -/
lemma Carried.keep (h : Carried budget w)
    (hcoordinator : w'.manager.coordinator = w.manager.coordinator)
    (hruntimes : w'.runtimes = w.runtimes) (hticks : w'.ticks = w.ticks)
    (hhandled : w'.handled = w.handled) (hsent : ∀ msg ∈ w.sent, msg ∈ w'.sent) :
    Carried budget w' where
  coordinator := by rw [hcoordinator, hhandled, h.coordinator]
  behind tx rt hrt := (h.behind tx rt (hruntimes ▸ hrt)).mono hticks hhandled hsent
  ticked t ht := by
    obtain ⟨hrt, hlen⟩ := h.ticked t (hticks ▸ ht)
    exact ⟨hruntimes.symm ▸ hrt, hlen⟩

lemma Carried.registered (h : Carried budget w) (hn : Numbered w) {id : CallId}
    (hr : Registering w id m tx) :
    Carried budget { w with
      manager := { w.manager.setCall id (.inserting m tx) with
        inbox := w.manager.inbox ++ [.registerMap m tx] }
      runtimes := w.runtimes.insert tx (.new m budget) } := by
  have hnew : tx ∉ announced w.sent := hn.registering_new id m tx hr
  have hnone : w.runtimes.lookup tx = none := by
    rcases hrt : w.runtimes.lookup tx with _ | rt
    · rfl
    · exact absurd (mem_announced.mpr ⟨_, (h.behind tx rt hrt).sent⟩) hnew
  have hsilent : forwarded tx w.handled = [] := by
    refine (forwarded_unused fun m' hin => hnew ?_).1
    exact mem_announced.mpr ⟨m', List.mem_append_left _ hin⟩
  have hsent : ∀ msg ∈ w.sent, msg ∈ w.handled ++ (w.manager.inbox ++ [.registerMap m tx]) := by
    intro msg hmsg
    rw [← List.append_assoc]
    exact List.mem_append_left _ hmsg
  refine ⟨h.coordinator, fun x rt hrt => ?_, fun t ht => ?_⟩
  · change (w.runtimes.insert tx _).lookup x = some rt at hrt
    rcases FMap.lookup_insert_cases hrt with ⟨hx, rfl⟩ | ⟨-, hrt⟩
    · subst hx
      refine ⟨rfl, ?_, rfl, ?_⟩
      · change _ ∈ w.handled ++ (w.manager.inbox ++ [_])
        simp [MapRuntime.new, MapInstance.new]
      · change w.processed x ++ ([] ++ []) = _
        rw [processed_of_stranger h hnone, hsilent]
        rfl
    · exact (h.behind x rt hrt).mono rfl rfl hsent
  · obtain ⟨⟨rt, hrt, hmap⟩, hlen⟩ := h.ticked t ht
    refine ⟨⟨rt, ?_, hmap⟩, hlen⟩
    have hne : t.channel ≠ tx := by
      rintro rfl
      rw [hnone] at hrt
      cases hrt
    change (w.runtimes.insert tx _).lookup t.channel = some rt
    rw [FMap.lookup_insert_eq, if_neg hne, hrt]

/-- What is sent into the channel of a runtime comes to stand behind all that is in it. -/
lemma lookup_deliver {runtimes : FMap ChannelId MapRuntime} {eff : Option Effect}
    {rt' : MapRuntime} (h : (deliver runtimes eff).lookup tx = some rt') :
    ∃ rt, runtimes.lookup tx = some rt ∧ rt'.mapInstance = rt.mapInstance ∧
      rt'.worldMapRx.map incoming = rt.worldMapRx.map incoming ++ sentInto tx eff := by
  rcases eff with _ | ⟨tx', cmd⟩ | ⟨replyTo, stats⟩
  · exact ⟨rt', h, rfl, (List.append_nil _).symm⟩
  · change (FMap.modify runtimes tx' _).lookup tx = some rt' at h
    rw [FMap.lookup_modify] at h
    split at h
    · next hx =>
      obtain ⟨rt, hrt, rfl⟩ := Option.map_eq_some_iff.mp h
      refine ⟨rt, hx ▸ hrt, rfl, ?_⟩
      rw [sentInto, if_pos hx.symm]
      exact List.map_append
    · next hx =>
      refine ⟨rt', h, rfl, ?_⟩
      rw [sentInto, if_neg (Ne.symm hx), List.append_nil]
  · exact ⟨rt', h, rfl, (List.append_nil _).symm⟩

lemma exists_lookup_deliver {runtimes : FMap ChannelId MapRuntime} {rt : MapRuntime}
    (h : runtimes.lookup tx = some rt) (eff : Option Effect) :
    ∃ rt', (deliver runtimes eff).lookup tx = some rt' ∧ rt'.mapInstance = rt.mapInstance := by
  rcases eff with _ | ⟨tx', cmd⟩ | ⟨replyTo, stats⟩
  · exact ⟨rt, h, rfl⟩
  · change ∃ rt', (FMap.modify runtimes tx' _).lookup tx = some rt' ∧ _
    rw [FMap.lookup_modify]
    split
    · next hx =>
      rw [← hx, h]
      exact ⟨_, rfl, rfl⟩
    · exact ⟨rt, h, rfl⟩
  · exact ⟨rt, h, rfl⟩

lemma Carried.received (h : Carried budget w) {msg : WorldMessage} {rest : List WorldMessage}
    (hin : w.manager.inbox = msg :: rest) :
    Carried budget { w with
      manager := { w.manager with
        inbox := rest
        coordinator := (w.manager.coordinator.handle msg).1 }
      runtimes := deliver w.runtimes (w.manager.coordinator.handle msg).2
      handled := w.handled ++ [msg] } := by
  have hsent : w.handled ++ [msg] ++ rest = w.sent := by
    rw [WorldService.sent, hin, List.append_assoc]
    rfl
  have hforwarded : ∀ tx, forwarded tx (w.handled ++ [msg]) =
      forwarded tx w.handled ++ sentInto tx (w.manager.coordinator.handle msg).2 := by
    intro tx
    rw [forwarded, outputs_append, ← h.coordinator, List.flatMap_append]
    simp [forwarded, outputs]
  refine ⟨?_, fun tx rt hrt => ?_, fun t ht => ?_⟩
  · change _ = final WorldCoordinator.handle .new (w.handled ++ [msg])
    rw [final_append, ← h.coordinator]
    rfl
  · obtain ⟨rt₀, hrt₀, hinst, hrx⟩ := lookup_deliver hrt
    have hb := h.behind tx rt₀ hrt₀
    refine ⟨hinst ▸ hb.budget, ?_, hinst ▸ hb.pending, ?_⟩
    · change _ ∈ w.handled ++ [msg] ++ rest
      rw [hsent, hinst]
      exact hb.sent
    · change w.processed tx ++ _ = forwarded tx (w.handled ++ [msg])
      rw [hforwarded, ← hb.flow, hinst, hrx]
      simp only [List.append_assoc]
  · obtain ⟨⟨rt, hrt, hmap⟩, hlen⟩ := h.ticked t ht
    obtain ⟨rt', hrt', hinst⟩ := exists_lookup_deliver hrt (w.manager.coordinator.handle msg).2
    exact ⟨⟨rt', hrt', hinst ▸ hmap⟩, hlen⟩

lemma Carried.managed (h : Carried budget w) (hn : Numbered w) (hm : Managed budget w w') :
    Carried budget w' := by
  cases hm with
  | kept hcoordinator hinbox hmore hnext hcalls =>
    refine h.keep hcoordinator rfl rfl rfl fun msg hmsg => ?_
    rw [WorldService.sent, hinbox, ← List.append_assoc]
    exact List.mem_append_left _ hmsg
  | locked => exact h.keep rfl rfl rfl rfl fun _ hmsg => hmsg
  | registered hr => exact h.registered hn hr
  | received hin => exact h.received hin

lemma of_runningRuntime {rt : MapRuntime} (h : w.runningRuntime tx = some rt) :
    w.runtimes.lookup tx = some rt := by
  unfold WorldService.runningRuntime at h
  split at h
  · exact h
  · cases h

/-- A runtime goes on; the ticks of the others stay what they were. -/
lemma Carried.setRuntime (h : Carried budget w) {rt rt' : MapRuntime}
    (hrt : w.runtimes.lookup tx = some rt)
    (hconfig : rt'.mapInstance.config = rt.mapInstance.config) {more : List Tick}
    (hmore : ∀ t ∈ more, t.channel = tx ∧ t.mapId = rt.mapInstance.config.mapId ∧
      t.commands.length = min budget t.available)
    (hpending : rt'.mapInstance.pendingCommands = [])
    (hflow : (more.flatMap fun t => t.commands) ++
        (rt'.mapInstance.rx ++ rt'.worldMapRx.map incoming) =
      rt.mapInstance.rx ++ rt.worldMapRx.map incoming) :
    Carried budget { w.setRuntime tx rt' with ticks := w.ticks ++ more } := by
  have hb := h.behind tx rt hrt
  have hprocessed : ∀ x, (w.ticks ++ more).flatMap (fun t => if t.channel = x then t.commands else [])
      = w.processed x ++ if x = tx then more.flatMap fun t => t.commands else [] := by
    intro x
    rw [List.flatMap_append]
    refine congrArg (w.processed x ++ ·) ?_
    split
    · next hx => exact List.flatMap_congr fun t ht => if_pos ((hmore t ht).1.trans hx.symm)
    · next hx =>
      refine List.flatMap_eq_nil_iff.mpr fun t ht => if_neg ?_
      rw [(hmore t ht).1]
      exact Ne.symm hx
  have hl : ∀ x, (w.runtimes.insert tx rt').lookup x =
      if x = tx then some rt' else w.runtimes.lookup x := fun x =>
    FMap.lookup_insert_eq w.runtimes tx x rt'
  refine ⟨h.coordinator, fun x rt₁ hrt₁ => ?_, fun t ht => ?_⟩
  · change (w.runtimes.insert tx rt').lookup x = some rt₁ at hrt₁
    rw [hl] at hrt₁
    split at hrt₁
    · next hx =>
      obtain rfl := Option.some.inj hrt₁
      subst hx
      refine ⟨hconfig ▸ hb.budget, hconfig ▸ hb.sent, hpending, ?_⟩
      change (w.ticks ++ more).flatMap _ ++ _ = forwarded x w.handled
      rw [hprocessed, if_pos rfl, List.append_assoc, hflow, ← hb.flow]
    · next hx =>
      have hb₁ := h.behind x rt₁ hrt₁
      refine ⟨hb₁.budget, hb₁.sent, hb₁.pending, ?_⟩
      change (w.ticks ++ more).flatMap _ ++ _ = forwarded x w.handled
      rw [hprocessed, if_neg hx, List.append_nil, hb₁.flow]
  · have hruntime : ∀ x rt₁, w.runtimes.lookup x = some rt₁ →
        ∃ rt₂, (w.runtimes.insert tx rt').lookup x = some rt₂ ∧
          rt₂.mapInstance.config = rt₁.mapInstance.config := by
      intro x rt₁ hrt₁
      rw [hl]
      split
      · next hx =>
        rw [hx, hrt] at hrt₁
        exact ⟨rt', rfl, Option.some.inj hrt₁ ▸ hconfig⟩
      · exact ⟨rt₁, hrt₁, rfl⟩
    rcases List.mem_append.mp ht with ht | ht
    · obtain ⟨⟨rt₁, hrt₁, hmap⟩, hlen⟩ := h.ticked t ht
      obtain ⟨rt₂, hrt₂, hsame⟩ := hruntime t.channel rt₁ hrt₁
      exact ⟨⟨rt₂, hrt₂, hsame ▸ hmap⟩, hlen⟩
    · obtain ⟨hchannel, hmap, hlen⟩ := hmore t ht
      obtain ⟨rt₂, hrt₂, hsame⟩ := hruntime tx rt hrt
      exact ⟨⟨rt₂, hchannel ▸ hrt₂, by rw [hsame, hmap]⟩, hlen⟩

lemma route_cases {rt rt' : MapRuntime} (h : rt.route = some rt') :
    rt'.mapInstance.config = rt.mapInstance.config ∧
      rt'.mapInstance.pendingCommands = rt.mapInstance.pendingCommands ∧
      rt'.mapInstance.rx ++ rt'.worldMapRx.map incoming =
        rt.mapInstance.rx ++ rt.worldMapRx.map incoming := by
  unfold MapRuntime.route at h
  split at h
  · next cmd rest hrx =>
    obtain rfl := Option.some.inj h
    refine ⟨rfl, rfl, ?_⟩
    rw [hrx, List.map_cons]
    exact List.append_assoc ..
  · cases h

lemma Carried.routed (h : Carried budget w) {rt rt' : MapRuntime}
    (hrt : w.runtimes.lookup tx = some rt) (hroute : rt.route = some rt') :
    Carried budget (w.setRuntime tx rt') := by
  obtain ⟨hconfig, hpending, hflow⟩ := route_cases hroute
  have hkey : Carried budget { w.setRuntime tx rt' with ticks := w.ticks ++ [] } :=
    h.setRuntime hrt hconfig nofun (hpending.trans (h.behind tx rt hrt).pending) hflow
  rwa [List.append_nil] at hkey

lemma tickOf_commands (tx : ChannelId) {m : MapInstance} (h : m.pendingCommands = []) :
    (tickOf tx m).commands = m.rx.take m.config.commandBudget := by
  unfold tickOf
  dsimp only
  rw [MapInstance.begun_eq]
  dsimp only
  rw [h, List.nil_append]

lemma Carried.tick (h : Carried budget w) {rt : MapRuntime} (iter : Iteration)
    (hrt : w.runtimes.lookup tx = some rt) :
    Carried budget { w.setRuntime tx (rt.tick iter) with
      ticks := w.ticks ++ [tickOf tx rt.mapInstance] } := by
  have hb := h.behind tx rt hrt
  have hinst : (rt.tick iter).mapInstance = rt.mapInstance.tick iter := rfl
  have hchannel : (rt.tick iter).worldMapRx = rt.worldMapRx := rfl
  have hrx := rt.mapInstance.tick_rx iter
  have hpending := rt.mapInstance.tick_pendingCommands iter
  have hcommands := tickOf_commands tx hb.pending
  refine h.setRuntime hrt (by rw [hinst, MapInstance.tick_config]) (fun t htick => ?_)
    (by rw [hinst, hpending]) ?_
  · obtain rfl := List.mem_singleton.mp htick
    refine ⟨rfl, rfl, ?_⟩
    rw [hcommands, List.length_take, hb.budget]
    rfl
  · rw [hinst, hchannel, hrx, List.flatMap_singleton, hcommands, ← List.append_assoc,
      List.take_append_drop]

/-- **One step** of any of the four. -/
theorem carried_step {a : Action} (hn : Numbered w) (h : Carried budget w)
    (hst : w.step budget a = some w') : Numbered w' ∧ Carried budget w' := by
  cases a with
  | manager a =>
    have hm := managed_cases hst
    exact ⟨hn.managed hm, h.managed hn hm⟩
  | route tx =>
    obtain ⟨rt', hb, rfl⟩ := Option.map_eq_some_iff.mp hst
    obtain ⟨rt, hrt, hroute⟩ := Option.bind_eq_some_iff.mp hb
    exact ⟨hn.keep rfl rfl fun _ _ _ hr => hr, h.routed (of_runningRuntime hrt) hroute⟩
  | tick tx iter =>
    obtain ⟨rt, hrt, rfl⟩ := Option.map_eq_some_iff.mp hst
    exact ⟨hn.keep rfl rfl fun _ _ _ hr => hr, h.tick iter (of_runningRuntime hrt)⟩

theorem carried_of_reached (h : (system budget).Reached w) : Numbered w ∧ Carried budget w := by
  refine h.invariant (fun w => Numbered w ∧ Carried budget w) ?_ ?_
  · rintro w rfl
    exact ⟨numbered_start, carried_start⟩
  · rintro w a w' ⟨hn, hc⟩ _ hst
    exact carried_step hn hc hst

/-! ### A map that is registered once -/

section

variable {pre post : List WorldMessage}

/-- A channel is registered once only. -/
lemma Numbered.once (hn : Numbered w) (hreg : w.handled = pre ++ .registerMap m tx :: post)
    (m' : MapId) : .registerMap m' tx ∉ pre ++ post ++ w.manager.inbox := by
  have hnd := hn.nodup
  rw [WorldService.sent, hreg, List.append_assoc, List.cons_append, announced_append] at hnd
  obtain ⟨-, htail, hdisj⟩ := List.nodup_append.mp hnd
  have hpre : tx ∉ announced pre := fun hin => hdisj tx hin tx List.mem_cons_self rfl
  have hpost : tx ∉ announced (post ++ w.manager.inbox) := (List.nodup_cons.mp htail).1
  rw [List.append_assoc, List.mem_append]
  rintro (hin | hin)
  · exact hpre (mem_announced.mpr ⟨m', hin⟩)
  · exact hpost (mem_announced.mpr ⟨m', hin⟩)

/-- Only the instance behind the registered channel has processed anything for the map. -/
lemma processedOn_eq (hn : Numbered w) (hc : Carried budget w)
    (hreg : w.handled = pre ++ .registerMap m tx :: post)
    (honce : ∀ msg ∈ pre ++ post, changesSender m msg = false) :
    w.processedOn m = w.processed tx := by
  have hsent : w.sent = pre ++ .registerMap m tx :: (post ++ w.manager.inbox) := by
    rw [WorldService.sent, hreg, List.append_assoc]
    rfl
  refine List.flatMap_congr fun t ht => ?_
  obtain ⟨⟨rt, hrt, hmap⟩, -⟩ := hc.ticked t ht
  have hb := hc.behind t.channel rt hrt
  have hin : .registerMap t.mapId t.channel ∈ w.sent := hmap ▸ hb.sent
  by_cases htx : t.channel = tx
  · -- the channel is registered for no other map
    have hm : t.mapId = m := by
      by_contra hne
      refine hn.once hreg t.mapId ?_
      rw [hsent, htx] at hin
      simpa [hne, or_assoc] using hin
    rw [if_pos hm, if_pos htx]
  rw [if_neg htx]
  split
  · -- another instance of the map: its registration is still in the inbox
    next hm =>
    have hinbox : t.channel ∈ announced w.manager.inbox := by
      refine mem_announced.mpr ⟨m, ?_⟩
      rw [hsent, hm] at hin
      have hother : .registerMap m t.channel ∉ pre ++ post := fun hbad => by
        simpa [changesSender] using honce _ hbad
      simp only [List.mem_append, List.mem_cons, WorldMessage.registerMap.injEq, htx, and_false,
        false_or] at hin hother
      tauto
    have hsilent : forwarded t.channel w.handled = [] := by
      refine (forwarded_unused fun m' hbad => ?_).1
      have hnd := hn.nodup
      rw [WorldService.sent, announced_append] at hnd
      exact (List.nodup_append.mp hnd).2.2 _ (mem_announced.mpr ⟨m', hbad⟩) _ hinbox rfl
    have hnone : w.processed t.channel = [] :=
      (List.append_eq_nil_iff.mp (hb.flow.trans hsilent)).1
    simpa using List.flatMap_eq_nil_iff.mp hnone t ht
  · rfl

/-- The commands that history has of a tick are those that the tick runs its input on. -/
lemma step_tick {tx : ChannelId} {iter : Iteration}
    (h : w.step budget (.tick tx iter) = some w') :
    ∃ rt t, w.runningRuntime tx = some rt ∧ w'.runtimes.lookup tx = some (rt.tick iter) ∧
      w'.ticks = w.ticks ++ [t] ∧ t.channel = tx ∧
      (rt.tick iter).mapInstance =
        afterInput iter (rt.mapInstance.begun.opened.systemInput t.commands) := by
  obtain ⟨rt, hrt, rfl⟩ := Option.map_eq_some_iff.mp h
  refine ⟨rt, tickOf tx rt.mapInstance, hrt, ?_, rfl, rfl, ?_⟩
  · show (w.runtimes.insert tx (rt.tick iter)).lookup tx = _
    rw [FMap.lookup_insert_eq, if_pos rfl]
  · show _ = afterInput iter
      (rt.mapInstance.begun.opened.systemInput rt.mapInstance.begun.pendingCommands)
    rw [← MapInstance.inputStage_eq]
    rfl

/-- **Commands reach a map in order and once.** As long as a map has been registered once and never
unregistered, what its instance has processed is a beginning of the commands for the map that the
coordinator has received since; and every tick processes what is in the queue, up to its budget:
that is what it runs its input on. -/
theorem delivered_in_order (h : (system budget).Reached w)
    (hreg : w.handled = pre ++ .registerMap m tx :: post)
    (honce : ∀ msg ∈ pre ++ post, changesSender m msg = false) :
    w.processedOn m <+: post.flatMap (addressed m) ∧
      (∀ t ∈ w.ticks, t.commands.length = min budget t.available) ∧
      ∀ tx iter w', w.step budget (.tick tx iter) = some w' →
        ∃ rt t, w.runningRuntime tx = some rt ∧ w'.runtimes.lookup tx = some (rt.tick iter) ∧
          w'.ticks = w.ticks ++ [t] ∧ t.channel = tx ∧
          (rt.tick iter).mapInstance =
            afterInput iter (rt.mapInstance.begun.opened.systemInput t.commands) := by
  obtain ⟨hn, hc⟩ := carried_of_reached h
  refine ⟨?_, fun t ht => (hc.ticked t ht).length, fun _ _ _ => step_tick⟩
  have hforwarded : forwarded tx w.handled = post.flatMap (addressed m) := by
    rw [hreg]
    refine forwarded_registered honce fun m' hin => hn.once hreg m' ?_
    exact List.mem_append_left _ hin
  rw [processedOn_eq hn hc hreg honce, ← hforwarded]
  rcases hrt : w.runtimes.lookup tx with _ | rt
  · rw [processed_of_stranger hc hrt]
    exact List.nil_prefix
  · exact ⟨_, (hc.behind tx rt hrt).flow⟩

/-- Two maps and a budget of one: the second command for map 1 waits for the next tick. -/
theorem delivered_in_order_busy :
    ∃ w, (system 1).Reached w ∧ w.processedOn 1 = [⟨.fill 7, none, .enterWorld⟩] ∧
      w.processedOn 1 <+: [.registerMap 2 1, .routeToMap 1 (.fill 7) none .enterWorld,
        .routeToMap 2 (.fill 8) none .heartbeat,
        .routeToMap 1 (.fill 7) none (.chat "hi")].flatMap (addressed 1) ∧
      ∀ t ∈ w.ticks, t.commands.length = min 1 t.available := by
  obtain ⟨w, hw, hp⟩ := (system 1).exists_reachedBy (fun _ _ => True) rfl
    [.manager (.activate 0 1), .manager (.resume 0), .manager (.resume 0), .manager (.resume 0),
      .manager (.activate 1 2), .manager (.resume 1), .manager (.resume 1), .manager (.resume 1),
      .manager (.post (.routeToMap 1 (.fill 7) none .enterWorld)),
      .manager (.post (.routeToMap 2 (.fill 8) none .heartbeat)),
      .manager (.post (.routeToMap 1 (.fill 7) none (.chat "hi"))),
      .manager .recv, .manager .recv, .manager .recv, .manager .recv, .manager .recv,
      .route 0, .route 1, .route 0, .tick 0 default, .tick 1 default]
    (fun w => w.handled = [.registerMap 1 0, .registerMap 2 1,
        .routeToMap 1 (.fill 7) none .enterWorld, .routeToMap 2 (.fill 8) none .heartbeat,
        .routeToMap 1 (.fill 7) none (.chat "hi")] ∧
      w.processedOn 1 = [⟨.fill 7, none, .enterWorld⟩]) (by decide +kernel)
  obtain ⟨hhandled, hprocessed⟩ := of_decide_eq_true hp
  obtain ⟨horder, hbudget, -⟩ := delivered_in_order hw (hhandled.trans (List.nil_append _).symm)
    (by decide +kernel)
  exact ⟨w, hw, hprocessed, horder, hbudget⟩

end

end HelbreathBackend.Delivery
