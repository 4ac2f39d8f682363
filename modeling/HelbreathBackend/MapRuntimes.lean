import HelbreathBackend.MapServer
import HelbreathBackend.World
import HelbreathBackend.Lib.Transition

/-!
The coordinator with the maps it routes to.

Activating a map makes a channel, a task that moves what arrives on it into the queue of a
fresh instance, and a `RegisterMap` with the sender of the channel. A command on its way to
an instance is in one of three places: the inbox of the coordinator, the channel of the
map, the queue of its instance. Who is going to be on the map once everything between the
coordinator and the instance has arrived does not change as it moves along.
-/

namespace HelbreathBackend.MapRuntimes

open HelbreathBackend.Lib HelbreathBackend.Domain HelbreathBackend.Application
open HelbreathBackend.World HelbreathBackend.MapServer

/-- What one activation makes: the channel from the coordinator and the instance behind it. -/
structure MapRuntime where
  worldMapRx : List RoutedCommand
  mapInstance : MapInstance

structure WorldRuntime where
  inbox : List WorldMessage
  coordinator : WorldCoordinator
  runtimes : FMap ChannelId MapRuntime
  nextChannel : ChannelId

inductive Action
  | register (mapId : MapId)
  | post (msg : WorldMessage)
  | recv
  | route (tx : ChannelId)
  | tick (tx : ChannelId) (iter : Iteration)

/-- The command that the router task of a map makes of what the coordinator sent. -/
def incoming (routed : RoutedCommand) : IncomingCommand :=
  ⟨routed.sessionId, routed.characterId, routed.command⟩

namespace MapRuntime

def new (mapId : MapId) (commandBudget : ℕ) : MapRuntime := ⟨[], .new ⟨mapId, commandBudget⟩⟩

variable (rt : MapRuntime)

def push (cmd : RoutedCommand) : MapRuntime := { rt with worldMapRx := rt.worldMapRx ++ [cmd] }

/-- One round of the router task of the map. -/
def route : Option MapRuntime :=
  match rt.worldMapRx with
  | routed :: rest =>
    some
      { worldMapRx := rest
        mapInstance := { rt.mapInstance with rx := rt.mapInstance.rx ++ [incoming routed] } }
  | [] => none

def tick (iter : Iteration) : MapRuntime := { rt with mapInstance := rt.mapInstance.tick iter }

/-- Nothing is on its way to the players. -/
def Drained : Prop :=
  rt.worldMapRx = [] ∧ rt.mapInstance.rx = [] ∧ rt.mapInstance.pendingCommands = []

instance : Decidable rt.Drained := inferInstanceAs (Decidable (_ ∧ _))

/-- Who will be on the map when all that is on its way has arrived. -/
def eventual : Finset SessionId :=
  (rt.mapInstance.pendingCommands ++ rt.mapInstance.rx ++ rt.worldMapRx.map incoming).foldl
    MapInstance.presence rt.mapInstance.players.keys

lemma eventual_new (mapId : MapId) (commandBudget : ℕ) : (new mapId commandBudget).eventual = ∅ :=
  rfl

lemma eventual_push (cmd : RoutedCommand) :
    (rt.push cmd).eventual = MapInstance.presence rt.eventual (incoming cmd) := by
  unfold eventual push
  dsimp only
  rw [List.map_append, ← List.append_assoc, List.foldl_append]
  rfl

lemma eventual_route {rt rt' : MapRuntime} (h : rt.route = some rt') :
    rt'.eventual = rt.eventual := by
  unfold route at h
  split at h
  · next routed rest hrx =>
    obtain rfl := Option.some.inj h
    unfold eventual
    dsimp only
    rw [hrx, List.map_cons]
    simp only [List.append_assoc, List.cons_append, List.nil_append]
  · cases h

lemma eventual_tick (iter : Iteration) : (rt.tick iter).eventual = rt.eventual := by
  unfold eventual tick
  dsimp only
  rw [MapInstance.tick_keys, MapInstance.tick_rx, MapInstance.tick_pendingCommands,
    ← List.foldl_append]
  congr 1
  simp only [List.nil_append, List.append_assoc]
  rw [← List.append_assoc (rt.mapInstance.rx.take _), List.take_append_drop]

lemma eventual_drained {rt : MapRuntime} (h : rt.Drained) :
    rt.eventual = rt.mapInstance.players.keys := by
  obtain ⟨hw, hr, hp⟩ := h
  unfold eventual
  rw [hw, hr, hp]
  rfl

end MapRuntime

namespace WorldRuntime

variable (w : WorldRuntime)

/-- The channel of a new runtime, and its `RegisterMap` on the way to the coordinator. -/
def register (commandBudget : ℕ) (mapId : MapId) : WorldRuntime where
  inbox := w.inbox ++ [.registerMap mapId w.nextChannel]
  coordinator := w.coordinator
  runtimes := w.runtimes.insert w.nextChannel (.new mapId commandBudget)
  nextChannel := w.nextChannel + 1

/-- Any other message to the coordinator. -/
def post : WorldMessage → Option WorldRuntime
  | .registerMap .. => none
  | msg => some { w with inbox := w.inbox ++ [msg] }

def deliver (runtimes : FMap ChannelId MapRuntime) : Option Effect → FMap ChannelId MapRuntime
  | some (.forward tx cmd) => FMap.modify runtimes tx (·.push cmd)
  | _ => runtimes

/-- The coordinator handles a message. -/
def handle (msg : WorldMessage) : WorldRuntime :=
  { w with
    coordinator := (w.coordinator.handle msg).1
    runtimes := deliver w.runtimes (w.coordinator.handle msg).2 }

def recv : Option WorldRuntime :=
  match w.inbox with
  | msg :: rest => some ({ w with inbox := rest }.handle msg)
  | [] => none

def setRuntime (tx : ChannelId) (rt : MapRuntime) : WorldRuntime :=
  { w with runtimes := w.runtimes.insert tx rt }

def step (commandBudget : ℕ) : Action → Option WorldRuntime
  | .register mapId => some (w.register commandBudget mapId)
  | .post msg => w.post msg
  | .recv => w.recv
  | .route tx => ((w.runtimes.lookup tx).bind (·.route)).map (w.setRuntime tx)
  | .tick tx iter => (w.runtimes.lookup tx).map fun rt => w.setRuntime tx (rt.tick iter)

def Drained : Prop :=
  w.inbox = [] ∧ ∀ tx ∈ w.runtimes.keys, ∀ rt ∈ w.runtimes.lookup tx, rt.Drained

instance : Decidable w.Drained := inferInstanceAs (Decidable (_ ∧ _))

end WorldRuntime

/-- The empty coordinator, and no map activated yet. -/
def start : WorldRuntime := ⟨[], .new, ∅, 0⟩

/-- The coordinator and its maps, for a command budget of the instances. -/
def system (commandBudget : ℕ) : System WorldRuntime Action where
  init w := w = start
  step w a := w.step commandBudget a

/-! ### Channels

Every activation has a channel of its own: a sender is registered for one map only, and a
channel whose `RegisterMap` has not been handled has carried nothing. -/

/-- The channels whose `RegisterMap` is still in the inbox. -/
def announced (inbox : List WorldMessage) : List ChannelId :=
  inbox.filterMap fun
    | .registerMap _ tx => some tx
    | _ => none

namespace WorldRuntime

variable {w w' : WorldRuntime}

/-- Who will be behind a channel. -/
def future (w : WorldRuntime) (tx : ChannelId) : Option (Finset SessionId) :=
  (w.runtimes.lookup tx).map (·.eventual)

structure Wired (w : WorldRuntime) : Prop where
  sender_isSome : ∀ m tx, w.coordinator.mapSenders.lookup m = some tx → (w.future tx).isSome
  sender_lt : ∀ m tx, w.coordinator.mapSenders.lookup m = some tx → tx < w.nextChannel
  sender_inj : ∀ m m' tx, w.coordinator.mapSenders.lookup m = some tx →
    w.coordinator.mapSenders.lookup m' = some tx → m = m'
  announced_lt : ∀ tx ∈ announced w.inbox, tx < w.nextChannel
  announced_nodup : (announced w.inbox).Nodup
  announced_unused : ∀ tx ∈ announced w.inbox, ∀ m,
    w.coordinator.mapSenders.lookup m ≠ some tx
  announced_empty : ∀ tx ∈ announced w.inbox, w.future tx = some ∅

lemma wired_start : Wired start where
  sender_isSome _ _ h := by simp [start, WorldCoordinator.new] at h
  sender_lt _ _ h := by simp [start, WorldCoordinator.new] at h
  sender_inj _ _ _ h := by simp [start, WorldCoordinator.new] at h
  announced_lt _ h := by simp [start, announced] at h
  announced_nodup := List.nodup_nil
  announced_unused _ h := by simp [start, announced] at h
  announced_empty _ h := by simp [start, announced] at h

lemma future_setRuntime {tx : ChannelId} {rt rt' : MapRuntime}
    (hrt : w.runtimes.lookup tx = some rt) (he : rt'.eventual = rt.eventual) (x : ChannelId) :
    (w.setRuntime tx rt').future x = w.future x := by
  unfold future setRuntime
  dsimp only
  rw [FMap.lookup_insert_eq]
  split
  · next hx => rw [hx, hrt, Option.map_some, Option.map_some, he]
  · rfl

/-- Moving a command along, or a tick, changes nothing but where commands are. -/
lemma Wired.setRuntime (hw : Wired w) {tx : ChannelId} {rt rt' : MapRuntime}
    (hrt : w.runtimes.lookup tx = some rt) (he : rt'.eventual = rt.eventual) :
    Wired (w.setRuntime tx rt') := by
  have hf := future_setRuntime hrt he
  exact
    { hw with
      sender_isSome := fun m x h => by rw [hf]; exact hw.sender_isSome m x h
      announced_empty := fun x h => by rw [hf]; exact hw.announced_empty x h }

lemma Wired.register (hw : Wired w) (budget : ℕ) (mapId : MapId) :
    Wired (w.register budget mapId) := by
  have hne : ∀ x, x < w.nextChannel → (w.register budget mapId).future x = w.future x := by
    intro x hx
    unfold future WorldRuntime.register
    dsimp only
    rw [FMap.lookup_insert_eq, if_neg (Nat.ne_of_lt hx)]
  have hself : (w.register budget mapId).future w.nextChannel = some ∅ := by
    unfold future WorldRuntime.register
    dsimp only
    rw [FMap.lookup_insert_eq, if_pos rfl, Option.map_some, MapRuntime.eventual_new]
  have hann : announced (w.register budget mapId).inbox = announced w.inbox ++ [w.nextChannel] := by
    simp [announced, WorldRuntime.register]
  refine ⟨fun m x h => ?_, fun m x h => ?_, hw.sender_inj, ?_, ?_, ?_, ?_⟩
  · rw [hne x (hw.sender_lt m x h)]
    exact hw.sender_isSome m x h
  · exact Nat.lt_succ_of_lt (hw.sender_lt m x h)
  · intro x hx
    rw [hann, List.mem_append, List.mem_singleton] at hx
    rcases hx with hx | rfl
    · exact Nat.lt_succ_of_lt (hw.announced_lt x hx)
    · exact Nat.lt_succ_self _
  · rw [hann]
    refine List.nodup_append.mpr ⟨hw.announced_nodup, List.nodup_singleton _, ?_⟩
    intro x hx y hy
    rw [List.mem_singleton.mp hy]
    exact Nat.ne_of_lt (hw.announced_lt x hx)
  · intro x hx m hm
    rw [hann, List.mem_append, List.mem_singleton] at hx
    rcases hx with hx | rfl
    · exact hw.announced_unused x hx m hm
    · exact absurd (hw.sender_lt m _ hm) (lt_irrefl _)
  · intro x hx
    rw [hann, List.mem_append, List.mem_singleton] at hx
    rcases hx with hx | rfl
    · rw [hne x (hw.announced_lt x hx)]
      exact hw.announced_empty x hx
    · exact hself

lemma announced_post {msg : WorldMessage} (h : w.post msg = some w') :
    w' = { w with inbox := w.inbox ++ [msg] } ∧ announced w'.inbox = announced w.inbox := by
  cases msg
  case registerMap m tx => cases h
  all_goals
    obtain rfl := Option.some.inj h
    exact ⟨rfl, by simp [announced]⟩

lemma Wired.post (hw : Wired w) {msg : WorldMessage} (h : w.post msg = some w') : Wired w' := by
  obtain ⟨rfl, ha⟩ := announced_post h
  exact
    { hw with
      announced_lt := fun x hx => hw.announced_lt x (ha ▸ hx)
      announced_nodup := ha ▸ hw.announced_nodup
      announced_unused := fun x hx => hw.announced_unused x (ha ▸ hx)
      announced_empty := fun x hx => hw.announced_empty x (ha ▸ hx) }

/-! ### The occupancy of the maps

What the coordinator and its channels say about who is on which map, with everything between
them and the players taken as arrived. It changes with each message the coordinator handles,
and with nothing else. -/

/-- For each registered map, who is on it. -/
abbrev Occupancy := MapId → Option (Finset SessionId)

def Occupancy.next (o : Occupancy) : WorldMessage → Occupancy
  | .registerMap mapId _ => fun m => if m = mapId then some ∅ else o m
  | .unregisterMap mapId => fun m => if m = mapId then none else o m
  | .routeToMap mapId sessionId characterId command => fun m =>
    if m = mapId then
      (o m).map fun p => MapInstance.presence p ⟨sessionId, characterId, command⟩
    else o m
  | _ => o

def occupancy (w : WorldRuntime) : Occupancy := fun m =>
  (w.coordinator.mapSenders.lookup m).bind w.future

lemma future_deliver_forward (w : WorldRuntime) (tx : ChannelId) (cmd : RoutedCommand)
    (x : ChannelId) :
    { w with runtimes := deliver w.runtimes (some (.forward tx cmd)) }.future x =
      if x = tx then (w.future x).map fun p => MapInstance.presence p (incoming cmd)
      else w.future x := by
  unfold future deliver
  dsimp only
  rw [FMap.lookup_modify]
  split
  · next hx =>
    rw [hx, Option.map_map, Option.map_map]
    congr 1
    funext rt
    exact MapRuntime.eventual_push rt cmd
  · rfl

/-- Routing a command: the channel of the map gets it, every other channel stays as it is. -/
lemma future_handle_route (w : WorldRuntime) (m : MapId) (s : SessionId)
    (cid : Option CharacterId) (cmd : ClientCommand) (x : ChannelId) :
    (w.handle (.routeToMap m s cid cmd)).future x =
      if w.coordinator.mapSenders.lookup m = some x then
        (w.future x).map fun p => MapInstance.presence p ⟨s, cid, cmd⟩
      else w.future x := by
  have ht := WorldCoordinator.track_mapSenders w.coordinator m s cmd
  unfold handle WorldCoordinator.handle
  dsimp only
  rw [ht]
  rcases hm : w.coordinator.mapSenders.lookup m with _ | tx
  · rfl
  · have hf := future_deliver_forward w tx ⟨s, cid, cmd⟩ x
    rw [Option.map_some]
    refine hf.trans ?_
    by_cases hx : x = tx
    · rw [if_pos hx, if_pos (by rw [hx])]
      rfl
    · rw [if_neg hx, if_neg fun h => hx (Option.some.inj h).symm]

lemma recv_cases (h : w.recv = some w') :
    ∃ msg rest, w.inbox = msg :: rest ∧ w' = { w with inbox := rest }.handle msg := by
  unfold recv at h
  split at h
  · next msg rest hin => exact ⟨msg, rest, hin, (Option.some.inj h).symm⟩
  · cases h

lemma Wired.tail (hw : Wired w) {msg : WorldMessage} {rest : List WorldMessage}
    (hin : w.inbox = msg :: rest) : Wired { w with inbox := rest } := by
  have hsub : (announced rest).Sublist (announced w.inbox) := by
    rw [hin]
    exact (List.sublist_cons_self msg rest).filterMap _
  exact
    { hw with
      announced_lt := fun x hx => hw.announced_lt x (hsub.subset hx)
      announced_nodup := hw.announced_nodup.sublist hsub
      announced_unused := fun x hx => hw.announced_unused x (hsub.subset hx)
      announced_empty := fun x hx => hw.announced_empty x (hsub.subset hx) }

/-- Registering a map puts an unused channel with nothing in it in the table. -/
lemma Wired.registerMap (hw : Wired w) {m : MapId} {tx : ChannelId}
    (hlt : tx < w.nextChannel) (hun : ∀ m', w.coordinator.mapSenders.lookup m' ≠ some tx)
    (hann : tx ∉ announced w.inbox) (hem : w.future tx = some ∅) :
    Wired (w.handle (.registerMap m tx)) := by
  have hl : ∀ x, (w.handle (.registerMap m tx)).coordinator.mapSenders.lookup x =
      if x = m then some tx else w.coordinator.mapSenders.lookup x :=
    fun x => FMap.lookup_insert_eq _ _ _ _
  refine
    { hw with
      sender_isSome := fun x y h => ?_
      sender_lt := fun x y h => ?_
      sender_inj := fun x x' y h h' => ?_
      announced_unused := fun y hy x h => ?_ } <;> rw [hl] at h
  · split at h
    · obtain rfl := Option.some.inj h
      exact (congrArg Option.isSome hem).trans rfl
    · exact hw.sender_isSome x y h
  · split at h
    · obtain rfl := Option.some.inj h
      exact hlt
    · exact hw.sender_lt x y h
  · rw [hl] at h'
    split at h <;> split at h'
    · next hx hx' => rw [hx, hx']
    · obtain rfl := Option.some.inj h
      exact absurd h' (hun x')
    · obtain rfl := Option.some.inj h'
      exact absurd h (hun x)
    · exact hw.sender_inj x x' y h h'
  · split at h
    · obtain rfl := Option.some.inj h
      exact hann hy
    · exact hw.announced_unused y hy x h

lemma Wired.unregisterMap (hw : Wired w) (m : MapId) : Wired (w.handle (.unregisterMap m)) := by
  have hl : ∀ x y, (w.handle (.unregisterMap m)).coordinator.mapSenders.lookup x = some y →
      w.coordinator.mapSenders.lookup x = some y := by
    intro x y h
    have he := FMap.lookup_erase_eq w.coordinator.mapSenders m x
    change (w.coordinator.mapSenders.erase m).lookup x = some y at h
    rw [he] at h
    split at h
    · cases h
    · exact h
  exact
    { hw with
      sender_isSome := fun x y h => hw.sender_isSome x y (hl x y h)
      sender_lt := fun x y h => hw.sender_lt x y (hl x y h)
      sender_inj := fun x x' y h h' => hw.sender_inj x x' y (hl x y h) (hl x' y h')
      announced_unused := fun y hy x h => hw.announced_unused y hy x (hl x y h) }

lemma Wired.routeToMap (hw : Wired w) (m : MapId) (s : SessionId) (cid : Option CharacterId)
    (cmd : ClientCommand) : Wired (w.handle (.routeToMap m s cid cmd)) := by
  have hs : (w.handle (.routeToMap m s cid cmd)).coordinator.mapSenders =
      w.coordinator.mapSenders := WorldCoordinator.track_mapSenders _ m s cmd
  have hf := future_handle_route w m s cid cmd
  refine ⟨?_, hs ▸ hw.sender_lt, hs ▸ hw.sender_inj, hw.announced_lt, hw.announced_nodup,
    hs ▸ hw.announced_unused, ?_⟩
  · intro x y h
    rw [hs] at h
    rw [hf]
    split
    · rw [Option.isSome_map]
      exact hw.sender_isSome x y h
    · exact hw.sender_isSome x y h
  · intro y hy
    rw [hf, if_neg (hw.announced_unused y hy m)]
    exact hw.announced_empty y hy

/-- **The coordinator takes a message**: the channels stay wired, and the occupancy of the
maps goes as the message says. -/
theorem wired_recv (hw : Wired w) (h : w.recv = some w') :
    Wired w' ∧ ∃ msg rest, w.inbox = msg :: rest ∧ w'.inbox = rest ∧
      w'.coordinator = w.coordinator.next msg ∧ w'.occupancy = w.occupancy.next msg := by
  obtain ⟨msg, rest, hin, rfl⟩ := recv_cases h
  have ht := hw.tail hin
  suffices hs : Wired ({ w with inbox := rest }.handle msg) ∧
      ({ w with inbox := rest }.handle msg).occupancy = w.occupancy.next msg from
    ⟨hs.1, msg, rest, hin, rfl, rfl, hs.2⟩
  cases msg with
  | registerMap m tx =>
    have hmem : tx ∈ announced w.inbox := by simp [hin, announced]
    have hnot : tx ∉ announced rest := by
      have hnd := hw.announced_nodup
      rw [hin] at hnd
      exact (List.nodup_cons.mp hnd).1
    refine ⟨ht.registerMap (hw.announced_lt tx hmem) (hw.announced_unused tx hmem) hnot
      (hw.announced_empty tx hmem), ?_⟩
    funext x
    have hl := FMap.lookup_insert_eq w.coordinator.mapSenders m x tx
    change ((w.coordinator.mapSenders.insert m tx).lookup x).bind w.future =
      if x = m then some ∅ else w.occupancy x
    rw [hl]
    split
    · exact hw.announced_empty tx hmem
    · rfl
  | unregisterMap m =>
    refine ⟨ht.unregisterMap m, ?_⟩
    funext x
    have hl := FMap.lookup_erase_eq w.coordinator.mapSenders m x
    change ((w.coordinator.mapSenders.erase m).lookup x).bind w.future =
      if x = m then none else w.occupancy x
    rw [hl]
    split <;> rfl
  | routeToMap m s cid cmd =>
    refine ⟨ht.routeToMap m s cid cmd, ?_⟩
    funext x
    have hs : ({ w with inbox := rest }.handle (.routeToMap m s cid cmd)).coordinator.mapSenders =
        w.coordinator.mapSenders := WorldCoordinator.track_mapSenders _ m s cmd
    have hf := future_handle_route { w with inbox := rest } m s cid cmd
    unfold occupancy Occupancy.next
    dsimp only
    rw [hs]
    rcases hx : w.coordinator.mapSenders.lookup x with _ | tx
    · split <;> rfl
    · rw [Option.bind_some, Option.bind_some, hf]
      by_cases hxm : x = m
      · rw [if_pos (hxm ▸ hx), if_pos hxm]
        rfl
      · rw [if_neg fun hm => hxm (hw.sender_inj x m tx hx hm), if_neg hxm]
        rfl
  | broadcast text => exact ⟨{ ht with }, rfl⟩
  | getStats reply => exact ⟨{ ht with }, rfl⟩

lemma occupancy_setRuntime {tx : ChannelId} {rt rt' : MapRuntime}
    (hrt : w.runtimes.lookup tx = some rt) (he : rt'.eventual = rt.eventual) :
    (w.setRuntime tx rt').occupancy = w.occupancy := by
  funext m
  have hf : (w.setRuntime tx rt').future = w.future := funext (future_setRuntime hrt he)
  unfold occupancy
  rw [hf]
  rfl

lemma occupancy_register (hw : Wired w) (budget : ℕ) (mapId : MapId) :
    (w.register budget mapId).occupancy = w.occupancy := by
  funext m
  change (w.coordinator.mapSenders.lookup m).bind (w.register budget mapId).future =
    (w.coordinator.mapSenders.lookup m).bind w.future
  rcases hm : w.coordinator.mapSenders.lookup m with _ | tx
  · rfl
  · have hlt := hw.sender_lt m tx hm
    unfold future register
    dsimp only [Option.bind_some]
    rw [FMap.lookup_insert_eq, if_neg (Nat.ne_of_lt hlt)]

/-- **One step**: the coordinator takes a message and the occupancy goes as it says, or
neither changes and the inbox at most grows. -/
theorem wired_step {budget : ℕ} {a : Action} (hw : Wired w) (h : w.step budget a = some w') :
    Wired w' ∧
      ((∃ msg rest, a = .recv ∧ w.inbox = msg :: rest ∧ w'.inbox = rest ∧
          w'.coordinator = w.coordinator.next msg ∧ w'.occupancy = w.occupancy.next msg) ∨
        (w'.coordinator = w.coordinator ∧ w'.occupancy = w.occupancy ∧
          ∃ more, w'.inbox = w.inbox ++ more)) := by
  cases a with
  | register mapId =>
    obtain rfl := Option.some.inj h
    exact ⟨hw.register budget mapId, .inr ⟨rfl, occupancy_register hw budget mapId, _, rfl⟩⟩
  | post msg =>
    obtain ⟨rfl, -⟩ := announced_post h
    exact ⟨hw.post h, .inr ⟨rfl, rfl, _, rfl⟩⟩
  | recv =>
    obtain ⟨hw', msg, rest, hin, hin', hc, ho⟩ := wired_recv hw h
    exact ⟨hw', .inl ⟨msg, rest, rfl, hin, hin', hc, ho⟩⟩
  | route tx =>
    obtain ⟨rt', hb, rfl⟩ := Option.map_eq_some_iff.mp h
    obtain ⟨rt, hrt, hr⟩ := Option.bind_eq_some_iff.mp hb
    have he := MapRuntime.eventual_route hr
    exact ⟨hw.setRuntime hrt he, .inr ⟨rfl, occupancy_setRuntime hrt he, [],
      (List.append_nil _).symm⟩⟩
  | tick tx iter =>
    obtain ⟨rt, hrt, rfl⟩ := Option.map_eq_some_iff.mp h
    have he := MapRuntime.eventual_tick rt iter
    exact ⟨hw.setRuntime hrt he, .inr ⟨rfl, occupancy_setRuntime hrt he, [],
      (List.append_nil _).symm⟩⟩

theorem wired_of_reached {budget : ℕ} (h : (system budget).Reached w) : Wired w :=
  h.invariant Wired (fun _ h0 => Eq.symm h0 ▸ wired_start) fun _ _ _ hw _ hst =>
    (wired_step hw hst).1

/-- Once everything has arrived, the occupancy is who the players are. -/
lemma occupancy_drained (hw : Wired w) (hd : w.Drained) {m : MapId} {tx : ChannelId}
    (hm : w.coordinator.mapSenders.lookup m = some tx) :
    ∃ rt, w.runtimes.lookup tx = some rt ∧
      w.occupancy m = some rt.mapInstance.players.keys := by
  obtain ⟨p, hp⟩ := Option.isSome_iff_exists.mp (hw.sender_isSome m tx hm)
  obtain ⟨rt, hrt, rfl⟩ := Option.map_eq_some_iff.mp hp
  have hmem : tx ∈ w.runtimes.keys :=
    Finmap.mem_keys.mpr (Finmap.mem_of_lookup_eq_some hrt)
  have he := MapRuntime.eventual_drained (hd.2 tx hmem rt hrt)
  refine ⟨rt, hrt, ?_⟩
  unfold occupancy
  rw [hm, Option.bind_some, hp, he]

end WorldRuntime

end HelbreathBackend.MapRuntimes
