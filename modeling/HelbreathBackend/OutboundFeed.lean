import HelbreathBackend.MapRun
import HelbreathBackend.Lib.Window

/-!
The feed of outbound events of the world service.

The tasks of all maps send their events into one channel. The outbound task takes them off, numbers
them, and keeps the last 256 in a ring; whoever asks for the feed of a map gets the end of the ring.
Neither an event nor a record says which map it is of. Here they are tagged with it, and the code
never looks at the tag.
-/

namespace HelbreathBackend.OutboundFeed

open HelbreathBackend.Lib HelbreathBackend.Domain HelbreathBackend.Application
open HelbreathBackend.MapServer HelbreathBackend.MapServer.MapInstance

structure WorldOutboundRecord where
  seq : UInt64
  kind : String
  sessionId : Option SessionId
  attacker : Option Uuid
  defender : Option Uuid
  x : Option Int32
  y : Option Int32
  damage : Option Int32
  text : Option String
  deriving DecidableEq

def outboundToRecord (seq : UInt64) : OutboundEvent → WorldOutboundRecord
  | .text sessionId text => ⟨seq, "text", some sessionId, none, none, none, none, none, some text⟩
  | .position sessionId x y =>
    ⟨seq, "position", some sessionId, none, none, some x, some y, none, none⟩
  | .combatResult attacker defender damage =>
    ⟨seq, "combat_result", none, some attacker, some defender, none, none, some damage, none⟩

/-- Something of a map. -/
structure Tagged (α : Type) where
  /-- history: the map it comes from -/
  origin : MapId
  value : α

/-- The task of a map. -/
structure MapTask where
  mapInstance : MapInstance
  /-- how many of the events of the instance are sent -/
  sent : ℕ

structure WorldService where
  runtimes : FMap MapId MapTask
  outboundRx : List (Tagged OutboundEvent)
  seq : UInt64
  recentOutbound : List (Tagged WorldOutboundRecord)
  /-- history: the events that were sent -/
  emitted : List (Tagged OutboundEvent)

namespace WorldService

variable (w : WorldService)

def setTask (mapId : MapId) (task : MapTask) : WorldService :=
  { w with runtimes := w.runtimes.insert mapId task }

def activate (commandBudget : ℕ) (mapId : MapId) : WorldService :=
  match w.runtimes.lookup mapId with
  | some _ => w
  | none => w.setTask mapId ⟨.new ⟨mapId, commandBudget⟩, 0⟩

/-- The task is aborted, and what it has not sent is lost. -/
def deactivate (mapId : MapId) : WorldService := { w with runtimes := w.runtimes.erase mapId }

/-- A command arrives at the instance. -/
def incoming (mapId : MapId) (command : IncomingCommand) : Option WorldService :=
  (w.runtimes.lookup mapId).map fun task =>
    w.setTask mapId { task with
      mapInstance := { task.mapInstance with rx := task.mapInstance.rx ++ [command] } }

/-- The next tick of a map begins when all events of the last one are sent. -/
def tick (mapId : MapId) (iter : Iteration) : Option WorldService :=
  (w.runtimes.lookup mapId).bind fun task =>
    if task.sent = task.mapInstance.outboundTx.length then
      some (w.setTask mapId { task with mapInstance := task.mapInstance.tick iter })
    else none

/-- A task sends its next event, unless the channel is full. -/
def emit (mapId : MapId) : Option WorldService :=
  (w.runtimes.lookup mapId).bind fun task =>
    (task.mapInstance.outboundTx[task.sent]?).bind fun event =>
      if w.outboundRx.length < 8192 then
        some { w.setTask mapId { task with sent := task.sent + 1 } with
          outboundRx := w.outboundRx ++ [⟨mapId, event⟩]
          emitted := w.emitted ++ [⟨mapId, event⟩] }
      else none

/-- `while guard.len() > capacity { pop_front }` -/
def popFront {α : Type} (capacity : ℕ) : List α → List α
  | [] => []
  | x :: rest => if capacity < (x :: rest).length then popFront capacity rest else x :: rest

/-- One round of the outbound task. -/
def recv : Option WorldService :=
  match w.outboundRx with
  | [] => none
  | event :: rest =>
    let seq := w.seq + 1
    let record := outboundToRecord seq event.value
    some { w with
      outboundRx := rest
      seq := seq
      recentOutbound := popFront 256 (w.recentOutbound ++ [⟨event.origin, record⟩]) }

end WorldService

structure WorldMapOutboundReply where
  ok : Bool
  mapId : MapId
  isActive : Bool
  rows : List WorldOutboundRecord

/-- `query.limit.unwrap_or(20).clamp(1, 200)` -/
def clampLimit (limit : Option ℕ) : ℕ := max 1 (min (limit.getD 20) 200)

/-- The rows of a reply, with the maps they come from. -/
def collected (w : WorldService) (limit : Option ℕ) : List (Tagged WorldOutboundRecord) :=
  (w.recentOutbound.reverse.take (clampLimit limit)).reverse

def worldMapOutbound (w : WorldService) (mapId : MapId) (limit : Option ℕ) :
    WorldMapOutboundReply :=
  let isActive := (w.runtimes.lookup mapId).isSome
  ⟨isActive, mapId, isActive, (collected w limit).map (·.value)⟩

inductive FeedAction
  | activate (mapId : MapId)
  | deactivate (mapId : MapId)
  | incoming (mapId : MapId) (command : IncomingCommand)
  | tick (mapId : MapId) (iter : Iteration)
  | emit (mapId : MapId)
  | recv

def feedSystem (commandBudget : ℕ) : System WorldService FeedAction where
  init w := w = ⟨∅, [], 0, [], []⟩
  step w
    | .activate mapId => some (w.activate commandBudget mapId)
    | .deactivate mapId => some (w.deactivate mapId)
    | .incoming mapId command => w.incoming mapId command
    | .tick mapId iter => w.tick mapId iter
    | .emit mapId => w.emit mapId
    | .recv => w.recv

/-! ### The ring -/

lemma popFront_eq {α : Type} (capacity : ℕ) (l : List α) :
    WorldService.popFront capacity l = l.rtake capacity := by
  induction l with
  | nil => rw [List.rtake_nil, WorldService.popFront]
  | cons x rest ih =>
    unfold WorldService.popFront
    split
    · next h =>
      rw [ih, List.rtake, List.rtake]
      have hlen : (x :: rest).length - capacity = (rest.length - capacity) + 1 := by
        rw [List.length_cons] at h ⊢
        omega
      rw [hlen, List.drop_succ_cons]
    · next h =>
      rw [List.rtake, Nat.sub_eq_zero_of_le (by omega), List.drop_zero]

/-- The records of events, numbered from one on. -/
def numbered (events : List (Tagged OutboundEvent)) : List (Tagged WorldOutboundRecord) :=
  events.mapIdx fun i event =>
    ⟨event.origin, outboundToRecord (UInt64.ofNat (i + 1)) event.value⟩

/-- What the ring and the channel have of the events that were sent. -/
structure Fed (w : WorldService) (received : List (Tagged OutboundEvent)) : Prop where
  emitted : w.emitted = received ++ w.outboundRx
  seq : w.seq = UInt64.ofNat received.length
  ring : w.recentOutbound = (numbered received).foldl (slide 256) []

variable {w w' : WorldService} {received : List (Tagged OutboundEvent)}

lemma Fed.recv (h : Fed w received) (hst : w.recv = some w') :
    ∃ event, Fed w' (received ++ [event]) := by
  unfold WorldService.recv at hst
  split at hst
  · cases hst
  · next event rest hrx =>
    obtain rfl := Option.some.inj hst
    have hseq : w.seq + 1 = UInt64.ofNat (received.length + 1) := by
      rw [h.seq, UInt64.ofNat_add]
      rfl
    refine ⟨event, ⟨?_, ?_, ?_⟩⟩
    · rw [h.emitted, hrx, List.append_assoc]
      rfl
    · rw [List.length_append]
      exact hseq
    · dsimp only
      rw [popFront_eq, h.ring, numbered, numbered, List.mapIdx_concat, List.foldl_append, hseq,
        List.foldl_cons, List.foldl_nil, slide]

variable {commandBudget : ℕ}

/-- **The feed**: every event that was sent is in the channel or was received, and the ring has the
last 256 received. -/
theorem fed_of_reached (h : (feedSystem commandBudget).Reached w) : ∃ received, Fed w received := by
  refine h.invariant (fun w => ∃ received, Fed w received) ?_ ?_
  · rintro w rfl
    exact ⟨[], rfl, rfl, rfl⟩
  · rintro w a w' ⟨received, hfed⟩ - hst
    cases a with
    | activate mapId =>
      obtain rfl := Option.some.inj hst
      unfold WorldService.activate
      split
      · exact ⟨received, hfed⟩
      · exact ⟨received, hfed.emitted, hfed.seq, hfed.ring⟩
    | deactivate mapId =>
      obtain rfl := Option.some.inj hst
      exact ⟨received, hfed.emitted, hfed.seq, hfed.ring⟩
    | incoming mapId command =>
      obtain ⟨task, -, rfl⟩ := Option.map_eq_some_iff.mp hst
      exact ⟨received, hfed.emitted, hfed.seq, hfed.ring⟩
    | tick mapId iter =>
      obtain ⟨task, -, htick⟩ := Option.bind_eq_some_iff.mp hst
      split at htick
      · obtain rfl := Option.some.inj htick
        exact ⟨received, hfed.emitted, hfed.seq, hfed.ring⟩
      · cases htick
    | emit mapId =>
      obtain ⟨task, -, hevent⟩ := Option.bind_eq_some_iff.mp hst
      obtain ⟨event, -, hemit⟩ := Option.bind_eq_some_iff.mp hevent
      split at hemit
      · obtain rfl := Option.some.inj hemit
        refine ⟨received, ?_, hfed.seq, hfed.ring⟩
        show w.emitted ++ [_] = received ++ (w.outboundRx ++ [_])
        rw [hfed.emitted, List.append_assoc]
      · cases hemit
    | recv =>
      obtain ⟨event, hfed'⟩ := hfed.recv hst
      exact ⟨_, hfed'⟩

/-- **The rows**: they are the end of all that was received, whatever map was asked for. -/
lemma collected_eq (h : Fed w received) (limit : Option ℕ) :
    collected w limit = (numbered received).rtake (clampLimit limit) := by
  have hle : min (clampLimit limit) 256 = clampLimit limit := by
    unfold clampLimit
    omega
  rw [collected, ← List.rtake_eq_reverse_take_reverse, h.ring, foldl_slide, rtake_rtake, hle]

/-! ### What is emitted -/

/-- The events that a map has sent. -/
def eventsOf (mapId : MapId) (emitted : List (Tagged OutboundEvent)) : List OutboundEvent :=
  (emitted.filter fun e => e.origin = mapId).map (·.value)

/-- The instance of a task is one of a run, and the task has sent the first of its events, in their
order, after what tasks before it have sent. -/
structure Originates (mapId : MapId) (commandBudget : ℕ) (emitted : List (Tagged OutboundEvent))
    (task : MapTask) : Prop where
  reached : (mapSystem ⟨mapId, commandBudget⟩).Reached task.mapInstance
  sent_le : task.sent ≤ task.mapInstance.outboundTx.length
  events : ∃ before, eventsOf mapId emitted = before ++ task.mapInstance.outboundTx.take task.sent

def AllOriginate (commandBudget : ℕ) (w : WorldService) : Prop :=
  ∀ mapId task, w.runtimes.lookup mapId = some task →
    Originates mapId commandBudget w.emitted task

lemma AllOriginate.setTask (h : AllOriginate commandBudget w) {mapId : MapId} {task : MapTask}
    (htask : Originates mapId commandBudget w.emitted task) :
    AllOriginate commandBudget (w.setTask mapId task) := by
  intro mapId' task' hlookup
  change (w.runtimes.insert mapId task).lookup mapId' = some task' at hlookup
  rcases FMap.lookup_insert_cases hlookup with ⟨he, rfl⟩ | ⟨-, hlookup⟩
  · rw [he]
    exact htask
  · exact h mapId' task' hlookup

lemma Originates.tick {mapId : MapId} {emitted : List (Tagged OutboundEvent)} {task : MapTask}
    (h : Originates mapId commandBudget emitted task)
    (hsent : task.sent = task.mapInstance.outboundTx.length) (iter : Iteration) :
    Originates mapId commandBudget emitted
      { task with mapInstance := task.mapInstance.tick iter } := by
  obtain ⟨events, hevents⟩ := ((sound_of_reached h.reached).tick_extends iter).1
  obtain ⟨before, hbefore⟩ := h.events
  refine ⟨h.reached.step (a := .tick iter) trivial rfl, ?_, before, ?_⟩
  · dsimp only
    rw [← hevents, List.length_append, hsent]
    omega
  · dsimp only
    rw [hbefore, ← hevents, List.take_append_of_le_length h.sent_le]

lemma AllOriginate.emit (h : AllOriginate commandBudget w) {mapId : MapId}
    (hst : w.emit mapId = some w') : AllOriginate commandBudget w' := by
  obtain ⟨task, htask, hevent⟩ := Option.bind_eq_some_iff.mp hst
  obtain ⟨event, hnext, hemit⟩ := Option.bind_eq_some_iff.mp hevent
  split at hemit
  · obtain rfl := Option.some.inj hemit
    intro mapId' task' hlookup
    have hevents : eventsOf mapId' (w.emitted ++ [⟨mapId, event⟩]) =
        eventsOf mapId' w.emitted ++ if mapId' = mapId then [event] else [] := by
      unfold eventsOf
      rw [List.filter_append, List.map_append]
      congr 1
      by_cases he : mapId' = mapId
      · rw [if_pos he, List.filter_cons_of_pos (by simp [he])]
        rfl
      · rw [if_neg he, List.filter_cons_of_neg (by simpa using Ne.symm he)]
        rfl
    change (w.runtimes.insert mapId { task with sent := task.sent + 1 }).lookup mapId' =
      some task' at hlookup
    show Originates mapId' commandBudget (w.emitted ++ [⟨mapId, event⟩]) task'
    rcases FMap.lookup_insert_cases hlookup with ⟨he, rfl⟩ | ⟨hne, hlookup⟩
    · have hold := h mapId task htask
      obtain ⟨before, hbefore⟩ := hold.events
      obtain ⟨hlt, hget⟩ := List.getElem?_eq_some_iff.mp hnext
      rw [if_pos he] at hevents
      subst he
      refine ⟨hold.reached, hlt, before, ?_⟩
      dsimp only
      rw [hevents, hbefore, List.append_assoc, List.take_add_one, hnext]
      rfl
    · have hold := h mapId' task' hlookup
      rw [if_neg hne, List.append_nil] at hevents
      obtain ⟨before, hbefore⟩ := hold.events
      exact ⟨hold.reached, hold.sent_le, before, hevents.trans hbefore⟩
  · cases hemit

/-- **Where events come from**: what a map has sent are events of its instances, in their order. -/
theorem allOriginate_of_reached (h : (feedSystem commandBudget).Reached w) :
    AllOriginate commandBudget w := by
  refine h.invariant (AllOriginate commandBudget) ?_ ?_
  · rintro w rfl mapId task hlookup
    cases hlookup
  · rintro w a w' hw - hst
    cases a with
    | activate mapId =>
      obtain rfl := Option.some.inj hst
      unfold WorldService.activate
      split
      · exact hw
      · exact hw.setTask ⟨.init rfl, Nat.zero_le _, eventsOf mapId w.emitted,
          (List.append_nil _).symm⟩
    | deactivate mapId =>
      obtain rfl := Option.some.inj hst
      intro mapId' task hlookup
      change (w.runtimes.erase mapId).lookup mapId' = some task at hlookup
      obtain ⟨-, hlookup⟩ := FMap.lookup_of_erase hlookup
      exact hw mapId' task hlookup
    | incoming mapId command =>
      obtain ⟨task, htask, rfl⟩ := Option.map_eq_some_iff.mp hst
      have hold := hw mapId task htask
      exact hw.setTask ⟨hold.reached.step (a := .incoming command) trivial rfl, hold.sent_le,
        hold.events⟩
    | tick mapId iter =>
      obtain ⟨task, htask, htick⟩ := Option.bind_eq_some_iff.mp hst
      split at htick
      · next hsent =>
        obtain rfl := Option.some.inj htick
        exact hw.setTask ((hw mapId task htask).tick hsent iter)
      · cases htick
    | emit mapId => exact hw.emit hst
    | recv =>
      change w.recv = some w' at hst
      unfold WorldService.recv at hst
      split at hst
      · cases hst
      · obtain rfl := Option.some.inj hst
        exact hw

/-! ### Whose events the rows show -/

/-- A record without its number. -/
def content (record : WorldOutboundRecord) : WorldOutboundRecord := { record with seq := 0 }

/-- The rows are the last events that the map has sent, in their order, and no others. -/
def ShowsMap (w : WorldService) (mapId : MapId) (limit : Option ℕ) : Prop :=
  (collected w limit).map (fun row => (row.origin, content row.value)) =
    ((w.emitted.filter fun e => e.origin = mapId).rtake (clampLimit limit)).map fun e =>
      (e.origin, outboundToRecord 0 e.value)

lemma numbered_contents (events : List (Tagged OutboundEvent)) :
    (numbered events).map (fun row => (row.origin, content row.value)) =
      events.map fun e => (e.origin, outboundToRecord 0 e.value) := by
  induction events using List.reverseRecOn with
  | nil => rfl
  | append_singleton events e ih =>
    have hlast : ∀ seq, content (outboundToRecord seq e.value) = outboundToRecord 0 e.value := by
      intro seq
      cases e.value <;> rfl
    rw [numbered, List.mapIdx_concat, List.map_append, List.map_append, ← ih]
    simp only [List.map_cons, List.map_nil, hlast]
    rfl

lemma collected_contents (h : (feedSystem commandBudget).Reached w) (hdrained : w.outboundRx = [])
    (limit : Option ℕ) :
    (collected w limit).map (fun row => (row.origin, content row.value)) =
      (w.emitted.rtake (clampLimit limit)).map fun e => (e.origin, outboundToRecord 0 e.value) := by
  obtain ⟨received, hfed⟩ := fed_of_reached h
  have hall : w.emitted = received := by
    rw [hfed.emitted, hdrained, List.append_nil]
  rw [collected_eq hfed, ← rtake_map, numbered_contents, rtake_map, hall]

/-- **Whose events the feed of a map shows.** In every state that the maps reach, however their
events interleave, once the channel is empty the rows for a map are the last events of that map
exactly when none of the last events that were sent, as many as the limit, is of another map.
Where that is so in two runs in which the map has sent the same, the rows are the same but for
their numbers. -/
theorem showsMap_iff (h : (feedSystem commandBudget).Reached w) (hdrained : w.outboundRx = [])
    (mapId : MapId) (limit : Option ℕ) :
    (ShowsMap w mapId limit ↔ ∀ e ∈ w.emitted.rtake (clampLimit limit), e.origin = mapId) ∧
    ∀ w', (feedSystem commandBudget).Reached w' → w'.outboundRx = [] →
      eventsOf mapId w.emitted = eventsOf mapId w'.emitted →
      (∀ e ∈ w.emitted.rtake (clampLimit limit), e.origin = mapId) →
      (∀ e ∈ w'.emitted.rtake (clampLimit limit), e.origin = mapId) →
      (worldMapOutbound w mapId limit).rows.map content =
        (worldMapOutbound w' mapId limit).rows.map content := by
  have hwindow : ∀ emitted : List (Tagged OutboundEvent),
      emitted.rtake (clampLimit limit) =
          (emitted.filter fun e => e.origin = mapId).rtake (clampLimit limit) ↔
        ∀ e ∈ emitted.rtake (clampLimit limit), e.origin = mapId := by
    intro emitted
    rw [rtake_filter_iff]
    simp only [decide_eq_true_eq]
  have hrows : ∀ {w}, (feedSystem commandBudget).Reached w → w.outboundRx = [] →
      (∀ e ∈ w.emitted.rtake (clampLimit limit), e.origin = mapId) →
      (worldMapOutbound w mapId limit).rows.map content =
        ((eventsOf mapId w.emitted).rtake (clampLimit limit)).map (outboundToRecord 0) := by
    intro w h hdrained hall
    have hcontents := congrArg (List.map Prod.snd) (collected_contents h hdrained limit)
    rw [List.map_map, List.map_map, (hwindow w.emitted).mpr hall] at hcontents
    rw [eventsOf, rtake_map, List.map_map, worldMapOutbound, List.map_map]
    exact hcontents
  refine ⟨?_, fun w' h' hdrained' hsame hall hall' => ?_⟩
  · rw [ShowsMap, collected_contents h hdrained]
    constructor
    · intro heq e he
      have hmem := List.mem_map_of_mem (f := fun e : Tagged OutboundEvent =>
        (e.origin, outboundToRecord 0 e.value)) he
      rw [heq] at hmem
      obtain ⟨e', he', hpair⟩ := List.mem_map.mp hmem
      have horigin := (List.mem_filter.mp (List.mem_of_mem_drop he')).2
      rw [decide_eq_true_eq] at horigin
      rw [← horigin, (Prod.mk.inj hpair).1]
    · intro hall
      rw [(hwindow w.emitted).mpr hall]
  · rw [hrows h hdrained hall, hrows h' hdrained' hall', hsame]

lemma exists_received (h : (feedSystem commandBudget).Reached w) (hidle : w.outboundRx = [])
    {mapId : MapId} {task : MapTask} (htask : w.runtimes.lookup mapId = some task)
    (hsent : task.sent = task.mapInstance.outboundTx.length)
    (htells : task.mapInstance.outboundTx.length <
      task.mapInstance.begun.inputStage.outboundTx.length) :
    ∃ w' event, (feedSystem commandBudget).Reached w' ∧ w'.outboundRx = [] ∧
      w'.emitted = w.emitted ++ [⟨mapId, event⟩] ∧
      ∀ m, (w.runtimes.lookup m).isSome → (w'.runtimes.lookup m).isSome := by
  obtain ⟨resolved, hticked⟩ := processTick_ticked task.mapInstance.begun default
  let ticked : MapTask := { task with mapInstance := task.mapInstance.tick default }
  have hlt : ticked.sent < ticked.mapInstance.outboundTx.length := by
    have heq : ticked.mapInstance = task.mapInstance.begun.processTick default := rfl
    rw [heq, hticked.eq]
    simp only [List.length_append]
    dsimp only [ticked]
    omega
  let w₁ : WorldService := w.setTask mapId ticked
  have htick : w.tick mapId default = some w₁ := by
    unfold WorldService.tick
    rw [htask, Option.bind_some, if_pos hsent]
  let event := ticked.mapInstance.outboundTx[ticked.sent]
  let w₂ : WorldService := { w₁.setTask mapId { ticked with sent := ticked.sent + 1 } with
    outboundRx := w₁.outboundRx ++ [⟨mapId, event⟩]
    emitted := w₁.emitted ++ [⟨mapId, event⟩] }
  have hemit : w₁.emit mapId = some w₂ := by
    have hlookup : w₁.runtimes.lookup mapId = some ticked := Finmap.lookup_insert _
    have hnext : ticked.mapInstance.outboundTx[ticked.sent]? = some event :=
      List.getElem?_eq_getElem hlt
    have hroom : w₁.outboundRx.length < 8192 := by
      have hempty : w₁.outboundRx = [] := hidle
      rw [hempty]
      decide
    unfold WorldService.emit
    rw [hlookup, Option.bind_some, hnext, Option.bind_some, if_pos hroom]
  have hrx : w₂.outboundRx = [⟨mapId, event⟩] := by
    show w.outboundRx ++ [_] = _
    rw [hidle]
    rfl
  obtain ⟨w₃, hrecv, hempty, hemitted, hruntimes⟩ : ∃ w₃, w₂.recv = some w₃ ∧
      w₃.outboundRx = [] ∧ w₃.emitted = w₂.emitted ∧ w₃.runtimes = w₂.runtimes := by
    unfold WorldService.recv
    rw [hrx]
    exact ⟨_, rfl, rfl, rfl, rfl⟩
  have h₁ : (feedSystem commandBudget).Reached w₁ := h.step (a := .tick mapId default) trivial htick
  have h₂ : (feedSystem commandBudget).Reached w₂ := h₁.step (a := .emit mapId) trivial hemit
  have h₃ : (feedSystem commandBudget).Reached w₃ := h₂.step (a := .recv) trivial hrecv
  refine ⟨w₃, event, h₃, hempty, hemitted, fun m hm => ?_⟩
  rw [hruntimes]
  show (((w.runtimes.insert mapId ticked).insert mapId _).lookup m).isSome
  rw [FMap.lookup_insert_eq, FMap.lookup_insert_eq]
  split
  · rfl
  · exact hm

lemma exists_talking (mapId : MapId) (hmap : mapId = 1 ∨ mapId = 2) :
    ∃ w event, (feedSystem 16).Reached w ∧ w.outboundRx = [] ∧ w.emitted = [⟨mapId, event⟩] ∧
      (w.runtimes.lookup 1).isSome := by
  let shape : WorldService → Bool := fun w =>
    w.outboundRx.isEmpty && w.emitted.isEmpty && (w.runtimes.lookup 1).isSome &&
      (w.runtimes.lookup mapId).any fun task =>
        decide (task.sent = task.mapInstance.outboundTx.length) &&
          decide (task.mapInstance.outboundTx.length <
            task.mapInstance.begun.inputStage.outboundTx.length)
  obtain ⟨w, hw, hshape⟩ := (feedSystem 16).exists_reachedBy (fun _ _ => True)
    (s := ⟨∅, [], 0, [], []⟩) rfl
    [.activate 1, .activate 2, .incoming mapId ⟨.fill 1, none, .chat "hello"⟩] shape (by
      rcases hmap with rfl | rfl <;> decide +kernel)
  simp only [shape, Bool.and_eq_true, List.isEmpty_iff, Option.any_eq_true,
    decide_eq_true_eq] at hshape
  obtain ⟨⟨⟨hidle, hnone⟩, hactive⟩, task, htask, hsent, htells⟩ := hshape
  obtain ⟨w', event, hw', hidle', hemitted, hkept⟩ := exists_received hw hidle htask hsent htells
  rw [hnone, List.nil_append] at hemitted
  exact ⟨w', event, hw', hidle', hemitted, hkept 1 hactive⟩

/-- A session talks on the first map, and the feed of that map shows it. -/
theorem showsMap_iff_talking : ∃ w, (feedSystem 16).Reached w ∧ ShowsMap w 1 none ∧
    w.emitted.length = 1 := by
  obtain ⟨w, event, hw, hidle, hemitted, -⟩ := exists_talking 1 (.inl rfl)
  refine ⟨w, hw, ((showsMap_iff hw hidle 1 none).1).mpr fun e he => ?_, by rw [hemitted]; rfl⟩
  have hmem := List.mem_of_mem_drop he
  rw [hemitted, List.mem_singleton] at hmem
  rw [hmem]

/-- A session talks on the second map, and the feed of the first shows it. -/
theorem feed_shows_other_map : ∃ w, (feedSystem 16).Reached w ∧ w.outboundRx = [] ∧
    (w.runtimes.lookup 1).isSome ∧ eventsOf 1 w.emitted = [] ∧
    (worldMapOutbound w 1 none).rows ≠ [] ∧ ¬ ShowsMap w 1 none := by
  obtain ⟨w, event, hw, hidle, hemitted, hactive⟩ := exists_talking 2 (.inr rfl)
  have hcontents := collected_contents hw hidle none
  rw [hemitted] at hcontents
  have hrows : collected w none ≠ [] := by
    intro hempty
    rw [hempty] at hcontents
    cases hcontents
  have hnone : (w.emitted.filter fun e => e.origin = 1) = [] := by
    rw [hemitted]
    rfl
  refine ⟨w, hw, hidle, hactive, ?_, ?_, fun hshows => hrows ?_⟩
  · rw [eventsOf, hnone]
    rfl
  · rw [worldMapOutbound, ne_eq, List.map_eq_nil_iff]
    exact hrows
  · rw [ShowsMap, hnone, List.rtake_nil, List.map_nil, List.map_eq_nil_iff] at hshows
    exact hshows

end HelbreathBackend.OutboundFeed
