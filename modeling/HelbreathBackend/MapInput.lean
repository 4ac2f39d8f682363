import HelbreathBackend.MapServer
import HelbreathBackend.Lib.Interleaving

/-!
The input of a tick, session by session.

A command touches the entry of its own session and puts work into the queues of the instance;
what it puts there depends on that entry alone. So the input of a tick is one machine for each
session, and the queues hold what the machines put out.
-/

namespace HelbreathBackend.MapServer

open HelbreathBackend.Lib HelbreathBackend.Domain HelbreathBackend.Application

/-- What a command of a session puts out. -/
structure InputEffect where
  outbound : List OutboundEvent := []
  persist : List PersistOp := []
  attacks : List SessionId := []
  casts : List (Int32 × Option SessionId) := []
  inventory : List (CharacterId × String) := []
  scheduled : List OutboundEvent := []

/-- The entry of a session after one of its commands, and what the command puts out. -/
def sessionStep (mapId : MapId) (entry : Option PlayerState) (incoming : IncomingCommand) :
    Option PlayerState × InputEffect :=
  let s := incoming.sessionId
  let changing (reason : String) : InputEffect :=
    { inventory := [((entry.map (·.characterId)).getD s, reason)] }
  match incoming.command with
  | .enterWorld =>
    let characterId := incoming.characterId.getD s
    (some { entry.getD ⟨characterId, 100, 100, 100, 100⟩ with characterId := characterId }, {})
  | .move x y _ =>
    (entry.map fun player => { player with x := x, y := y },
      { persist := (entry.map fun player =>
          PersistOp.saveCharacterPosition player.characterId mapId x y).toList })
  | .chat message => (entry, { outbound := [.text s message] })
  | .whisper toCharacter message =>
    (entry, { outbound := [.text s ("(whisper->" ++ toCharacter ++ ") " ++ message)] })
  | .guildChat message => (entry, { outbound := [.text s ("[guild] " ++ message)] })
  | .attack targetId => (entry, { attacks := [targetId] })
  | .castSkill skillId targetId => (entry, { casts := [(skillId, targetId)] })
  | .pickupItem _ => (entry, changing "pickup_item")
  | .dropItem slot quantity =>
    (entry, changing
      ("drop_item(slot=" ++ toString slot.toInt ++ ",qty=" ++ toString quantity.toInt ++ ")"))
  | .useItem slot => (entry, changing ("use_item(slot=" ++ toString slot.toInt ++ ")"))
  | .npcInteraction npcId =>
    (entry, { scheduled := [.text s ("npc_interaction:" ++ npcId.format)] })
  | .heartbeat => (entry, { outbound := [.text s "heartbeat_ack"] })
  | .logout => (none, {})
  | .login _ | .characterList | .characterCreate _ | .characterDelete _ | .characterSelect _ =>
    (entry, {})

namespace MapInstance

/-- The entry of a session. -/
def entry (m : MapInstance) (s : SessionId) : Option PlayerState := m.players.lookup s

/-- Events put down for a tick, in order. -/
def scheduleAll (scheduled : FMap UInt64 (List ScheduledEvent)) (eventTick : UInt64)
    (events : List OutboundEvent) : FMap UInt64 (List ScheduledEvent) :=
  events.foldl (fun f event =>
    f.insert eventTick ((f.lookup eventTick).getD [] ++ [⟨eventTick, event⟩])) scheduled

/-- The instance `m'` is `m` with the given entries and with the given effects in its queues. -/
structure Took (m m' : MapInstance) (entries : SessionId → Option PlayerState)
    (effects : List (SessionId × InputEffect)) : Prop where
  config : m'.config = m.config
  tickIndex : m'.tickIndex = m.tickIndex
  entries : m'.entry = entries
  outboundTx : m'.outboundTx = m.outboundTx ++ effects.flatMap fun e => e.2.outbound
  persistTx : m'.persistTx = m.persistTx ++ effects.flatMap fun e => e.2.persist
  pendingAttacks : m'.pendingAttacks =
    m.pendingAttacks ++ effects.flatMap fun e => e.2.attacks.map (e.1, ·)
  pendingSkillCasts : m'.pendingSkillCasts =
    m.pendingSkillCasts ++ effects.flatMap fun e => e.2.casts.map (e.1, ·)
  pendingInventoryChanges : m'.pendingInventoryChanges =
    m.pendingInventoryChanges ++ effects.flatMap fun e => e.2.inventory
  scheduled : m'.scheduled =
    scheduleAll m.scheduled m.nextTick (effects.flatMap fun e => e.2.scheduled)

variable {m m' m'' : MapInstance}

lemma Took.refl (m : MapInstance) : Took m m m.entry [] := by
  constructor <;> simp [scheduleAll]

lemma Took.trans {g g' : SessionId → Option PlayerState} {es es' : List (SessionId × InputEffect)}
    (h : Took m m' g es) (h' : Took m' m'' g' es') : Took m m'' g' (es ++ es') where
  config := h'.config.trans h.config
  tickIndex := h'.tickIndex.trans h.tickIndex
  entries := h'.entries
  outboundTx := by rw [h'.outboundTx, h.outboundTx, List.flatMap_append, List.append_assoc]
  persistTx := by rw [h'.persistTx, h.persistTx, List.flatMap_append, List.append_assoc]
  pendingAttacks := by
    rw [h'.pendingAttacks, h.pendingAttacks, List.flatMap_append, List.append_assoc]
  pendingSkillCasts := by
    rw [h'.pendingSkillCasts, h.pendingSkillCasts, List.flatMap_append, List.append_assoc]
  pendingInventoryChanges := by
    rw [h'.pendingInventoryChanges, h.pendingInventoryChanges, List.flatMap_append,
      List.append_assoc]
  scheduled := by
    have hnext : m'.nextTick = m.nextTick := by rw [nextTick, h.tickIndex, nextTick]
    rw [h'.scheduled, h.scheduled, hnext, List.flatMap_append, scheduleAll, scheduleAll,
      scheduleAll, List.foldl_append]

lemma entry_insert (players : Players) (s : SessionId) (player : PlayerState) :
    (fun x => (players.insert s player).lookup x) =
      Function.update (fun x => players.lookup x) s (some player) := by
  funext x
  rw [FMap.lookup_insert_eq, Function.update_apply]

lemma entry_erase (players : Players) (s : SessionId) :
    (fun x => (players.erase s).lookup x) =
      Function.update (fun x => players.lookup x) s none := by
  funext x
  rw [FMap.lookup_erase_eq, Function.update_apply]

/-- **One command** is one step of the machine of its session. -/
lemma took_inputCommand (m : MapInstance) (incoming : IncomingCommand) :
    let step := sessionStep m.config.mapId (m.entry incoming.sessionId) incoming
    Took m (m.inputCommand incoming) (Function.update m.entry incoming.sessionId step.1)
      [(incoming.sessionId, step.2)] := by
  obtain ⟨s, characterId, command⟩ := incoming
  have hkeep : Function.update m.entry s (m.entry s) = m.entry := Function.update_eq_self s m.entry
  cases command
  case enterWorld =>
    refine ⟨rfl, rfl, ?_, ?_, ?_, ?_, ?_, ?_, rfl⟩
    · exact entry_insert m.players s _
    all_goals simp [inputCommand, sessionStep, enter, setGauge]
  case logout =>
    refine ⟨rfl, rfl, ?_, ?_, ?_, ?_, ?_, ?_, rfl⟩
    · exact entry_erase m.players s
    all_goals simp [inputCommand, sessionStep, setGauge]
  case move x y run =>
    rcases h : m.players.lookup s with _ | player
    · have he : m.entry s = none := h
      have hin : m.inputCommand ⟨s, characterId, .move x y run⟩ = m := by
        simp only [inputCommand, h]
      rw [hin]
      dsimp only
      rw [he] at hkeep ⊢
      simp only [sessionStep, Option.map_none, Option.toList_none]
      rw [hkeep]
      constructor <;> simp [scheduleAll]
    · have he : m.entry s = some player := h
      have hin : m.inputCommand ⟨s, characterId, .move x y run⟩ =
          persist { m with players := m.players.insert s { player with x := x, y := y } }
            (.saveCharacterPosition player.characterId m.config.mapId x y) := by
        simp only [inputCommand, h]
      rw [hin]
      dsimp only
      rw [he]
      refine ⟨rfl, rfl, ?_, ?_, ?_, ?_, ?_, ?_, rfl⟩
      · exact entry_insert m.players s _
      all_goals simp [sessionStep, persist]
  all_goals
    simp only [sessionStep, hkeep]
    refine ⟨rfl, rfl, rfl, ?_, ?_, ?_, ?_, ?_, ?_⟩
    all_goals simp [inputCommand, send, schedule, changeInventory, scheduleAll, entry]

lemma lookup_inputCommand (m : MapInstance) (incoming : IncomingCommand) (s : SessionId) :
    (m.inputCommand incoming).players.lookup s =
      if s = incoming.sessionId then
        (sessionStep m.config.mapId (m.players.lookup incoming.sessionId) incoming).1
      else m.players.lookup s := by
  have h := congrFun (took_inputCommand m incoming).entries s
  rw [Function.update_apply] at h
  exact h

/-- **The input of a tick** runs the machine of every session over the session's commands. -/
theorem took_systemInput (m : MapInstance) (commands : List IncomingCommand) :
    Took m (m.systemInput commands)
      (finalAll IncomingCommand.sessionId (sessionStep m.config.mapId) m.entry commands)
      (outputsAll IncomingCommand.sessionId (sessionStep m.config.mapId) m.entry commands) := by
  induction commands generalizing m with
  | nil => exact Took.refl m
  | cons incoming rest ih =>
    have hone := took_inputCommand m incoming
    have hrest := ih (m.inputCommand incoming)
    rw [hone.entries, hone.config] at hrest
    exact hone.trans hrest

end MapInstance

end HelbreathBackend.MapServer
