import HelbreathBackend.Application
import HelbreathBackend.Lib.FiniteMap

/-!
The instance of a map: a task that owns the players on the map and works in ticks.

A tick takes at most `command_budget` commands off the incoming queue and runs the systems
of the source over them, in the order of the source. What the instance sends on its
outbound and persistence channels, and what it sets the gauge of players to, is kept as the
lists of what it has sent so far.

The players are a hash map, and a hash map is iterated in an order of its own: a tick is
given that order.
-/

namespace HelbreathBackend.MapServer

open HelbreathBackend.Lib HelbreathBackend.Domain HelbreathBackend.Application

structure MapConfig where
  mapId : MapId
  commandBudget : ℕ

structure IncomingCommand where
  sessionId : SessionId
  characterId : Option CharacterId
  command : ClientCommand
  deriving DecidableEq

inductive OutboundEvent
  | text (sessionId : SessionId) (text : String)
  | position (sessionId : SessionId) (x y : Int32)
  | combatResult (attacker defender : Uuid) (damage : Int32)
  deriving DecidableEq

inductive PersistOp
  | saveCharacterPosition (characterId : CharacterId) (mapId : MapId) (x y : Int32)
  | saveInventoryChange (characterId : CharacterId) (mapId : MapId) (reason : String)
  | saveCombatLog (attacker defender : Uuid) (mapId : MapId) (damage : Int32)
  deriving DecidableEq

structure PlayerState where
  characterId : CharacterId
  x : Int32
  y : Int32
  hp : Int32
  mp : Int32
  deriving DecidableEq

structure ScheduledEvent where
  runAtTick : UInt64
  event : OutboundEvent
  deriving DecidableEq

abbrev Players := FMap SessionId PlayerState

/-- An order in which the entries of a hash map are iterated. -/
structure Iteration where
  order : Players → List (SessionId × PlayerState)
  complete : ∀ players, (order players : Multiset (SessionId × PlayerState)) =
    players.entries.map fun e => (e.1, e.2)

noncomputable instance : Inhabited Iteration :=
  ⟨fun players => (players.entries.map fun e => (e.1, e.2)).toList,
    fun _ => Multiset.coe_toList _⟩

structure MapInstance where
  config : MapConfig
  rx : List IncomingCommand
  outboundTx : List OutboundEvent
  persistTx : List PersistOp
  playersOnlineTotal : List ℕ
  tickIndex : UInt64
  players : Players
  pendingCommands : List IncomingCommand
  scheduled : FMap UInt64 (List ScheduledEvent)
  pendingAttacks : List (SessionId × SessionId)
  pendingSkillCasts : List (SessionId × Int32 × Option SessionId)
  pendingInventoryChanges : List (CharacterId × String)

namespace MapInstance

def new (config : MapConfig) : MapInstance where
  config := config
  rx := []
  outboundTx := []
  persistTx := []
  playersOnlineTotal := []
  tickIndex := 0
  players := ∅
  pendingCommands := []
  scheduled := ∅
  pendingAttacks := []
  pendingSkillCasts := []
  pendingInventoryChanges := []

variable (m : MapInstance)

def send (event : OutboundEvent) : MapInstance := { m with outboundTx := m.outboundTx ++ [event] }

def persist (op : PersistOp) : MapInstance := { m with persistTx := m.persistTx ++ [op] }

/-- `MetricsRegistry::set(&METRICS.players_online_total, ..)`. -/
def setGauge : MapInstance :=
  { m with playersOnlineTotal := m.playersOnlineTotal ++ [m.players.keys.card] }

/-! ### The incoming queue and the scheduled events -/

/-- The loop of `drain_incoming_queue`, with the part of the budget that is left. -/
def drainLoop : ℕ → MapInstance → MapInstance
  | 0, m => m
  | budget + 1, m =>
    match m.rx with
    | cmd :: rest =>
      drainLoop budget { m with rx := rest, pendingCommands := m.pendingCommands ++ [cmd] }
    | [] => m

def drainIncomingQueue : MapInstance := drainLoop m.config.commandBudget m

def processScheduledEvents : MapInstance :=
  match m.scheduled.lookup m.tickIndex with
  | some events =>
    { m with
      scheduled := m.scheduled.erase m.tickIndex
      outboundTx := m.outboundTx ++ events.map (·.event) }
  | none => m

/-! ### Input -/

/-- `players.entry(session).or_insert(..)`, then the character of the entry is set. -/
def enter (incoming : IncomingCommand) : MapInstance :=
  let characterId := incoming.characterId.getD incoming.sessionId
  let player := (m.players.lookup incoming.sessionId).getD ⟨characterId, 100, 100, 100, 100⟩
  setGauge { m with
    players := m.players.insert incoming.sessionId { player with characterId := characterId } }

def changeInventory (incoming : IncomingCommand) (reason : String) : MapInstance :=
  let characterId :=
    ((m.players.lookup incoming.sessionId).map (·.characterId)).getD incoming.sessionId
  { m with pendingInventoryChanges := m.pendingInventoryChanges ++ [(characterId, reason)] }

/-- `saturating_add(1)`. -/
def nextTick : UInt64 := if m.tickIndex.toNat = 2 ^ 64 - 1 then m.tickIndex else m.tickIndex + 1

def schedule (eventTick : UInt64) (event : OutboundEvent) : MapInstance :=
  { m with
    scheduled := m.scheduled.insert eventTick
      ((m.scheduled.lookup eventTick).getD [] ++ [⟨eventTick, event⟩]) }

/-- One round of the loop of `system_input`. -/
def inputCommand (incoming : IncomingCommand) : MapInstance :=
  match incoming.command with
  | .enterWorld => m.enter incoming
  | .move x y _ =>
    match m.players.lookup incoming.sessionId with
    | some player =>
      persist
        { m with players := m.players.insert incoming.sessionId { player with x := x, y := y } }
        (.saveCharacterPosition player.characterId m.config.mapId x y)
    | none => m
  | .chat message => m.send (.text incoming.sessionId message)
  | .whisper toCharacter message =>
    m.send (.text incoming.sessionId ("(whisper->" ++ toCharacter ++ ") " ++ message))
  | .guildChat message => m.send (.text incoming.sessionId ("[guild] " ++ message))
  | .attack targetId =>
    { m with pendingAttacks := m.pendingAttacks ++ [(incoming.sessionId, targetId)] }
  | .castSkill skillId targetId =>
    { m with pendingSkillCasts := m.pendingSkillCasts ++ [(incoming.sessionId, skillId, targetId)] }
  | .pickupItem _ => m.changeInventory incoming "pickup_item"
  | .dropItem slot quantity =>
    m.changeInventory incoming
      ("drop_item(slot=" ++ toString slot.toInt ++ ",qty=" ++ toString quantity.toInt ++ ")")
  | .useItem slot => m.changeInventory incoming ("use_item(slot=" ++ toString slot.toInt ++ ")")
  | .npcInteraction npcId =>
    m.schedule m.nextTick (.text incoming.sessionId ("npc_interaction:" ++ npcId.format))
  | .heartbeat => m.send (.text incoming.sessionId "heartbeat_ack")
  | .logout => setGauge { m with players := m.players.erase incoming.sessionId }
  | .login _ | .characterList | .characterCreate _ | .characterDelete _ | .characterSelect _ => m

def systemInput (commands : List IncomingCommand) : MapInstance :=
  commands.foldl inputCommand m

/-! ### Movement and combat -/

def systemMovement (iter : Iteration) : MapInstance :=
  { m with
    outboundTx := m.outboundTx ++
      (iter.order m.players).map fun (sessionId, player) => .position sessionId player.x player.y }

structure ResolvedAttack where
  attacker : SessionId
  defender : SessionId
  attackerCharacterId : CharacterId
  defenderCharacterId : CharacterId
  damage : Int32
  defeated : Bool

/-- One round of the loop over `pending_attacks`: an attack whose attacker or defender is
not on the map is dropped. -/
def resolveAttack (tickIndex : UInt64) (s : Players × List ResolvedAttack)
    (attack : SessionId × SessionId) : Players × List ResolvedAttack :=
  let (attacker, defender) := attack
  match s.1.lookup attacker, s.1.lookup defender with
  | some attackerState, some defenderState =>
    let base : Int32 := 5
    let variance : Int32 := (tickIndex % 4).toUInt32.toInt32
    let damage := base + variance
    let hp := max (defenderState.hp - damage) 0
    (s.1.insert defender { defenderState with hp := hp },
      s.2 ++ [⟨attacker, defender, attackerState.characterId, defenderState.characterId, damage,
        hp == 0⟩])
  | _, _ => s

/-- What is sent for a resolved attack. -/
def reportAttack (a : ResolvedAttack) : MapInstance :=
  let m := m.send (.combatResult a.attacker a.defender a.damage)
  let m := m.persist
    (.saveCombatLog a.attackerCharacterId a.defenderCharacterId m.config.mapId a.damage)
  if a.defeated then m.send (.text a.defender "you are defeated") else m

structure ResolvedSkill where
  caster : SessionId
  casterCharacterId : CharacterId
  skillId : Int32
  targetId : Option SessionId

/-- One round of the loop over `pending_skill_casts`: the caster pays ten points of mana. -/
def resolveCast (s : MapInstance × List ResolvedSkill)
    (cast : SessionId × Int32 × Option SessionId) : MapInstance × List ResolvedSkill :=
  let (caster, skillId, targetId) := cast
  match s.1.players.lookup caster with
  | none => s
  | some casterState =>
    if casterState.mp < 10 then (s.1.send (.text caster "not enough mana"), s.2)
    else
      ({ s.1 with
          players := s.1.players.insert caster { casterState with mp := casterState.mp - 10 } },
        s.2 ++ [⟨caster, casterState.characterId, skillId, targetId⟩])

/-- One round of the loop over the casts that were paid. -/
def applySkill (skill : ResolvedSkill) : MapInstance :=
  match skill.targetId with
  | some target =>
    match m.players.lookup target with
    | some targetState =>
      let damage : Int32 := 10 + skill.skillId.abs % 7
      let m := { m with
        players := m.players.insert target
          { targetState with hp := max (targetState.hp - damage) 0 } }
      let m := m.send (.combatResult skill.caster target damage)
      m.persist
        (.saveCombatLog skill.casterCharacterId targetState.characterId m.config.mapId damage)
    | none => m
  | none => m.send (.text skill.caster ("skill_cast:" ++ toString skill.skillId.toInt))

def resolveAttacks : MapInstance :=
  let r := m.pendingAttacks.foldl (resolveAttack m.tickIndex) (m.players, [])
  r.2.foldl reportAttack { m with players := r.1, pendingAttacks := [] }

def resolveSkills : MapInstance :=
  let r := m.pendingSkillCasts.foldl resolveCast ({ m with pendingSkillCasts := [] }, [])
  r.2.foldl applySkill r.1

def systemCombat : MapInstance := m.resolveAttacks.resolveSkills

/-! ### The other systems, and the tick -/

def systemAi (iter : Iteration) : MapInstance :=
  if m.tickIndex % 100 = 0 then
    match iter.order m.players with
    | (sessionId, _) :: _ => m.send (.text sessionId "npc_ai_tick")
    | [] => m
  else m

def systemAoi (iter : Iteration) : MapInstance :=
  if m.tickIndex % 40 = 0 then
    { m with
      outboundTx := m.outboundTx ++ (iter.order m.players).map fun (sessionId, _) =>
        .text sessionId ("aoi_update:visible=" ++ toString m.players.keys.card) }
  else m

def systemInventory : MapInstance :=
  { m with
    pendingInventoryChanges := []
    persistTx := m.persistTx ++ m.pendingInventoryChanges.map fun (characterId, reason) =>
      .saveInventoryChange characterId m.config.mapId reason }

def processTick (iter : Iteration) : MapInstance :=
  let m := m.processScheduledEvents
  let m := { m with pendingCommands := [] }.systemInput m.pendingCommands
  let m := m.systemMovement iter
  let m := m.systemCombat
  let m := m.systemAi iter
  let m := m.systemAoi iter
  m.systemInventory

/-- One round of the loop of `MapInstance::run`. -/
def tick (iter : Iteration) : MapInstance :=
  processTick (drainIncomingQueue { m with tickIndex := m.tickIndex + 1 }) iter

/-! ### Who is on the map

Only the input of a tick adds and removes players; the other systems change the entries of
those who are there, and leave the queue alone. -/

/-- What of an instance decides who is on the map and who will be. -/
structure Outline where
  players : Finset SessionId
  rx : List IncomingCommand
  pendingCommands : List IncomingCommand
  commandBudget : ℕ

def outline : Outline where
  players := m.players.keys
  rx := m.rx
  pendingCommands := m.pendingCommands
  commandBudget := m.config.commandBudget

/-- The players on a map after a command of a session. -/
def presence (present : Finset SessionId) (incoming : IncomingCommand) : Finset SessionId :=
  match incoming.command with
  | .enterWorld => insert incoming.sessionId present
  | .logout => present.erase incoming.sessionId
  | _ => present

lemma outline_foldl {β : Type} {f : MapInstance → β → MapInstance}
    (h : ∀ m b, (f m b).outline = m.outline) (bs : List β) (m : MapInstance) :
    (bs.foldl f m).outline = m.outline := by
  induction bs generalizing m with
  | nil => rfl
  | cons b bs ih => rw [List.foldl_cons, ih, h]

lemma outline_insert {m : MapInstance} {s : SessionId} {player : PlayerState}
    (h : m.players.lookup s = some player) (player' : PlayerState) :
    { m with players := m.players.insert s player' }.outline = m.outline := by
  have hk := FMap.keys_insert_present h player'
  unfold outline
  dsimp only
  rw [hk]

lemma inputCommand_outline (incoming : IncomingCommand) :
    (m.inputCommand incoming).outline =
      { m.outline with players := presence m.players.keys incoming } := by
  obtain ⟨s, characterId, command⟩ := incoming
  cases command
  case enterWorld =>
    have hk : (m.enter ⟨s, characterId, .enterWorld⟩).players.keys = insert s m.players.keys :=
      FMap.keys_insert _ _ _
    unfold outline
    rw [inputCommand, hk]
    rfl
  case logout =>
    have hk : (m.players.erase s).keys = m.players.keys.erase s := Finmap.keys_erase _ _
    unfold outline
    rw [inputCommand, setGauge]
    dsimp only
    rw [hk]
    rfl
  case move x y run =>
    simp only [inputCommand]
    split
    · next player h => exact outline_insert h _
    · rfl
  all_goals rfl

lemma systemInput_outline (commands : List IncomingCommand) :
    (m.systemInput commands).outline =
      { m.outline with players := commands.foldl presence m.players.keys } := by
  unfold systemInput
  induction commands generalizing m with
  | nil => rfl
  | cons incoming rest ih =>
    have hi := inputCommand_outline m incoming
    have hp := congrArg Outline.players hi
    rw [List.foldl_cons, List.foldl_cons, ih, hi]
    exact congrArg (fun p => { m.outline with players := rest.foldl presence p }) hp

lemma processScheduledEvents_outline : m.processScheduledEvents.outline = m.outline := by
  unfold processScheduledEvents
  split <;> rfl

lemma resolveAttack_keys (t : UInt64) (s : Players × List ResolvedAttack)
    (attack : SessionId × SessionId) : (resolveAttack t s attack).1.keys = s.1.keys := by
  unfold resolveAttack
  dsimp only
  split
  · next a d ha hd => exact FMap.keys_insert_present hd _
  · rfl

lemma reportAttack_outline (a : ResolvedAttack) : (m.reportAttack a).outline = m.outline := by
  unfold reportAttack
  dsimp only
  split <;> rfl

lemma resolveAttacks_outline : m.resolveAttacks.outline = m.outline := by
  have hkeys : ∀ (l : List (SessionId × SessionId)) (s : Players × List ResolvedAttack),
      (l.foldl (resolveAttack m.tickIndex) s).1.keys = s.1.keys := by
    intro l
    induction l with
    | nil => exact fun s => rfl
    | cons a l ih => exact fun s => by rw [List.foldl_cons, ih, resolveAttack_keys]
  unfold resolveAttacks
  dsimp only
  rw [outline_foldl (fun m a => reportAttack_outline m a)]
  unfold outline
  dsimp only
  rw [hkeys]

lemma resolveCast_outline (s : MapInstance × List ResolvedSkill)
    (cast : SessionId × Int32 × Option SessionId) :
    (resolveCast s cast).1.outline = s.1.outline := by
  unfold resolveCast
  dsimp only
  split
  · rfl
  · next player h =>
    split
    · rfl
    · exact outline_insert h _

lemma applySkill_outline (skill : ResolvedSkill) : (m.applySkill skill).outline = m.outline := by
  unfold applySkill
  split
  · split
    · next player h => exact outline_insert h _
    · rfl
  · rfl

lemma resolveSkills_outline : m.resolveSkills.outline = m.outline := by
  have hcasts : ∀ (l : List (SessionId × Int32 × Option SessionId))
      (s : MapInstance × List ResolvedSkill), (l.foldl resolveCast s).1.outline = s.1.outline := by
    intro l
    induction l with
    | nil => exact fun s => rfl
    | cons a l ih => exact fun s => by rw [List.foldl_cons, ih, resolveCast_outline]
  unfold resolveSkills
  dsimp only
  rw [outline_foldl (fun m k => applySkill_outline m k), hcasts]
  rfl

lemma systemAi_outline (iter : Iteration) : (m.systemAi iter).outline = m.outline := by
  unfold systemAi
  split
  · split <;> rfl
  · rfl

lemma systemAoi_outline (iter : Iteration) : (m.systemAoi iter).outline = m.outline := by
  unfold systemAoi
  split <;> rfl

lemma processTick_outline (iter : Iteration) :
    (m.processTick iter).outline =
      { m.outline with
        players := m.pendingCommands.foldl presence m.players.keys
        pendingCommands := [] } := by
  have hs := processScheduledEvents_outline m
  have hp : m.processScheduledEvents.players.keys = m.players.keys := congrArg Outline.players hs
  have hc : m.processScheduledEvents.pendingCommands = m.pendingCommands :=
    congrArg Outline.pendingCommands hs
  have hinv : ∀ m' : MapInstance, m'.systemInventory.outline = m'.outline := fun _ => rfl
  have hmov : ∀ m' : MapInstance, (m'.systemMovement iter).outline = m'.outline := fun _ => rfl
  unfold processTick systemCombat
  dsimp only
  rw [hinv, systemAoi_outline, systemAi_outline, resolveSkills_outline, resolveAttacks_outline,
    hmov, systemInput_outline]
  dsimp only
  rw [hp, hc, ← hs]
  rfl

lemma drainLoop_outline (budget : ℕ) (m : MapInstance) :
    (drainLoop budget m).outline =
      { m.outline with
        rx := m.rx.drop budget
        pendingCommands := m.pendingCommands ++ m.rx.take budget } := by
  induction budget generalizing m with
  | zero => simp [drainLoop, outline]
  | succ budget ih =>
    rcases hrx : m.rx with _ | ⟨cmd, rest⟩
    · simp [drainLoop, hrx, outline]
    · rw [drainLoop, hrx]
      dsimp only
      rw [ih]
      simp [outline, List.append_assoc]

/-- **A tick** takes as many commands as its budget allows off the queue and lets them, after
those that were pending, decide who is on the map. -/
theorem tick_outline (iter : Iteration) :
    (m.tick iter).outline =
      { players := (m.pendingCommands ++ m.rx.take m.config.commandBudget).foldl presence
          m.players.keys
        rx := m.rx.drop m.config.commandBudget
        pendingCommands := []
        commandBudget := m.config.commandBudget } := by
  have hd := drainLoop_outline m.config.commandBudget { m with tickIndex := m.tickIndex + 1 }
  have hp := congrArg Outline.players hd
  have hc := congrArg Outline.pendingCommands hd
  dsimp only [outline] at hp hc
  unfold tick drainIncomingQueue
  dsimp only
  rw [processTick_outline, hp, hc, hd]
  rfl

lemma tick_rx (iter : Iteration) : (m.tick iter).rx = m.rx.drop m.config.commandBudget := by
  have h := congrArg Outline.rx (tick_outline m iter)
  dsimp only [outline] at h
  exact h

lemma tick_pendingCommands (iter : Iteration) : (m.tick iter).pendingCommands = [] := by
  have h := congrArg Outline.pendingCommands (tick_outline m iter)
  dsimp only [outline] at h
  exact h

lemma tick_keys (iter : Iteration) :
    (m.tick iter).players.keys =
      (m.pendingCommands ++ m.rx.take m.config.commandBudget).foldl presence m.players.keys := by
  have h := congrArg Outline.players (tick_outline m iter)
  dsimp only [outline] at h
  exact h

end MapInstance

end HelbreathBackend.MapServer
