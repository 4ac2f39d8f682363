import HelbreathBackend.MapCombat
import HelbreathBackend.Lib.Transition

/-!
Runs of one instance: commands arrive, and ticks pass.

Between ticks the hit points and the mana of every player are within 0 and 100 and nothing
is pending. In every tick the combat results account for the hit points exactly.
-/

namespace HelbreathBackend.MapServer

open HelbreathBackend.Lib HelbreathBackend.Domain HelbreathBackend.Application

structure CombatResult where
  attacker : SessionId
  defender : SessionId
  damage : Int32
  deriving DecidableEq

structure CombatLog where
  attacker : CharacterId
  defender : CharacterId
  mapId : MapId
  damage : Int32
  deriving DecidableEq

def OutboundEvent.combatResult? : OutboundEvent → Option CombatResult
  | .combatResult attacker defender damage => some ⟨attacker, defender, damage⟩
  | _ => none

def PersistOp.combatLog? : PersistOp → Option CombatLog
  | .saveCombatLog attacker defender mapId damage => some ⟨attacker, defender, mapId, damage⟩
  | _ => none

def Hit.combatResult (h : Hit) : CombatResult := ⟨h.attacker, h.defender, h.damage⟩

def Hit.combatLog (mapId : MapId) (h : Hit) : CombatLog :=
  ⟨h.attackerCharacterId, h.defenderCharacterId, mapId, h.damage⟩

/-- The hit points and the mana a player can have. -/
structure PlayerState.Healthy (player : PlayerState) : Prop where
  hp_nonneg : 0 ≤ player.hp.toInt
  hp_le : player.hp.toInt ≤ 100
  mp_nonneg : 0 ≤ player.mp.toInt
  mp_le : player.mp.toInt ≤ 100

/-- Blows of the damages there are. -/
lemma PlayerState.Healthy.wounded {player : PlayerState} (h : player.Healthy)
    {damages : List Int32} (hd : ∀ d ∈ damages, 0 ≤ d.toInt ∧ d.toInt ≤ 16) :
    (player.wounded damages).Healthy ∧ (player.wounded damages).hp.toInt =
      max 0 (player.hp.toInt - (damages.map (·.toInt)).sum) := by
  have hpos : 0 ≤ (damages.map (·.toInt)).sum := by
    refine List.sum_nonneg fun z hz => ?_
    obtain ⟨x, hx, rfl⟩ := List.mem_map.mp hz
    exact (hd x hx).1
  have hhp := h.hp_nonneg
  have hle := h.hp_le
  have hval : (player.wounded damages).hp.toInt =
      max 0 (player.hp.toInt - (damages.map (·.toInt)).sum) := by
    rcases eq_or_ne damages [] with rfl | hne
    · rw [List.map_nil, List.sum_nil, sub_zero, max_eq_right hhp]
      rfl
    · exact wound_toInt (by omega) hd hne
  exact ⟨⟨by omega, by omega, h.mp_nonneg, h.mp_le⟩, hval⟩

/-- A command leaves a player healthy. -/
lemma sessionStep_healthy {mapId : MapId} {entry : Option PlayerState} {incoming : IncomingCommand}
    (h : ∀ player, entry = some player → player.Healthy) :
    ∀ player, (sessionStep mapId entry incoming).1 = some player → player.Healthy := by
  intro player hp
  obtain ⟨s, characterId, command⟩ := incoming
  cases command
  case enterWorld =>
    obtain rfl := Option.some.inj hp
    rcases entry with _ | old
    · have h100 : 0 ≤ (100 : Int32).toInt ∧ (100 : Int32).toInt ≤ 100 := by decide
      exact ⟨h100.1, h100.2, h100.1, h100.2⟩
    · have hold := h old rfl
      exact ⟨hold.hp_nonneg, hold.hp_le, hold.mp_nonneg, hold.mp_le⟩
  case move x y run =>
    obtain ⟨old, rfl, rfl⟩ := Option.map_eq_some_iff.mp hp
    have hold := h old rfl
    exact ⟨hold.hp_nonneg, hold.hp_le, hold.mp_nonneg, hold.mp_le⟩
  case logout => cases hp
  all_goals exact h player hp

lemma pay_of_lt {caster : PlayerState} (hmp : caster.mp < 10)
    (cast : SessionId × Int32 × Option SessionId) :
    pay (some caster) cast = (some caster, .notEnoughMana) := by
  simp only [pay, if_pos hmp]

lemma pay_of_not_lt {caster : PlayerState} (hmp : ¬ caster.mp < 10)
    (cast : SessionId × Int32 × Option SessionId) :
    pay (some caster) cast = (some { caster with mp := caster.mp - 10 },
      .paid ⟨cast.1, caster.characterId, cast.2.1, cast.2.2⟩) := by
  simp only [pay, if_neg hmp]

/-- A cast changes nothing of its caster but the mana. -/
lemma pay_keeps {γ : Type} {f : PlayerState → γ} (hf : ∀ player mp, f { player with mp := mp } =
    f player) (entry : Option PlayerState) (cast : SessionId × Int32 × Option SessionId) :
    (pay entry cast).1.map f = entry.map f := by
  unfold pay
  split
  · rfl
  · split
    · rfl
    · exact congrArg some (hf _ _)

lemma mp_lt_ten_iff {mp : Int32} : mp < 10 ↔ mp.toInt < 10 := Int32.lt_iff_toInt_lt

lemma PlayerState.Healthy.spent {caster : PlayerState} (h : caster.Healthy)
    (hmp : ¬ caster.mp < 10) : (caster.mp - 10).toInt = caster.mp.toInt - 10 ∧
      ({ caster with mp := caster.mp - 10 } : PlayerState).Healthy := by
  have h10 : (10 : Int32).toInt = 10 := rfl
  rw [mp_lt_ten_iff] at hmp
  have hle := h.mp_le
  have hsub : (caster.mp - 10).toInt = caster.mp.toInt - 10 := by
    rw [Int32.toInt_sub, h10, Int.bmod_eq_of_le] <;> omega
  exact ⟨hsub, h.hp_nonneg, h.hp_le, by rw [hsub]; omega, by rw [hsub]; omega⟩

/-- A cast leaves its caster healthy. -/
lemma pay_healthy {entry : Option PlayerState} {cast : SessionId × Int32 × Option SessionId}
    (h : ∀ player, entry = some player → player.Healthy) :
    ∀ player, (pay entry cast).1 = some player → player.Healthy := by
  intro player hp
  rcases entry with _ | caster
  · cases hp
  have hcaster := h caster rfl
  by_cases hmp : caster.mp < 10
  · rw [pay_of_lt hmp] at hp
    obtain rfl := Option.some.inj hp
    exact hcaster
  · rw [pay_of_not_lt hmp] at hp
    obtain rfl := Option.some.inj hp
    exact (hcaster.spent hmp).2

namespace MapInstance

variable (m : MapInstance)

/-! ### The stages of a tick -/

/-- The instance when a tick has taken its commands off the queue. -/
def begun : MapInstance := drainIncomingQueue { m with tickIndex := m.tickIndex + 1 }

/-- The instance when the input of a tick starts. -/
def opened : MapInstance := { m.processScheduledEvents with pendingCommands := [] }

/-- The instance after the input of a tick. -/
def inputStage : MapInstance := m.opened.systemInput m.processScheduledEvents.pendingCommands

def positions (iter : Iteration) (players : Players) : List OutboundEvent :=
  (iter.order players).map fun (sessionId, player) => .position sessionId player.x player.y

def aiEvents (iter : Iteration) (tickIndex : UInt64) (players : Players) : List OutboundEvent :=
  if tickIndex % 100 = 0 then
    match iter.order players with
    | (sessionId, _) :: _ => [.text sessionId "npc_ai_tick"]
    | [] => []
  else []

def aoiEvents (iter : Iteration) (tickIndex : UInt64) (players : Players) : List OutboundEvent :=
  if tickIndex % 40 = 0 then
    (iter.order players).map fun (sessionId, _) =>
      .text sessionId ("aoi_update:visible=" ++ toString players.keys.card)
  else []

def inventoryOps : List PersistOp :=
  m.pendingInventoryChanges.map fun (characterId, reason) =>
    .saveInventoryChange characterId m.config.mapId reason

/-- The entry of a session after the combat. -/
def survived (s : SessionId) : Option PlayerState :=
  (m.paid s).map (·.wounded (damagesOn s m.skillHits))

/-- What the combat sends, with the attacks resolved as given. -/
def combatEvents (resolved : List ResolvedAttack) : List OutboundEvent :=
  resolved.flatMap (·.events) ++
    (m.payments.flatMap (fun p => p.2.told p.1) ++ m.skills.flatMap (skillEvents m.ids))

/-- The attacks as the first loop resolves them. -/
structure IsResolved (resolved : List ResolvedAttack) : Prop where
  hits : resolved.map (·.hit) = m.attackHits
  falls : resolved.map (fun a => (a.defender, a.defeated)) =
    outputsAll id (fell (attackDamage m.tickIndex)) (hpOf m.players)
      (m.attackHits.map (·.defender))

/-- The instance `m'` is what a tick makes of the instance `c` that its input leaves. -/
structure Ticked (iter : Iteration) (c m' : MapInstance) (resolved : List ResolvedAttack) :
    Prop where
  attacks : c.IsResolved resolved
  eq : m' = { c with
    players := m'.players
    outboundTx := c.outboundTx ++ positions iter c.players ++ c.combatEvents resolved ++
      aiEvents iter c.tickIndex m'.players ++ aoiEvents iter c.tickIndex m'.players
    persistTx := c.persistTx ++ (c.attackHits ++ c.skillHits).map (·.log c.config.mapId) ++
      c.inventoryOps
    pendingAttacks := []
    pendingSkillCasts := []
    pendingInventoryChanges := [] }
  entries : m'.entry = c.survived

lemma systemAi_eq (iter : Iteration) (m : MapInstance) :
    m.systemAi iter =
      { m with outboundTx := m.outboundTx ++ aiEvents iter m.tickIndex m.players } := by
  unfold systemAi aiEvents
  split
  · rcases iter.order m.players with _ | ⟨⟨s, player⟩, rest⟩
    · dsimp only
      rw [List.append_nil]
    · rfl
  · rw [List.append_nil]

lemma systemAoi_eq (iter : Iteration) (m : MapInstance) :
    m.systemAoi iter =
      { m with outboundTx := m.outboundTx ++ aoiEvents iter m.tickIndex m.players } := by
  unfold systemAoi aoiEvents
  split
  · rfl
  · rw [List.append_nil]

/-- **The systems after the input**, as one equation. -/
theorem processTick_ticked (iter : Iteration) :
    ∃ resolved, Ticked iter m.inputStage (m.processTick iter) resolved := by
  obtain ⟨resolved, hhits, hfalls, hfought⟩ :=
    systemCombat_fought (m.inputStage.systemMovement iter)
  have hrun : m.processTick iter = ((((m.inputStage.systemMovement iter).systemCombat).systemAi
      iter).systemAoi iter).systemInventory := rfl
  rw [systemAi_eq, systemAoi_eq] at hrun
  refine ⟨resolved, ⟨hhits, hfalls⟩, ?_, ?_⟩
  · have hplayers : (m.processTick iter).players =
        ((m.inputStage.systemMovement iter).systemCombat).players := by rw [hrun]; rfl
    rw [hplayers, hrun, hfought.eq]
    rfl
  · have hentries : (m.processTick iter).entry =
        ((m.inputStage.systemMovement iter).systemCombat).entry := by rw [hrun]; rfl
    rw [hentries, hfought.entries]
    rfl

/-! ### Between ticks -/

lemma drainLoop_eq (budget : ℕ) (m : MapInstance) :
    drainLoop budget m = { m with
      rx := m.rx.drop budget, pendingCommands := m.pendingCommands ++ m.rx.take budget } := by
  induction budget generalizing m with
  | zero => simp [drainLoop]
  | succ budget ih =>
    rcases hrx : m.rx with _ | ⟨cmd, rest⟩
    · simp only [drainLoop, hrx, List.drop_nil, List.take_nil, List.append_nil]
      rw [← hrx]
    · rw [drainLoop, hrx]
      dsimp only
      rw [ih]
      simp [List.append_assoc]

lemma begun_eq : m.begun = { m with
    tickIndex := m.tickIndex + 1
    rx := m.rx.drop m.config.commandBudget
    pendingCommands := m.pendingCommands ++ m.rx.take m.config.commandBudget } :=
  drainLoop_eq m.config.commandBudget { m with tickIndex := m.tickIndex + 1 }

theorem tick_ticked (iter : Iteration) :
    ∃ resolved, Ticked iter m.begun.inputStage (m.tick iter) resolved :=
  processTick_ticked m.begun iter

/-- Events put down for a tick are those that were there and the new ones. -/
lemma mem_scheduleAll {f : FMap UInt64 (List ScheduledEvent)} {at_ t : UInt64}
    {events : List OutboundEvent} {l : List ScheduledEvent}
    (h : (scheduleAll f at_ events).lookup t = some l) {e : ScheduledEvent} (he : e ∈ l) :
    e.event ∈ events ∨ ∃ l', f.lookup t = some l' ∧ e ∈ l' := by
  induction events generalizing f with
  | nil => exact .inr ⟨l, h, he⟩
  | cons event events ih =>
    rcases ih h with hin | ⟨l', hl', hmem⟩
    · exact .inl (List.mem_cons_of_mem _ hin)
    rcases FMap.lookup_insert_cases hl' with ⟨ht, rfl⟩ | ⟨-, hl'⟩
    · rcases List.mem_append.mp hmem with hmem | hmem
      · rcases hf : f.lookup at_ with _ | old
        · rw [hf] at hmem
          exact absurd hmem List.not_mem_nil
        · rw [hf] at hmem
          exact .inr ⟨old, by rw [ht, hf], hmem⟩
      · rw [List.mem_singleton.mp hmem]
        exact .inl List.mem_cons_self
    · exact .inr ⟨l', hl', hmem⟩

/-- What every instance is like between ticks. -/
structure Sound (m : MapInstance) : Prop where
  healthy : ∀ s player, m.entry s = some player → player.Healthy
  pendingAttacks : m.pendingAttacks = []
  pendingSkillCasts : m.pendingSkillCasts = []
  pendingInventoryChanges : m.pendingInventoryChanges = []
  scheduled : ∀ t events, m.scheduled.lookup t = some events →
    ∀ e ∈ events, e.event.combatResult? = none

variable {m}

/-- Before its input a tick sends what is due, and takes the commands out. -/
lemma opened_eq (m : MapInstance) : m.opened = { m with
    scheduled := m.opened.scheduled
    outboundTx := m.opened.outboundTx
    pendingCommands := [] } := by
  unfold opened processScheduledEvents
  split <;> rfl

lemma inputStage_eq (m : MapInstance) :
    m.inputStage = m.opened.systemInput m.pendingCommands := by
  have hpending : m.processScheduledEvents.pendingCommands = m.pendingCommands := by
    unfold processScheduledEvents
    split <;> rfl
  rw [inputStage, hpending]

/-- **The input of a tick**, as runs of the machines of the sessions. -/
lemma took_inputStage (m : MapInstance) :
    Took m.opened m.inputStage
      (finalAll IncomingCommand.sessionId (sessionStep m.config.mapId) m.entry m.pendingCommands)
      (outputsAll IncomingCommand.sessionId (sessionStep m.config.mapId) m.entry
        m.pendingCommands) := by
  have h := took_systemInput m.opened m.pendingCommands
  have hconfig : m.opened.config = m.config := by rw [opened_eq]
  have hentry : m.opened.entry = m.entry := by
    rw [opened_eq]
    rfl
  rw [hconfig, hentry, ← inputStage_eq] at h
  exact h

/-! ### The hits of a tick -/

lemma skillDamage_bounds (k : Int32) : 0 ≤ (skillDamage k).toInt ∧ (skillDamage k).toInt ≤ 16 := by
  rcases eq_or_ne k Int32.minValue with rfl | hk
  · rw [skillDamage_minValue]
    decide
  · have h := skillDamage_mem hk
    omega

/-- Both parties of a hit are on the map, under the characters the hit names. -/
structure Fits (c : MapInstance) (h : Hit) : Prop where
  attacker : c.ids h.attacker = some h.attackerCharacterId
  defender : c.ids h.defender = some h.defenderCharacterId
  damage : 0 ≤ h.damage.toInt ∧ h.damage.toInt ≤ 16

lemma attackHits_fit (c : MapInstance) : ∀ h ∈ c.attackHits, c.Fits h := by
  intro h hh
  obtain ⟨attack, -, haim⟩ := List.mem_filterMap.mp hh
  unfold aim at haim
  split at haim
  · next a d ha hd =>
    obtain rfl := Option.some.inj haim
    have hdam := attackDamage_mem c.tickIndex
    exact ⟨ha, hd, by dsimp only; omega, by dsimp only; omega⟩
  · cases haim

/-- A skill that was paid names its caster and the caster's character. -/
lemma skills_fit (c : MapInstance) :
    ∀ skill ∈ c.skills, c.ids skill.caster = some skill.casterCharacterId := by
  intro skill hskill
  obtain ⟨p, hp, hps⟩ := List.mem_filterMap.mp hskill
  have hids : ∀ s, (c.hurt s).map (·.characterId) = c.ids s := by
    intro s
    rw [hurt, Option.map_map]
    rfl
  have hkeep : ∀ (cast : SessionId × Int32 × Option SessionId) (entry : Option PlayerState),
      entry.map (·.characterId) = c.ids cast.1 →
        (pay entry cast).1.map (·.characterId) = c.ids cast.1 :=
    fun cast entry he => (pay_characterId entry cast).trans he
  refine outputsAll_forall (I := fun s entry => entry.map (·.characterId) = c.ids s)
    (P := fun _ o => ∀ skill, o.skill = some skill →
      c.ids skill.caster = some skill.casterCharacterId) hids hkeep ?_ _ p hp skill hps
  intro cast entry he skill hpaid
  unfold pay at hpaid
  rcases entry with _ | caster
  · cases hpaid
  dsimp only at hpaid
  split at hpaid
  · cases hpaid
  · obtain rfl := Option.some.inj hpaid
    exact he.symm

lemma skillHits_fit (c : MapInstance) : ∀ h ∈ c.skillHits, c.Fits h := by
  intro h hh
  obtain ⟨skill, hskill, hstrike⟩ := List.mem_filterMap.mp hh
  have hcaster := skills_fit c skill hskill
  unfold strike at hstrike
  split at hstrike
  · obtain ⟨d, hd, rfl⟩ := Option.map_eq_some_iff.mp hstrike
    exact ⟨hcaster, hd, skillDamage_bounds _⟩
  · cases hstrike

lemma hits_fit (c : MapInstance) : ∀ h ∈ c.attackHits ++ c.skillHits, c.Fits h := by
  intro h hh
  rcases List.mem_append.mp hh with hh | hh
  · exact attackHits_fit c h hh
  · exact skillHits_fit c h hh

lemma damagesOn_bounds {c : MapInstance} {hits : List Hit} (hfit : ∀ h ∈ hits, c.Fits h)
    (s : SessionId) : ∀ d ∈ damagesOn s hits, 0 ≤ d.toInt ∧ d.toInt ≤ 16 := by
  intro d hd
  obtain ⟨h, hh, rfl⟩ := List.mem_map.mp hd
  exact (hfit h (List.mem_of_mem_filter hh)).damage

/-- The combat changes nothing of a player but the hit points and the mana, and takes off the
hit points what the hits of the tick on the player take. -/
lemma survived_eq (c : MapInstance) (s : SessionId) :
    (c.survived s).map (fun p => (p.characterId, p.hp)) =
      (c.entry s).map fun p =>
        (p.characterId, wound p.hp (damagesOn s (c.attackHits ++ c.skillHits))) := by
  have hpaid : (c.paid s).map (fun p => (p.characterId, p.hp)) =
      (c.hurt s).map fun p => (p.characterId, p.hp) :=
    finalAll_keeps (pay_keeps fun _ _ => rfl) _ _ _
  have hwound : ∀ (entry : Option PlayerState) (ds : List Int32),
      (entry.map fun p => p.wounded ds).map (fun p => (p.characterId, p.hp)) =
        (entry.map fun p => (p.characterId, p.hp)).map fun q => (q.1, wound q.2 ds) := by
    intro entry ds
    rw [Option.map_map, Option.map_map]
    rfl
  rw [survived, hwound, hpaid, hurt, hwound, Option.map_map, Option.map_map, damagesOn_append]
  congr 1
  funext p
  exact congrArg (Prod.mk p.characterId) (wound_append _ _ _).symm

lemma survived_healthy {c : MapInstance}
    (h : ∀ s player, c.entry s = some player → player.Healthy) :
    ∀ s player, c.survived s = some player → player.Healthy := by
  intro s player hp
  have hhurt : ∀ s player, c.hurt s = some player → player.Healthy := by
    intro s player hp
    obtain ⟨old, ho, rfl⟩ := Option.map_eq_some_iff.mp hp
    exact ((h s old ho).wounded (damagesOn_bounds (attackHits_fit c) s)).1
  have hpaid : ∀ player, c.paid s = some player → player.Healthy :=
    finalAll_some hhurt pay_healthy c.pendingSkillCasts s
  obtain ⟨old, ho, rfl⟩ := Option.map_eq_some_iff.mp hp
  exact ((hpaid old ho).wounded (damagesOn_bounds (skillHits_fit c) s)).1

/-! ### Runs -/

inductive MapAction
  | incoming (command : IncomingCommand)
  | tick (iter : Iteration)

/-- One instance, from its start. -/
def mapSystem (config : MapConfig) : System MapInstance MapAction where
  init m := m = .new config
  step
    | m, .incoming command => some { m with rx := m.rx ++ [command] }
    | m, .tick iter => some (m.tick iter)

lemma sessionStep_silent (mapId : MapId) (entry : Option PlayerState) (incoming : IncomingCommand) :
    (∀ e ∈ (sessionStep mapId entry incoming).2.outbound, e.combatResult? = none) ∧
    (∀ e ∈ (sessionStep mapId entry incoming).2.scheduled, e.combatResult? = none) ∧
    ∀ op ∈ (sessionStep mapId entry incoming).2.persist, op.combatLog? = none := by
  obtain ⟨s, characterId, command⟩ := incoming
  cases command
  case move x y run => cases entry <;> simp [sessionStep, PersistOp.combatLog?]
  all_goals simp [sessionStep, OutboundEvent.combatResult?]

/-- The input of a tick leaves the players healthy and neither sends nor schedules a combat
result. -/
lemma Sound.inputStage {m : MapInstance} (h : m.Sound) :
    (∀ s player, m.inputStage.entry s = some player → player.Healthy) ∧
    (∀ t events, m.inputStage.scheduled.lookup t = some events →
      ∀ e ∈ events, e.event.combatResult? = none) := by
  have htook := took_inputStage m
  constructor
  · rw [htook.entries]
    exact finalAll_some h.healthy sessionStep_healthy m.pendingCommands
  · intro t events ht e he
    rw [htook.scheduled] at ht
    rcases mem_scheduleAll ht he with hnew | ⟨old, hold, hmem⟩
    · obtain ⟨o, ho, hmem⟩ := List.mem_flatMap.mp hnew
      have hsilent := outputsAll_forall (I := fun _ _ => True)
        (P := fun _ (effect : InputEffect) => ∀ e ∈ effect.scheduled, e.combatResult? = none)
        (fun _ => trivial) (fun _ _ _ => trivial)
        (fun a entry _ => (sessionStep_silent m.config.mapId entry a).2.1) m.pendingCommands o ho
      exact hsilent _ hmem
    · refine h.scheduled t old ?_ e hmem
      unfold opened processScheduledEvents at hold
      split at hold
      · dsimp only at hold
        obtain ⟨-, hold⟩ := FMap.lookup_of_erase hold
        exact hold
      · exact hold

lemma Sound.begun {m : MapInstance} (h : m.Sound) : m.begun.Sound := by
  rw [begun_eq]
  exact ⟨h.healthy, h.pendingAttacks, h.pendingSkillCasts, h.pendingInventoryChanges, h.scheduled⟩

lemma Sound.tick {m : MapInstance} (h : m.Sound) (iter : Iteration) : (m.tick iter).Sound := by
  obtain ⟨resolved, hticked⟩ := tick_ticked m iter
  obtain ⟨hhealthy, hscheduled⟩ := h.begun.inputStage
  refine ⟨?_, ?_, ?_, ?_, ?_⟩
  · rw [hticked.entries]
    exact survived_healthy hhealthy
  · rw [hticked.eq]
  · rw [hticked.eq]
  · rw [hticked.eq]
  · rw [hticked.eq]
    exact hscheduled

/-- **Between ticks every instance is sound.** -/
theorem sound_of_reached {config : MapConfig} {m : MapInstance} (h : (mapSystem config).Reached m) :
    m.Sound := by
  refine h.invariant Sound ?_ ?_
  · rintro _ rfl
    refine ⟨fun s player hs => ?_, rfl, rfl, rfl, fun t events ht => ?_⟩
    · cases hs
    · cases ht
  · intro m a m' hm _ hstep
    cases a with
    | incoming command =>
      obtain rfl := Option.some.inj hstep
      exact ⟨hm.healthy, hm.pendingAttacks, hm.pendingSkillCasts, hm.pendingInventoryChanges,
        hm.scheduled⟩
    | tick iter =>
      obtain rfl := Option.some.inj hstep
      exact hm.tick iter

lemma inputStage_config (m : MapInstance) : m.inputStage.config = m.config := by
  rw [(took_inputStage m).config, opened_eq]

lemma tick_config (m : MapInstance) (iter : Iteration) : (m.tick iter).config = m.config := by
  obtain ⟨resolved, hticked⟩ := tick_ticked m iter
  rw [hticked.eq]
  dsimp only
  rw [inputStage_config, begun_eq]

lemma config_of_reached {config : MapConfig} {m : MapInstance}
    (h : (mapSystem config).Reached m) : m.config = config := by
  refine h.invariant (fun m => m.config = config) ?_ ?_
  · rintro _ rfl
    rfl
  · intro m a m' hm _ hstep
    cases a with
    | incoming command =>
      obtain rfl := Option.some.inj hstep
      exact hm
    | tick iter =>
      obtain rfl := Option.some.inj hstep
      rw [tick_config, hm]

/-! ### What a tick reports -/

/-- The combat results sent since `m`. -/
def resultsSince (m m' : MapInstance) : List CombatResult :=
  (m'.outboundTx.drop m.outboundTx.length).filterMap (·.combatResult?)

/-- The combat logs written since `m`. -/
def logsSince (m m' : MapInstance) : List CombatLog :=
  (m'.persistTx.drop m.persistTx.length).filterMap (·.combatLog?)

lemma filterMap_attackEvents {hits : List Hit} {resolved : List ResolvedAttack}
    (h : resolved.map (·.hit) = hits) :
    (resolved.flatMap (·.events)).filterMap (·.combatResult?) = hits.map (·.combatResult) := by
  rw [← h, List.map_map, List.filterMap_flatMap, List.map_eq_flatMap]
  refine List.flatMap_congr fun a _ => ?_
  unfold ResolvedAttack.events
  cases a.defeated <;> rfl

lemma filterMap_castEvents (c : MapInstance) :
    (c.payments.flatMap (fun p => p.2.told p.1) ++ c.skills.flatMap (skillEvents c.ids)).filterMap
      (·.combatResult?) = c.skillHits.map (·.combatResult) := by
  have htold : (c.payments.flatMap fun p => p.2.told p.1).filterMap (·.combatResult?) = [] := by
    rw [List.filterMap_flatMap, List.flatMap_eq_nil_iff]
    rintro ⟨s, payment⟩ -
    cases payment <;> rfl
  rw [List.filterMap_append, htold, List.nil_append, List.filterMap_flatMap, skillHits,
    List.map_filterMap, List.filterMap_eq_flatMap_toList]
  refine List.flatMap_congr fun skill _ => ?_
  unfold skillEvents strike
  rcases skill.targetId with _ | target
  · rfl
  · dsimp only
    cases c.ids target <;> rfl

lemma filterMap_combatEvents {c : MapInstance} {resolved : List ResolvedAttack}
    (h : c.IsResolved resolved) :
    (c.combatEvents resolved).filterMap (·.combatResult?) =
      (c.attackHits ++ c.skillHits).map (·.combatResult) := by
  rw [combatEvents, List.filterMap_append, filterMap_attackEvents h.hits, filterMap_castEvents,
    List.map_append]

/-- The input of a tick reports no combat. -/
lemma inputStage_reports (m : MapInstance) :
    ∃ events ops, m.inputStage.outboundTx = m.processScheduledEvents.outboundTx ++ events ∧
      events.filterMap (·.combatResult?) = [] ∧
      m.inputStage.persistTx = m.processScheduledEvents.persistTx ++ ops ∧
      ops.filterMap (·.combatLog?) = [] := by
  have htook := took_inputStage m
  have hsteps : ∀ o ∈ outputsAll IncomingCommand.sessionId (sessionStep m.config.mapId) m.entry
      m.pendingCommands, (∀ e ∈ o.2.outbound, e.combatResult? = none) ∧
        ∀ op ∈ o.2.persist, op.combatLog? = none :=
    outputsAll_forall (I := fun _ _ => True)
      (P := fun _ (effect : InputEffect) => (∀ e ∈ effect.outbound, e.combatResult? = none) ∧
        ∀ op ∈ effect.persist, op.combatLog? = none)
      (fun _ => trivial) (fun _ _ _ => trivial)
      (fun a entry _ => ⟨(sessionStep_silent m.config.mapId entry a).1,
        (sessionStep_silent m.config.mapId entry a).2.2⟩) m.pendingCommands
  refine ⟨_, _, htook.outboundTx, ?_, htook.persistTx, ?_⟩
  · rw [List.filterMap_eq_nil_iff]
    intro e he
    obtain ⟨o, ho, heo⟩ := List.mem_flatMap.mp he
    exact (hsteps o ho).1 e heo
  · rw [List.filterMap_eq_nil_iff]
    intro op hop
    obtain ⟨o, ho, hopo⟩ := List.mem_flatMap.mp hop
    exact (hsteps o ho).2 op hopo

/-- Between ticks no combat result is scheduled, so that a tick reports none before its combat. -/
lemma Sound.inputStage_reports {m : MapInstance} (h : m.Sound) :
    ∃ events ops, m.inputStage.outboundTx = m.outboundTx ++ events ∧
      events.filterMap (·.combatResult?) = [] ∧
      m.inputStage.persistTx = m.persistTx ++ ops ∧ ops.filterMap (·.combatLog?) = [] := by
  obtain ⟨inputs, ops, hinputs, hnone, hops, hnone'⟩ := MapInstance.inputStage_reports m
  have hopened : ∃ events, m.processScheduledEvents.outboundTx = m.outboundTx ++ events ∧
      events.filterMap (·.combatResult?) = [] ∧
      m.processScheduledEvents.persistTx = m.persistTx := by
    unfold processScheduledEvents
    split
    · next events hevents =>
      refine ⟨events.map (·.event), rfl, List.filterMap_eq_nil_iff.mpr fun e he => ?_, rfl⟩
      obtain ⟨event, hevent, rfl⟩ := List.mem_map.mp he
      exact h.scheduled _ _ hevents event hevent
    · exact ⟨[], (List.append_nil _).symm, rfl, rfl⟩
  obtain ⟨events, hevents, hsilent, hpersist⟩ := hopened
  refine ⟨events ++ inputs, ops, ?_, ?_, ?_, hnone'⟩
  · rw [hinputs, hevents, List.append_assoc]
  · rw [List.filterMap_append, hsilent, hnone, List.append_nil]
  · rw [hops, hpersist]

lemma positions_silent (iter : Iteration) (players : Players) :
    (positions iter players).filterMap (·.combatResult?) = [] := by
  rw [List.filterMap_eq_nil_iff]
  intro e he
  obtain ⟨p, -, rfl⟩ := List.mem_map.mp he
  rfl

lemma aiEvents_silent (iter : Iteration) (t : UInt64) (players : Players) :
    (aiEvents iter t players).filterMap (·.combatResult?) = [] := by
  unfold aiEvents
  split
  · split <;> rfl
  · rfl

lemma aoiEvents_silent (iter : Iteration) (t : UInt64) (players : Players) :
    (aoiEvents iter t players).filterMap (·.combatResult?) = [] := by
  unfold aoiEvents
  split
  · rw [List.filterMap_eq_nil_iff]
    intro e he
    obtain ⟨p, -, rfl⟩ := List.mem_map.mp he
    rfl
  · rfl

lemma inventoryOps_silent (c : MapInstance) : c.inventoryOps.filterMap (·.combatLog?) = [] := by
  rw [List.filterMap_eq_nil_iff]
  intro op hop
  obtain ⟨p, -, rfl⟩ := List.mem_map.mp hop
  rfl

lemma Ticked.results {iter : Iteration} {m c m' : MapInstance} {resolved : List ResolvedAttack}
    (h : Ticked iter c m' resolved) {events : List OutboundEvent}
    (hout : c.outboundTx = m.outboundTx ++ events)
    (hsilent : events.filterMap (·.combatResult?) = []) :
    resultsSince m m' = (c.attackHits ++ c.skillHits).map (·.combatResult) := by
  rw [resultsSince, h.eq]
  dsimp only
  rw [hout]
  simp only [List.append_assoc, List.drop_left, List.filterMap_append, hsilent, positions_silent,
    aiEvents_silent, aoiEvents_silent, List.nil_append, List.append_nil]
  rw [filterMap_combatEvents h.attacks, List.map_append]

/-- **The reports of a tick** are its hits, attacks first, in the same order on both channels. -/
theorem Sound.tick_reports {m : MapInstance} (h : m.Sound) (iter : Iteration) :
    let c := m.begun.inputStage
    resultsSince m (m.tick iter) = (c.attackHits ++ c.skillHits).map (·.combatResult) ∧
    logsSince m (m.tick iter) =
      (c.attackHits ++ c.skillHits).map (·.combatLog c.config.mapId) := by
  obtain ⟨resolved, hticked⟩ := tick_ticked m iter
  obtain ⟨events, ops, hout, hevents, hpersist, hops⟩ := h.begun.inputStage_reports
  have hbegun : m.begun.outboundTx = m.outboundTx ∧ m.begun.persistTx = m.persistTx := by
    rw [begun_eq]
    exact ⟨rfl, rfl⟩
  constructor
  · rw [hbegun.1] at hout
    exact hticked.results hout hevents
  · rw [logsSince, hticked.eq]
    dsimp only
    rw [hpersist, hbegun.2]
    simp only [List.append_assoc, List.drop_left, List.filterMap_append, hops, inventoryOps_silent,
      List.nil_append, List.append_nil]
    rw [List.filterMap_map, ← List.filterMap_eq_map]
    rfl

/-- **The combat results of a tick**, whatever was scheduled for it, are its hits. -/
theorem processTick_reports (m : MapInstance) (iter : Iteration) :
    resultsSince m.processScheduledEvents (m.processTick iter) =
      (m.inputStage.attackHits ++ m.inputStage.skillHits).map (·.combatResult) := by
  obtain ⟨resolved, hticked⟩ := processTick_ticked m iter
  obtain ⟨events, -, hout, hevents, -⟩ := inputStage_reports m
  exact hticked.results hout hevents

/-- A tick only adds to what was sent and written. -/
lemma Sound.tick_extends {m : MapInstance} (h : m.Sound) (iter : Iteration) :
    m.outboundTx <+: (m.tick iter).outboundTx ∧ m.persistTx <+: (m.tick iter).persistTx := by
  obtain ⟨resolved, hticked⟩ := tick_ticked m iter
  obtain ⟨events, ops, hout, -, hpersist, -⟩ := h.begun.inputStage_reports
  rw [hticked.eq]
  dsimp only
  rw [hout, hpersist, begun_eq]
  simp only [List.append_assoc]
  exact ⟨List.prefix_append _ _, List.prefix_append _ _⟩

/-- **Combat results account exactly for the hit points.** In every tick of every run, a player
present after the input keeps the hit points the tick's combat results on the player leave; and
the tick's combat results and combat logs correspond one to one, in order. -/
theorem combat_accounts_for_hp {config : MapConfig} {m : MapInstance}
    (h : (mapSystem config).Reached m) (iter : Iteration) :
    let c := m.begun.inputStage
    let m' := m.tick iter
    (m.outboundTx <+: m'.outboundTx ∧ m.persistTx <+: m'.persistTx) ∧
    (∀ s player, c.players.lookup s = some player →
      ∃ player', m'.players.lookup s = some player' ∧ player'.hp.toInt =
        max 0 (player.hp.toInt -
          (((resultsSince m m').filter fun r => r.defender = s).map (·.damage.toInt)).sum)) ∧
    List.Forall₂ (fun r log => log.damage = r.damage ∧ log.mapId = config.mapId ∧
      (c.players.lookup r.attacker).map (·.characterId) = some log.attacker ∧
      (c.players.lookup r.defender).map (·.characterId) = some log.defender)
      (resultsSince m m') (logsSince m m') := by
  have hsound := sound_of_reached h
  obtain ⟨hresults, hlogs⟩ := hsound.tick_reports iter
  obtain ⟨resolved, hticked⟩ := tick_ticked m iter
  have hfit := hits_fit m.begun.inputStage
  refine ⟨hsound.tick_extends iter, fun s player hs => ?_, ?_⟩
  · have hkept := survived_eq m.begun.inputStage s
    have hentry : m.begun.inputStage.entry s = some player := hs
    rw [hentry, Option.map_some] at hkept
    obtain ⟨player', hp', hpair⟩ := Option.map_eq_some_iff.mp hkept
    have hlookup : (m.tick iter).players.lookup s = some player' := by
      rw [← hp', ← hticked.entries]
      rfl
    refine ⟨player', hlookup, ?_⟩
    have hdamages : (((resultsSince m (m.tick iter)).filter fun r => r.defender = s).map
        (·.damage.toInt)) = (damagesOn s (m.begun.inputStage.attackHits ++
          m.begun.inputStage.skillHits)).map (·.toInt) := by
      rw [hresults, damagesOn, List.filter_map, List.map_map, List.map_map]
      rfl
    have hwound := ((hsound.begun.inputStage.1 s player hs).wounded (damagesOn_bounds hfit s)).2
    rw [hdamages, ← hwound, (Prod.mk.inj hpair).2]
    rfl
  · rw [hresults, hlogs, List.forall₂_map_left_iff, List.forall₂_map_right_iff, List.forall₂_same]
    intro hit hmem
    have hm : m.config = config := config_of_reached h
    have hconfig : m.begun.inputStage.config = config := by
      rw [inputStage_config, begun_eq]
      exact hm
    exact ⟨rfl, congrArg MapConfig.mapId hconfig, (hfit hit hmem).attacker,
      (hfit hit hmem).defender⟩

/-- Two players have entered and one attacks the other. -/
def skirmish : MapInstance :=
  { MapInstance.new ⟨1, 16⟩ with
    rx := [⟨Uuid.fill 1, none, .enterWorld⟩, ⟨Uuid.fill 2, none, .enterWorld⟩,
      ⟨Uuid.fill 1, none, .attack (Uuid.fill 2)⟩] }

lemma skirmish_reached : (mapSystem ⟨1, 16⟩).Reached skirmish := by
  have h0 : (mapSystem ⟨1, 16⟩).Reached (.new ⟨1, 16⟩) := .init rfl
  have h1 := h0.step (a := .incoming ⟨Uuid.fill 1, none, .enterWorld⟩) trivial rfl
  have h2 := h1.step (a := .incoming ⟨Uuid.fill 2, none, .enterWorld⟩) trivial rfl
  exact h2.step (a := .incoming ⟨Uuid.fill 1, none, .attack (Uuid.fill 2)⟩) trivial rfl

theorem combat_accounts_for_hp_struck :
    ∃ player, (skirmish.tick default).players.lookup (Uuid.fill 2) = some player ∧
      player.hp.toInt = 94 := by
  obtain ⟨-, hhp, -⟩ := combat_accounts_for_hp skirmish_reached default
  obtain ⟨player, hplayer, hval⟩ :=
    hhp (Uuid.fill 2) ⟨Uuid.fill 2, 100, 100, 100, 100⟩ (by decide +kernel)
  refine ⟨player, hplayer, ?_⟩
  rw [hval, ((sound_of_reached skirmish_reached).tick_reports default).1]
  decide +kernel

end MapInstance

end HelbreathBackend.MapServer
