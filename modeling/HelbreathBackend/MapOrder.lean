import HelbreathBackend.MapRun

/-!
Batches that differ only in how the commands of different sessions are interleaved.

The input of a tick is one machine for each session, and its casts are paid by one machine for
each caster; hits commute as long as no hit takes the hit points of a player below the least
`i32`. So a tick makes the same of two such batches, but for the order in which it reports.
-/

namespace HelbreathBackend.MapServer

open HelbreathBackend.Lib HelbreathBackend.Domain HelbreathBackend.Application

/-- No hit takes the player's hit points below the least `i32`. -/
def PlayerState.Sturdy (player : PlayerState) : Prop := -2147483632 ≤ player.hp.toInt

lemma wound_perm {hp : Int32} {ds ds' : List Int32} (hhp : -2147483632 ≤ hp.toInt)
    (hd : ∀ d ∈ ds, 0 ≤ d.toInt ∧ d.toInt ≤ 16) (h : ds.Perm ds') : wound hp ds = wound hp ds' := by
  rcases eq_or_ne ds [] with rfl | hne
  · rw [h.nil_eq]
  · have hne' : ds' ≠ [] := fun he => hne (by rw [he] at h; exact h.eq_nil)
    have hd' : ∀ d ∈ ds', 0 ≤ d.toInt ∧ d.toInt ≤ 16 := fun d hmem => hd d (h.mem_iff.mpr hmem)
    have hsum : (ds.map (·.toInt)).sum = (ds'.map (·.toInt)).sum := (h.map _).sum_eq
    rw [← Int32.toInt_inj, wound_toInt hhp hd hne, wound_toInt hhp hd' hne', hsum]

lemma damagesOn_perm {hits hits' : List Hit} (h : hits.Perm hits') (s : SessionId) :
    (damagesOn s hits).Perm (damagesOn s hits') := (h.filter _).map _

lemma PlayerState.Sturdy.wounded {player : PlayerState} (h : player.Sturdy) {ds : List Int32}
    (hd : ∀ d ∈ ds, 0 ≤ d.toInt ∧ d.toInt ≤ 16) : (player.wounded ds).Sturdy := by
  rcases eq_or_ne ds [] with rfl | hne
  · exact h
  · have hval : (player.wounded ds).hp.toInt = _ := wound_toInt h hd hne
    unfold Sturdy
    rw [hval]
    omega

lemma sessionStep_sturdy {mapId : MapId} {entry : Option PlayerState} {incoming : IncomingCommand}
    (h : ∀ player, entry = some player → player.Sturdy) :
    ∀ player, (sessionStep mapId entry incoming).1 = some player → player.Sturdy := by
  intro player hp
  obtain ⟨s, characterId, command⟩ := incoming
  cases command
  case enterWorld =>
    obtain rfl := Option.some.inj hp
    rcases entry with _ | old
    · have h100 : -2147483632 ≤ (100 : Int32).toInt := by decide
      exact h100
    · exact h old rfl
  case move x y run =>
    obtain ⟨old, rfl, rfl⟩ := Option.map_eq_some_iff.mp hp
    exact h old rfl
  case logout => cases hp
  all_goals exact h player hp

lemma pay_sturdy {entry : Option PlayerState} {cast : SessionId × Int32 × Option SessionId}
    (h : ∀ player, entry = some player → player.Sturdy) :
    ∀ player, (pay entry cast).1 = some player → player.Sturdy := by
  intro player hp
  rcases entry with _ | caster
  · cases hp
  unfold pay at hp
  dsimp only at hp
  split at hp
  all_goals
    obtain rfl := Option.some.inj hp
    exact h caster rfl

namespace MapInstance

/-- What is sent to a defender of whom an attack leaves nothing. -/
def fallText (fall : SessionId × Bool) : List OutboundEvent :=
  if fall.2 then [.text fall.1 "you are defeated"] else []

/-- The attacks are reported as their results and their falls, up to order. -/
lemma attackEvents_perm (resolved : List ResolvedAttack) :
    (resolved.flatMap (·.events)).Perm ((resolved.map (·.hit)).map Hit.result ++
      (resolved.map fun a => (a.defender, a.defeated)).flatMap fallText) := by
  have hevents : resolved.flatMap (·.events) =
      resolved.flatMap fun a => [a.hit.result] ++ fallText (a.defender, a.defeated) := rfl
  rw [hevents, List.map_map, List.map_eq_flatMap, List.flatMap_map]
  exact (List.flatMap_append_perm resolved _ _).symm

/-- Two instances after the input of a tick that differ only in the order of what is queued. -/
structure Alike (c c' : MapInstance) : Prop where
  config : c.config = c'.config
  tickIndex : c.tickIndex = c'.tickIndex
  entries : c.entry = c'.entry
  outboundTx : c.outboundTx.Perm c'.outboundTx
  persistTx : c.persistTx.Perm c'.persistTx
  scheduled : ∀ t, Option.Rel List.Perm (c.scheduled.lookup t) (c'.scheduled.lookup t)
  attacks : c.pendingAttacks.Perm c'.pendingAttacks
  casts : SameOrder Prod.fst c.pendingSkillCasts c'.pendingSkillCasts
  inventory : c.pendingInventoryChanges.Perm c'.pendingInventoryChanges

namespace Alike

variable {c c' : MapInstance} (h : Alike c c')

include h

lemma ids : c.ids = c'.ids := by
  funext s
  rw [MapInstance.ids, MapInstance.ids, h.entries]

lemma players : c.players = c'.players :=
  Finmap.ext_lookup fun s => congrFun h.entries s

lemma attackHits : c.attackHits.Perm c'.attackHits := by
  rw [MapInstance.attackHits, MapInstance.attackHits, h.ids, h.tickIndex]
  exact h.attacks.filterMap _

variable (hsturdy : ∀ s player, c.entry s = some player → player.Sturdy)

include hsturdy

/-- The attacks hurt everybody alike. -/
lemma hurt : c.hurt = c'.hurt := by
  funext s
  rw [MapInstance.hurt, MapInstance.hurt, ← h.entries]
  refine Option.map_congr fun player hp => ?_
  have hw := wound_perm (hsturdy s player hp) (damagesOn_bounds (attackHits_fit c) s)
    (damagesOn_perm h.attackHits s)
  rw [PlayerState.wounded, PlayerState.wounded, hw]

lemma payments : SameOrder Prod.fst c.payments c'.payments := by
  rw [MapInstance.payments, MapInstance.payments, h.hurt hsturdy]
  exact h.casts.outputsAll c'.hurt

lemma paid : c.paid = c'.paid := by
  funext s
  rw [MapInstance.paid, MapInstance.paid, h.hurt hsturdy, h.casts.finalAll]

lemma skills : c.skills.Perm c'.skills := (h.payments hsturdy).perm.filterMap _

lemma skillHits : c.skillHits.Perm c'.skillHits := by
  rw [MapInstance.skillHits, MapInstance.skillHits, h.ids]
  exact (h.skills hsturdy).filterMap _

/-- **The combat leaves everybody alike.** -/
theorem survived : c.survived = c'.survived := by
  funext s
  rw [MapInstance.survived, MapInstance.survived, ← h.paid hsturdy]
  refine Option.map_congr fun player hp => ?_
  have hhurt : ∀ s player, c.hurt s = some player → player.Sturdy := by
    intro s player hp
    obtain ⟨old, ho, rfl⟩ := Option.map_eq_some_iff.mp hp
    exact (hsturdy s old ho).wounded (damagesOn_bounds (attackHits_fit c) s)
  have hplayer : player.Sturdy :=
    finalAll_some hhurt pay_sturdy c.pendingSkillCasts s player hp
  have hw := wound_perm hplayer (damagesOn_bounds (skillHits_fit c) s)
    (damagesOn_perm (h.skillHits hsturdy) s)
  rw [PlayerState.wounded, PlayerState.wounded, hw]

lemma combatEvents {resolved resolved' : List ResolvedAttack} (hr : c.IsResolved resolved)
    (hr' : c'.IsResolved resolved') :
    (c.combatEvents resolved).Perm (c'.combatEvents resolved') := by
  have hhits : (resolved.map (·.hit)).Perm (resolved'.map (·.hit)) := by
    rw [hr.hits, hr'.hits]
    exact h.attackHits
  have hfalls : (resolved.map fun a => (a.defender, a.defeated)).Perm
      (resolved'.map fun a => (a.defender, a.defeated)) := by
    rw [hr.falls, hr'.falls, h.players, h.tickIndex]
    exact ((sameOrder_of_perm (h.attackHits.map _)).outputsAll _).perm
  have hattacks := (attackEvents_perm resolved).trans (((hhits.map Hit.result).append
    (hfalls.flatMap_right fallText)).trans (attackEvents_perm resolved').symm)
  have htold : (c.payments.flatMap fun p => p.2.told p.1).Perm
      (c'.payments.flatMap fun p => p.2.told p.1) :=
    (h.payments hsturdy).perm.flatMap_right _
  have hskills : (c.skills.flatMap (skillEvents c.ids)).Perm
      (c'.skills.flatMap (skillEvents c'.ids)) := by
    rw [h.ids]
    exact (h.skills hsturdy).flatMap_right _
  exact hattacks.append (htold.append hskills)

/-- **The systems after the input** make the same of the two. -/
theorem ticked {iter : Iteration} {r r' : MapInstance} {resolved resolved' : List ResolvedAttack}
    (hr : Ticked iter c r resolved) (hr' : Ticked iter c' r' resolved') :
    r.players = r'.players ∧ r.outboundTx.Perm r'.outboundTx ∧ r.persistTx.Perm r'.persistTx := by
  have hplayers : r.players = r'.players := by
    refine Finmap.ext_lookup fun s => ?_
    have hs : r.entry s = r'.entry s := by
      rw [hr.entries, hr'.entries, h.survived hsturdy]
    exact hs
  refine ⟨hplayers, ?_, ?_⟩
  · rw [hr.eq, hr'.eq]
    dsimp only
    rw [hplayers, h.players, h.tickIndex]
    exact (((h.outboundTx.append_right _).append (h.combatEvents hsturdy hr.attacks
      hr'.attacks)).append_right _).append_right _
  · rw [hr.eq, hr'.eq]
    dsimp only
    have hinventory : c.inventoryOps.Perm c'.inventoryOps := by
      rw [inventoryOps, inventoryOps, h.config]
      exact h.inventory.map _
    rw [h.config]
    exact (h.persistTx.append ((h.attackHits.append (h.skillHits hsturdy)).map _)).append hinventory

end Alike

/-! ### The input of two batches -/

lemma scheduleAll_lookup (f : FMap UInt64 (List ScheduledEvent)) (t x : UInt64)
    (events : List OutboundEvent) :
    (scheduleAll f t events).lookup x =
      if x = t ∧ events ≠ [] then some ((f.lookup t).getD [] ++ events.map (⟨t, ·⟩))
      else f.lookup x := by
  induction events generalizing f with
  | nil => rw [if_neg (by simp)]; rfl
  | cons event events ih =>
    have hcons : scheduleAll f t (event :: events) =
        scheduleAll (f.insert t ((f.lookup t).getD [] ++ [⟨t, event⟩])) t events := rfl
    rw [hcons, ih, FMap.lookup_insert_eq, FMap.lookup_insert_eq, if_pos rfl]
    by_cases hx : x = t
    · rcases events with _ | ⟨event', events⟩ <;> simp [hx]
    · simp [hx]

lemma scheduleAll_perm {f : FMap UInt64 (List ScheduledEvent)} {t : UInt64}
    {events events' : List OutboundEvent} (h : events.Perm events') (x : UInt64) :
    Option.Rel List.Perm ((scheduleAll f t events).lookup x)
      ((scheduleAll f t events').lookup x) := by
  have hrefl : ∀ o : Option (List ScheduledEvent), Option.Rel List.Perm o o := by
    rintro (_ | l)
    · exact .none
    · exact .some (List.Perm.refl l)
  have hne : events ≠ [] ↔ events' ≠ [] := by
    rw [ne_eq, ne_eq, ← List.length_eq_zero_iff, ← List.length_eq_zero_iff, h.length_eq]
  rw [scheduleAll_lookup, scheduleAll_lookup]
  by_cases hx : x = t ∧ events ≠ []
  · rw [if_pos hx, if_pos ⟨hx.1, hne.mp hx.2⟩]
    exact .some ((h.map _).append_left _)
  · rw [if_neg hx, if_neg fun hx' => hx ⟨hx'.1, hne.mpr hx'.2⟩]
    exact hrefl _

/-- What an instance sends and schedules depends on its pending commands through the input. -/
lemma opened_pendingCommands (m : MapInstance) (commands : List IncomingCommand) :
    ({ m with pendingCommands := commands } : MapInstance).opened = m.opened := by
  simp only [opened, processScheduledEvents]
  split <;> rfl

/-- **The input of interleaved batches** leaves instances that are alike. -/
theorem alike_of_sameOrder (m : MapInstance) {commands commands' : List IncomingCommand}
    (h : SameOrder IncomingCommand.sessionId commands commands') :
    Alike ({ m with pendingCommands := commands } : MapInstance).inputStage
      ({ m with pendingCommands := commands' } : MapInstance).inputStage := by
  have htook := took_inputStage { m with pendingCommands := commands }
  have htook' := took_inputStage { m with pendingCommands := commands' }
  have hout : SameOrder Prod.fst
      (outputsAll IncomingCommand.sessionId (sessionStep m.config.mapId) m.entry commands)
      (outputsAll IncomingCommand.sessionId (sessionStep m.config.mapId) m.entry commands') :=
    h.outputsAll m.entry
  rw [opened_pendingCommands] at htook htook'
  exact {
    config := htook.config.trans htook'.config.symm
    tickIndex := htook.tickIndex.trans htook'.tickIndex.symm
    entries := by
      rw [htook.entries, htook'.entries]
      exact h.finalAll m.entry
    outboundTx := by
      rw [htook.outboundTx, htook'.outboundTx]
      exact (hout.perm.flatMap_right _).append_left _
    persistTx := by
      rw [htook.persistTx, htook'.persistTx]
      exact (hout.perm.flatMap_right _).append_left _
    scheduled := by
      rw [htook.scheduled, htook'.scheduled]
      exact scheduleAll_perm (hout.perm.flatMap_right _)
    attacks := by
      rw [htook.pendingAttacks, htook'.pendingAttacks]
      exact (hout.perm.flatMap_right _).append_left _
    casts := by
      rw [htook.pendingSkillCasts, htook'.pendingSkillCasts]
      refine (SameOrder.refl _ _).append (hout.flatMap fun e x hx => ?_)
      obtain ⟨y, -, rfl⟩ := List.mem_map.mp hx
      rfl
    inventory := by
      rw [htook.pendingInventoryChanges, htook'.pendingInventoryChanges]
      exact (hout.perm.flatMap_right _).append_left _ }

/-! ### What each session writes -/

/-- What the commands of a batch persist, each operation with the session of its command. -/
def positionTrace : MapInstance → List IncomingCommand → List (SessionId × PersistOp)
  | _, [] => []
  | m, incoming :: rest =>
    (((m.inputCommand incoming).persistTx.drop m.persistTx.length).map (incoming.sessionId, ·)) ++
      positionTrace (m.inputCommand incoming) rest

/-- The changes of inventory the commands of a batch ask for, each as the operation it becomes
and with the session of its command. -/
def inventoryTrace : MapInstance → List IncomingCommand → List (SessionId × PersistOp)
  | _, [] => []
  | m, incoming :: rest =>
    (((m.inputCommand incoming).pendingInventoryChanges.drop
        m.pendingInventoryChanges.length).map fun change =>
      (incoming.sessionId, .saveInventoryChange change.1 m.config.mapId change.2)) ++
        inventoryTrace (m.inputCommand incoming) rest

lemma positionTrace_eq (m : MapInstance) (commands : List IncomingCommand) :
    positionTrace m commands =
      (outputsAll IncomingCommand.sessionId (sessionStep m.config.mapId) m.entry commands).flatMap
        fun e => e.2.persist.map (e.1, ·) := by
  induction commands generalizing m with
  | nil => rfl
  | cons incoming rest ih =>
    have hone := took_inputCommand m incoming
    have hrest := ih (m.inputCommand incoming)
    rw [hone.entries, hone.config] at hrest
    rw [positionTrace, hrest, hone.persistTx, List.drop_left, outputsAll, List.flatMap_cons]
    simp

lemma inventoryTrace_eq (m : MapInstance) (commands : List IncomingCommand) :
    inventoryTrace m commands =
      (outputsAll IncomingCommand.sessionId (sessionStep m.config.mapId) m.entry commands).flatMap
        fun e => e.2.inventory.map fun change =>
          (e.1, .saveInventoryChange change.1 m.config.mapId change.2) := by
  induction commands generalizing m with
  | nil => rfl
  | cons incoming rest ih =>
    have hone := took_inputCommand m incoming
    have hrest := ih (m.inputCommand incoming)
    rw [hone.entries, hone.config] at hrest
    rw [inventoryTrace, hrest, hone.pendingInventoryChanges, List.drop_left, outputsAll,
      List.flatMap_cons]
    simp

/-- The operations a tick has written since `m`: the positions of its batch, the combat, the
inventory changes that were pending, and those of its batch. -/
def Written (m : MapInstance) (commands : List IncomingCommand) (r : MapInstance) : Prop :=
  ∃ logs : List PersistOp, (∀ op ∈ logs, op.combatLog?.isSome) ∧
    r.persistTx = m.persistTx ++ (positionTrace m commands).map (·.2) ++ logs ++
      (m.inventoryOps ++ (inventoryTrace m commands).map (·.2))

lemma written_processTick (m : MapInstance) (iter : Iteration) (commands : List IncomingCommand) :
    Written m commands
      (({ m with pendingCommands := commands } : MapInstance).processTick iter) := by
  have htook := took_inputStage { m with pendingCommands := commands }
  obtain ⟨resolved, hticked⟩ := processTick_ticked { m with pendingCommands := commands } iter
  rw [opened_pendingCommands] at htook
  have hopened : m.opened.persistTx = m.persistTx ∧ m.opened.config = m.config ∧
      m.opened.pendingInventoryChanges = m.pendingInventoryChanges := by
    rw [opened_eq]
    exact ⟨rfl, rfl, rfl⟩
  rw [Written, hticked.eq]
  dsimp only
  generalize ({ m with pendingCommands := commands } : MapInstance).inputStage = c at htook
  refine ⟨(c.attackHits ++ c.skillHits).map (·.log c.config.mapId), fun op hop => ?_, ?_⟩
  · obtain ⟨hit, -, rfl⟩ := List.mem_map.mp hop
    rfl
  · rw [htook.persistTx, hopened.1, inventoryOps, inventoryOps, htook.pendingInventoryChanges,
      htook.config, hopened.2.1, hopened.2.2, positionTrace_eq, inventoryTrace_eq]
    simp only [List.map_append, List.map_flatMap, List.map_map, Function.comp_def, List.map_id']
    rfl

/-- **The order of arrival between sessions does not matter.** Two batches in which every
session's own commands are the same, in the same order, lead a tick to the same players, the
same events and operations up to order, and, session by session, to the same positions and
inventory changes in the same order. -/
theorem interleaving_irrelevant (m : MapInstance) (iter : Iteration)
    {commands commands' : List IncomingCommand}
    (hsturdy : ∀ s player, m.players.lookup s = some player → player.Sturdy)
    (h : SameOrder IncomingCommand.sessionId commands commands') :
    let r := ({ m with pendingCommands := commands } : MapInstance).processTick iter
    let r' := ({ m with pendingCommands := commands' } : MapInstance).processTick iter
    r.players = r'.players ∧
    (∀ t, Option.Rel List.Perm (r.scheduled.lookup t) (r'.scheduled.lookup t)) ∧
    r.outboundTx.Perm r'.outboundTx ∧ r.persistTx.Perm r'.persistTx ∧
    Written m commands r ∧ Written m commands' r' ∧
    SameOrder Prod.fst (positionTrace m commands) (positionTrace m commands') ∧
    SameOrder Prod.fst (inventoryTrace m commands) (inventoryTrace m commands') := by
  have halike := alike_of_sameOrder m h
  obtain ⟨resolved, hr⟩ := processTick_ticked { m with pendingCommands := commands } iter
  obtain ⟨resolved', hr'⟩ := processTick_ticked { m with pendingCommands := commands' } iter
  have hinput : ∀ s player, ({ m with pendingCommands := commands } : MapInstance).inputStage.entry
      s = some player → player.Sturdy := by
    rw [(took_inputStage { m with pendingCommands := commands }).entries]
    exact finalAll_some hsturdy sessionStep_sturdy commands
  have hout : SameOrder Prod.fst
      (outputsAll IncomingCommand.sessionId (sessionStep m.config.mapId) m.entry commands)
      (outputsAll IncomingCommand.sessionId (sessionStep m.config.mapId) m.entry commands') :=
    h.outputsAll m.entry
  obtain ⟨hplayers, houtbound, hpersist⟩ := halike.ticked hinput hr hr'
  refine ⟨hplayers, fun t => ?_, houtbound, hpersist, written_processTick m iter commands,
    written_processTick m iter commands', ?_, ?_⟩
  · rw [hr.eq, hr'.eq]
    exact halike.scheduled t
  · rw [positionTrace_eq, positionTrace_eq]
    refine hout.flatMap fun e x hx => ?_
    obtain ⟨y, -, rfl⟩ := List.mem_map.mp hx
    rfl
  · rw [inventoryTrace_eq, inventoryTrace_eq]
    refine hout.flatMap fun e x hx => ?_
    obtain ⟨y, -, rfl⟩ := List.mem_map.mp hx
    rfl

/-- Every instance a run reaches has sturdy players. -/
lemma sturdy_of_reached {config : MapConfig} {m : MapInstance}
    (h : (mapSystem config).Reached m) :
    ∀ s player, m.players.lookup s = some player → player.Sturdy := by
  intro s player hs
  have hhp := ((sound_of_reached h).healthy s player hs).hp_nonneg
  unfold PlayerState.Sturdy
  omega

/-- Two commands of different sessions may change places. -/
lemma sameOrder_swap {a b : IncomingCommand} (h : a.sessionId ≠ b.sessionId) :
    SameOrder IncomingCommand.sessionId [a, b] [b, a] := by
  intro k
  by_cases ha : a.sessionId = k
  · have hb : b.sessionId ≠ k := fun hb => h (ha.trans hb.symm)
    simp [ha, hb]
  · by_cases hb : b.sessionId = k <;> simp [ha, hb]

/-- Two players on a map, one of them wounded. -/
def duel : MapInstance :=
  { MapInstance.new ⟨1, 16⟩ with
    players := ((∅ : Players).insert (Uuid.fill 1) ⟨Uuid.fill 1, 100, 100, 40, 100⟩).insert
      (Uuid.fill 2) ⟨Uuid.fill 2, 100, 100, 100, 100⟩ }

lemma sturdy_duel (s : SessionId) (player : PlayerState) (h : duel.players.lookup s = some player) :
    player.Sturdy := by
  rcases FMap.lookup_insert_cases h with ⟨-, rfl⟩ | ⟨-, h⟩
  · exact (by decide : -2147483632 ≤ (100 : Int32).toInt)
  · rcases FMap.lookup_insert_cases h with ⟨-, rfl⟩ | ⟨-, h⟩
    · exact (by decide : -2147483632 ≤ (40 : Int32).toInt)
    · cases h

/-- Each of the two strikes the other. -/
theorem interleaving_irrelevant_skirmish :
    let commands : List IncomingCommand :=
      [⟨Uuid.fill 1, none, .castSkill 7 (some (Uuid.fill 2))⟩,
        ⟨Uuid.fill 2, none, .attack (Uuid.fill 1)⟩]
    let r := ({ duel with pendingCommands := commands } : MapInstance).processTick default
    let r' := ({ duel with pendingCommands := commands.reverse } : MapInstance).processTick default
    r.players = r'.players ∧ r.outboundTx.Perm r'.outboundTx ∧ r.persistTx.Perm r'.persistTx := by
  have h := interleaving_irrelevant duel default sturdy_duel
    (sameOrder_swap (a := ⟨Uuid.fill 1, none, .castSkill 7 (some (Uuid.fill 2))⟩)
      (b := ⟨Uuid.fill 2, none, .attack (Uuid.fill 1)⟩) (by decide))
  exact ⟨h.1, h.2.2.1, h.2.2.2.1⟩

/-- Two casters next to a player whose hit points are almost the least `i32`. -/
def brink : MapInstance :=
  let full (b : UInt8) : PlayerState := ⟨Uuid.fill b, 100, 100, 100, 100⟩
  { MapInstance.new ⟨1, 16⟩ with
    players := (((∅ : Players).insert (Uuid.fill 1) (full 1)).insert (Uuid.fill 2) (full 2)).insert
      (Uuid.fill 3) { full 3 with hp := -2147483636 } }

def firstSkill : IncomingCommand := ⟨Uuid.fill 1, none, .castSkill 7 (some (Uuid.fill 3))⟩

def secondSkill : IncomingCommand := ⟨Uuid.fill 2, none, .castSkill 6 (some (Uuid.fill 3))⟩

/-- In a state no run reaches the order matters: one hit leaves nothing, the other wraps. -/
theorem order_matters_on_the_brink :
    SameOrder IncomingCommand.sessionId [firstSkill, secondSkill] [secondSkill, firstSkill] ∧
    ∀ iter, (({ brink with pendingCommands := [firstSkill, secondSkill] } :
      MapInstance).processTick iter).players ≠
        (({ brink with pendingCommands := [secondSkill, firstSkill] } :
          MapInstance).processTick iter).players := by
  refine ⟨sameOrder_swap (by decide), fun iter he => ?_⟩
  obtain ⟨resolved, hr⟩ :=
    processTick_ticked { brink with pendingCommands := [firstSkill, secondSkill] } iter
  obtain ⟨resolved', hr'⟩ :=
    processTick_ticked { brink with pendingCommands := [secondSkill, firstSkill] } iter
  have hentry := congrArg (fun players : Players => players.lookup (Uuid.fill 3)) he
  have hs := congrFun hr.entries (Uuid.fill 3)
  have hs' := congrFun hr'.entries (Uuid.fill 3)
  have hne : ({ brink with pendingCommands := [firstSkill, secondSkill] } :
      MapInstance).inputStage.survived (Uuid.fill 3) ≠
        ({ brink with pendingCommands := [secondSkill, firstSkill] } :
          MapInstance).inputStage.survived (Uuid.fill 3) := by decide +kernel
  exact hne (hs.symm.trans (hentry.trans hs'))

end MapInstance

end HelbreathBackend.MapServer
