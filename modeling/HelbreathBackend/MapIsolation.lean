import HelbreathBackend.MapOrder
import HelbreathBackend.MapOverflow

/-!
What the commands of the others can do to a player.

The input of a tick runs one machine for each session, and the casts are paid by one machine for
each caster; what a session's own commands make of its entry is the same whatever else is in the
batch. The others reach the entry through the hits alone, and a hit takes hit points.
-/

namespace HelbreathBackend.MapServer

open HelbreathBackend.Lib HelbreathBackend.Domain HelbreathBackend.Application

lemma pay_wounded (entry : Option PlayerState) (ds : List Int32)
    (cast : SessionId × Int32 × Option SessionId) :
    (pay (entry.map (·.wounded ds)) cast).1 = (pay entry cast).1.map (·.wounded ds) := by
  rcases entry with _ | caster
  · rfl
  have hmp : (caster.wounded ds).mp = caster.mp := rfl
  by_cases hlow : caster.mp < 10
  · simp only [pay, Option.map_some, hmp, if_pos hlow]
  · simp only [pay, Option.map_some, hmp, if_neg hlow]
    rfl

lemma final_pay_wounded (entry : Option PlayerState) (ds : List Int32)
    (casts : List (SessionId × Int32 × Option SessionId)) :
    final pay (entry.map (·.wounded ds)) casts = (final pay entry casts).map (·.wounded ds) := by
  induction casts generalizing entry with
  | nil => rfl
  | cons cast casts ih =>
    have hcons : ∀ e : Option PlayerState,
        final pay e (cast :: casts) = final pay (pay e cast).1 casts := fun _ => rfl
    rw [hcons, hcons, pay_wounded, ih]

namespace MapInstance

/-- The commands of a session. -/
def commandsOf (s : SessionId) (commands : List IncomingCommand) : List IncomingCommand :=
  commands.filter fun c => c.sessionId = s

/-- What the commands of a session make of its entry, with its casts paid and nobody hit. -/
def alone (m : MapInstance) (s : SessionId) (own : List IncomingCommand) : Option PlayerState :=
  final pay (final (sessionStep m.config.mapId) (m.entry s) own)
    ((m.pendingSkillCasts.filter fun c => c.1 = s) ++ own.filterMap castOf)

/-- The damages of the combat results on a session that the tick from `m` to `r` has sent. The
events that were scheduled for the tick are none of its combat. -/
def damagesTo (s : SessionId) (m r : MapInstance) : List Int32 :=
  ((resultsSince m.processScheduledEvents r).filter fun e => e.defender = s).map (·.damage)

variable (m : MapInstance) (s : SessionId) (commands : List IncomingCommand)

lemma castOf_sessionId {incoming : IncomingCommand}
    {cast : SessionId × Int32 × Option SessionId} (h : castOf incoming = some cast) :
    cast.1 = incoming.sessionId := by
  unfold castOf at h
  split at h
  · obtain rfl := Option.some.inj h
    rfl
  · cases h

lemma casts_commandsOf :
    (commands.filterMap castOf).filter (fun c => c.1 = s) =
      (commandsOf s commands).filterMap castOf := by
  rw [commandsOf, List.filter_filterMap, List.filterMap_filter]
  refine List.filterMap_congr fun incoming _ => ?_
  rcases hc : castOf incoming with _ | cast
  · by_cases hs : incoming.sessionId = s <;> simp [hs]
  · have hid := castOf_sessionId hc
    by_cases hs : incoming.sessionId = s <;> simp [hs, hid]

lemma survived_wounded (c : MapInstance) :
    c.survived s =
      (final pay (c.entry s) (c.pendingSkillCasts.filter fun cast => cast.1 = s)).map
        (·.wounded (damagesOn s (c.attackHits ++ c.skillHits))) := by
  rw [survived, paid, finalAll_apply, hurt, final_pay_wounded, Option.map_map, damagesOn_append]
  congr 1
  funext player
  exact player.wounded_wounded _ _

lemma inputStage_own :
    let c := ({ m with pendingCommands := commands } : MapInstance).inputStage
    c.entry s = final (sessionStep m.config.mapId) (m.entry s) (commandsOf s commands) ∧
      c.pendingSkillCasts.filter (fun cast => cast.1 = s) =
        (m.pendingSkillCasts.filter fun cast => cast.1 = s) ++
          (commandsOf s commands).filterMap castOf := by
  have htook := took_inputStage { m with pendingCommands := commands }
  rw [opened_pendingCommands] at htook
  have hopened : m.opened.pendingSkillCasts = m.pendingSkillCasts := by rw [opened_eq]
  constructor
  · rw [htook.entries, finalAll_apply]
    rfl
  · rw [htook.pendingSkillCasts, hopened, casts_outputsAll, List.filter_append, casts_commandsOf]

lemma damagesTo_processTick (iter : Iteration) :
    let b : MapInstance := { m with pendingCommands := commands }
    damagesTo s b (b.processTick iter) =
      damagesOn s (b.inputStage.attackHits ++ b.inputStage.skillHits) := by
  intro b
  have hresults : resultsSince b.processScheduledEvents (b.processTick iter) =
      (b.inputStage.attackHits ++ b.inputStage.skillHits).map (·.combatResult) :=
    processTick_reports b iter
  rw [damagesTo, hresults, damagesOn, List.filter_map, List.map_map]
  rfl

/-- **A tick, for one session**: what the session does by itself, and the damages of the combat
results on it. -/
theorem processTick_lookup (iter : Iteration) :
    let b : MapInstance := { m with pendingCommands := commands }
    (b.processTick iter).players.lookup s =
      (m.alone s (commandsOf s commands)).map (·.wounded (damagesTo s b (b.processTick iter))) := by
  intro b
  obtain ⟨resolved, hticked⟩ := processTick_ticked b iter
  obtain ⟨hentry, hcasts⟩ := inputStage_own m s commands
  have hkept : (b.processTick iter).players.lookup s = b.inputStage.survived s :=
    congrFun hticked.entries s
  have hdamages := damagesTo_processTick m s commands iter
  rw [hkept, survived_wounded, hentry, hcasts, hdamages]
  rfl

lemma map_wounded_agree {unhurt e e' : Option PlayerState} {ds ds' : List Int32}
    (h : e = unhurt.map (·.wounded ds)) (h' : e' = unhurt.map (·.wounded ds')) :
    e.isSome = e'.isSome ∧ ∀ player player', e = some player → e' = some player' →
      player.x = player'.x ∧ player.y = player'.y ∧ player.mp = player'.mp ∧
      player.characterId = player'.characterId ∧
      ∃ p, unhurt = some p ∧ player.hp = wound p.hp ds ∧ player'.hp = wound p.hp ds' := by
  refine ⟨by rw [h, h', Option.isSome_map, Option.isSome_map], fun player player' hp hp' => ?_⟩
  rw [h] at hp
  rw [h'] at hp'
  obtain ⟨p, hunhurt, rfl⟩ := Option.map_eq_some_iff.mp hp
  obtain ⟨p', hunhurt', rfl⟩ := Option.map_eq_some_iff.mp hp'
  obtain rfl := Option.some.inj (hunhurt.symm.trans hunhurt')
  exact ⟨rfl, rfl, rfl, rfl, p, hunhurt, rfl, rfl⟩

/-- **The others can only wound.** Two batches with the same commands of a session, in the same
order, and whatever commands of the others, leave the session on the map or not alike, at the same
place, with the same mana and the same character; and its hit points are, in both, the same hit
points with the damages of the combat results on the session taken off. -/
theorem others_only_wound {commands commands' : List IncomingCommand}
    (h : commandsOf s commands = commandsOf s commands') (iter iter' : Iteration) :
    let b : MapInstance := { m with pendingCommands := commands }
    let b' : MapInstance := { m with pendingCommands := commands' }
    let r := b.processTick iter
    let r' := b'.processTick iter'
    (r.players.lookup s).isSome = (r'.players.lookup s).isSome ∧
    ∀ player player', r.players.lookup s = some player → r'.players.lookup s = some player' →
      player.x = player'.x ∧ player.y = player'.y ∧ player.mp = player'.mp ∧
      player.characterId = player'.characterId ∧
      ∃ unhurt, m.alone s (commandsOf s commands) = some unhurt ∧
        player.hp = wound unhurt.hp (damagesTo s b r) ∧
        player'.hp = wound unhurt.hp (damagesTo s b' r') := by
  have hr := processTick_lookup m s commands iter
  have hr' := processTick_lookup m s commands' iter'
  rw [← h] at hr'
  exact map_wounded_agree hr hr'

/-- A session enters and moves; in the second batch another one enters too and attacks it. -/
theorem others_only_wound_attacked :
    let own : List IncomingCommand :=
      [⟨.fill 1, some (.fill 11), .enterWorld⟩, ⟨.fill 1, some (.fill 11), .move 7 8 true⟩]
    let others : List IncomingCommand :=
      [⟨.fill 2, none, .enterWorld⟩, ⟨.fill 2, none, .attack (.fill 1)⟩]
    let b : MapInstance := { MapInstance.new ⟨1, 16⟩ with pendingCommands := own ++ others }
    ∃ player', (b.processTick default).players.lookup (.fill 1) = some player' ∧
      player'.x = 7 ∧ player'.hp = 95 ∧ player'.characterId = .fill 11 := by
  intro own others b
  have hown : commandsOf (.fill 1) own = commandsOf (.fill 1) (own ++ others) := by decide
  have h := others_only_wound (.new ⟨1, 16⟩) (.fill 1) hown default default
  obtain ⟨hpresent, hsame⟩ := h
  have hr : (({ MapInstance.new ⟨1, 16⟩ with pendingCommands := own } :
      MapInstance).processTick default).players.lookup (.fill 1) =
        some ⟨.fill 11, 7, 8, 100, 100⟩ := by
    rw [processTick_lookup, damagesTo_processTick]
    decide +kernel
  rw [hr] at hpresent
  obtain ⟨player', hr'⟩ := Option.isSome_iff_exists.mp hpresent.symm
  obtain ⟨hx, -, -, hid, unhurt, hunhurt, -, hhp⟩ := hsame _ player' hr hr'
  have hunhurt' : (MapInstance.new ⟨1, 16⟩).alone (.fill 1) (commandsOf (.fill 1) own) =
      some ⟨.fill 11, 7, 8, 100, 100⟩ := by decide +kernel
  obtain rfl := Option.some.inj (hunhurt.symm.trans hunhurt')
  refine ⟨player', hr', hx.symm, ?_, hid.symm⟩
  rw [hhp, damagesTo_processTick]
  decide +kernel

end MapInstance

end HelbreathBackend.MapServer
