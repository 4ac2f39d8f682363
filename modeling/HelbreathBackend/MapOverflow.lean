import HelbreathBackend.MapRun
import HelbreathBackend.Translate
import HelbreathBackend.Lib.Checked

/-!
The signed arithmetic of a tick.

The signed operations of a tick are those of the combat. Built with overflow checks the source
stops at an operation that overflows, and built without them it goes on with the wrapped
result; the checked combat is the first, and the combat of the model the second.
-/

namespace HelbreathBackend.MapServer

open HelbreathBackend.Lib HelbreathBackend.Domain HelbreathBackend.Application

namespace MapInstance

/-! ### The combat with checked arithmetic -/

def resolveAttackChecked (tickIndex : UInt64) (s : Players × List ResolvedAttack)
    (attack : SessionId × SessionId) : Option (Players × List ResolvedAttack) :=
  let (attacker, defender) := attack
  match s.1.lookup attacker, s.1.lookup defender with
  | some attackerState, some defenderState => do
    let base : Int32 := 5
    let variance : Int32 := (tickIndex % 4).toUInt32.toInt32
    let damage ← checkedAdd base variance
    let hp := max (← checkedSub defenderState.hp damage) 0
    some (s.1.insert defender { defenderState with hp := hp },
      s.2 ++ [⟨attacker, defender, attackerState.characterId, defenderState.characterId, damage,
        hp == 0⟩])
  | _, _ => some s

def resolveCastChecked (s : MapInstance × List ResolvedSkill)
    (cast : SessionId × Int32 × Option SessionId) : Option (MapInstance × List ResolvedSkill) :=
  let (caster, skillId, targetId) := cast
  match s.1.players.lookup caster with
  | none => some s
  | some casterState =>
    if casterState.mp < 10 then some (s.1.send (.text caster "not enough mana"), s.2)
    else do
      let mp ← checkedSub casterState.mp 10
      some ({ s.1 with players := s.1.players.insert caster { casterState with mp := mp } },
        s.2 ++ [⟨caster, casterState.characterId, skillId, targetId⟩])

variable (m : MapInstance)

def applySkillChecked (skill : ResolvedSkill) : Option MapInstance :=
  match skill.targetId with
  | some target =>
    match m.players.lookup target with
    | some targetState => do
      let damage ← checkedAdd 10 (← checkedRem (← checkedAbs skill.skillId) 7)
      let hp := max (← checkedSub targetState.hp damage) 0
      let m := { m with players := m.players.insert target { targetState with hp := hp } }
      let m := m.send (.combatResult skill.caster target damage)
      some (m.persist
        (.saveCombatLog skill.casterCharacterId targetState.characterId m.config.mapId damage))
    | none => some m
  | none => some (m.send (.text skill.caster ("skill_cast:" ++ toString skill.skillId.toInt)))

def resolveAttacksChecked : Option MapInstance := do
  let r ← m.pendingAttacks.foldlM (resolveAttackChecked m.tickIndex) (m.players, [])
  some (r.2.foldl reportAttack { m with players := r.1, pendingAttacks := [] })

def resolveSkillsChecked : Option MapInstance := do
  let r ← m.pendingSkillCasts.foldlM resolveCastChecked ({ m with pendingSkillCasts := [] }, [])
  r.2.foldlM applySkillChecked r.1

def systemCombatChecked : Option MapInstance := do (← m.resolveAttacksChecked).resolveSkillsChecked

def processTickChecked (iter : Iteration) : Option MapInstance := do
  let m := m.processScheduledEvents
  let m := { m with pendingCommands := [] }.systemInput m.pendingCommands
  let m := m.systemMovement iter
  let m ← m.systemCombatChecked
  let m := m.systemAi iter
  let m := m.systemAoi iter
  some m.systemInventory

/-- A round of the loop of `MapInstance::run`, built with overflow checks. -/
def tickChecked (iter : Iteration) : Option MapInstance :=
  processTickChecked (drainIncomingQueue { m with tickIndex := m.tickIndex + 1 }) iter

/-! ### No overflow but at the least skill id -/

/-- All players in a map of players are healthy. -/
def AllHealthy (players : Players) : Prop := ∀ x p, players.lookup x = some p → p.Healthy

lemma AllHealthy.sub_damage {players : Players} (h : AllHealthy players) {s : SessionId}
    {player : PlayerState} (hs : players.lookup s = some player) {damage : Int32}
    (hd : 0 ≤ damage.toInt ∧ damage.toInt ≤ 16) :
    checkedSub player.hp damage = some (player.hp - damage) := by
  have hhp := (h s player hs).hp_nonneg
  exact checkedSub_eq_some (toInt_sub_damage (by omega) hd)

lemma AllHealthy.strike {players : Players} (h : AllHealthy players) {s : SessionId}
    {player : PlayerState} (hs : players.lookup s = some player) {damage : Int32}
    (hd : 0 ≤ damage.toInt ∧ damage.toInt ≤ 16) :
    AllHealthy (players.insert s { player with hp := max (player.hp - damage) 0 }) := by
  intro x p hp
  rw [lookup_strike hs] at hp
  obtain ⟨old, hold, rfl⟩ := Option.map_eq_some_iff.mp hp
  refine ((h x old hold).wounded fun d hmem => ?_).1
  split at hmem
  · rwa [List.mem_singleton.mp hmem]
  · cases hmem

lemma resolveAttackChecked_eq {t : UInt64} {s : Players × List ResolvedAttack}
    (h : AllHealthy s.1) (attack : SessionId × SessionId) :
    resolveAttackChecked t s attack = some (resolveAttack t s attack) := by
  obtain ⟨attacker, defender⟩ := attack
  have hmem := attackDamage_mem t
  have hadd : checkedAdd 5 (t % 4).toUInt32.toInt32 = some (attackDamage t) :=
    checkedAdd_eq_some (attackDamage_toInt t)
  rcases ha : s.1.lookup attacker with _ | attackerState
  · simp only [resolveAttackChecked, resolveAttack, ha]
  rcases hd : s.1.lookup defender with _ | defenderState
  · simp only [resolveAttackChecked, resolveAttack, ha, hd]
  · have hsub : checkedSub defenderState.hp (attackDamage t) = some _ :=
      h.sub_damage hd (by omega)
    simp only [resolveAttackChecked, resolveAttack, ha, hd, hadd, Option.bind_eq_bind,
      Option.bind_some, hsub]
    rfl

lemma AllHealthy.resolveAttack {t : UInt64} {s : Players × List ResolvedAttack}
    (h : AllHealthy s.1) (attack : SessionId × SessionId) :
    AllHealthy (resolveAttack t s attack).1 := by
  have hmem := attackDamage_mem t
  have hbounds : 0 ≤ (attackDamage t).toInt ∧ (attackDamage t).toInt ≤ 16 := by omega
  unfold MapInstance.resolveAttack
  dsimp only
  split
  · next a d ha hd => exact h.strike hd hbounds
  · exact h

/-- The attacks of a tick never overflow. -/
lemma resolveAttacksChecked_eq (h : AllHealthy m.players) :
    m.resolveAttacksChecked = some m.resolveAttacks := by
  unfold resolveAttacksChecked resolveAttacks
  rw [foldlM_eq_some (I := fun s => AllHealthy s.1) (B := fun _ => False)
    (fun s a hs => hs.resolveAttack a) (fun s a hs _ => resolveAttackChecked_eq hs a)
    (fun _ _ hf => hf) h]
  rfl

lemma resolveCastChecked_eq {s : MapInstance × List ResolvedSkill} (h : AllHealthy s.1.players)
    (cast : SessionId × Int32 × Option SessionId) :
    resolveCastChecked s cast = some (resolveCast s cast) := by
  obtain ⟨caster, skillId, targetId⟩ := cast
  rcases hc : s.1.players.lookup caster with _ | casterState
  · simp only [resolveCastChecked, resolveCast, hc]
  by_cases hmp : casterState.mp < 10
  · simp only [resolveCastChecked, resolveCast, hc, if_pos hmp]
  · have hsub : checkedSub casterState.mp 10 = some (casterState.mp - 10) := by
      have h10 : (10 : Int32).toInt = 10 := rfl
      have hge : 10 ≤ casterState.mp.toInt := by
        rw [Int32.lt_iff_toInt_lt, h10] at hmp
        omega
      have hle := (h caster casterState hc).mp_le
      refine checkedSub_eq_some ?_
      rw [Int32.toInt_sub, h10, Int.bmod_eq_of_le] <;> omega
    simp only [resolveCastChecked, resolveCast, hc, if_neg hmp, hsub, Option.bind_eq_bind,
      Option.bind_some]

lemma AllHealthy.resolveCast {s : MapInstance × List ResolvedSkill} (h : AllHealthy s.1.players)
    (cast : SessionId × Int32 × Option SessionId) :
    AllHealthy (resolveCast s cast).1.players := by
  obtain ⟨hfought, -⟩ := resolveCast_fought s cast
  intro x p hp
  have hentry : (MapInstance.resolveCast s cast).1.entry x = some p := hp
  rw [hfought.entries, Function.update_apply] at hentry
  split at hentry
  · exact pay_healthy (h _) p hentry
  · exact h x p hentry

/-- A skill of the least id that has a target on the map. -/
def Extreme (ids : SessionId → Option CharacterId) (skill : ResolvedSkill) : Prop :=
  skill.skillId = Int32.minValue ∧ ∃ target, skill.targetId = some target ∧ (ids target).isSome

lemma applySkillChecked_eq (h : AllHealthy m.players) (skill : ResolvedSkill)
    (hskill : ¬ Extreme m.ids skill) : m.applySkillChecked skill = some (m.applySkill skill) := by
  obtain ⟨caster, casterCharacterId, skillId, targetId⟩ := skill
  rcases targetId with _ | target
  · rfl
  rcases ht : m.players.lookup target with _ | targetState
  · simp only [applySkillChecked, applySkill, ht]
  have hk : skillId ≠ Int32.minValue := by
    rintro rfl
    exact hskill
      ⟨rfl, target, rfl, by simp only [ids, entry, ht, Option.map_some, Option.isSome_some]⟩
  have hmem := skillDamage_mem hk
  have hrem : checkedRem skillId.abs 7 = some (skillId.abs % 7) := by
    have h7 : (7 : Int32).toInt = 7 := rfl
    have habs := toInt_abs skillId hk
    have hlt := skillId.abs.toInt_lt
    have hdiv := Int.tdiv_eq_ediv_of_nonneg (a := skillId.abs.toInt) (b := 7) (by omega)
    exact checkedRem_eq_some (by decide) (by rw [h7]; omega) (by rw [h7]; omega)
  have hadd : checkedAdd 10 (skillId.abs % 7) = some (skillDamage skillId) :=
    checkedAdd_eq_some (skillDamage_toInt hk)
  have hsub : checkedSub targetState.hp (skillDamage skillId) = some _ :=
    h.sub_damage ht (by omega)
  simp only [applySkillChecked, applySkill, ht, checkedAbs_eq_some hk, hrem, hadd, hsub,
    Option.bind_eq_bind, Option.bind_some]
  rfl

lemma applySkillChecked_eq_none {skill : ResolvedSkill} (hskill : Extreme m.ids skill) :
    m.applySkillChecked skill = none := by
  obtain ⟨caster, casterCharacterId, skillId, targetId⟩ := skill
  obtain ⟨rfl, target, rfl, hid⟩ := hskill
  obtain ⟨targetState, ht⟩ : ∃ p, m.players.lookup target = some p := by
    rw [ids, Option.isSome_map] at hid
    exact Option.isSome_iff_exists.mp hid
  simp only [applySkillChecked, ht, checkedAbs_minValue, Option.bind_eq_bind, Option.bind_none]

lemma AllHealthy.applySkill (h : AllHealthy m.players) (skill : ResolvedSkill) :
    AllHealthy (m.applySkill skill).players := by
  unfold MapInstance.applySkill
  split
  · split
    · next player ht => exact h.strike ht (skillDamage_bounds skill.skillId)
    · exact h
  · exact h

/-! ### The casts of a batch -/

/-- The commands the next tick takes. -/
def batch : List IncomingCommand := m.pendingCommands ++ m.rx.take m.config.commandBudget

/-- The entry of a session after its commands of the batch. -/
def entryAfter (s : SessionId) : Option PlayerState :=
  final (sessionStep m.config.mapId) (m.entry s) (m.batch.filter fun c => c.sessionId = s)

/-- The cast a command is. -/
def castOf (incoming : IncomingCommand) : Option (SessionId × Int32 × Option SessionId) :=
  match incoming.command with
  | .castSkill skillId targetId => some (incoming.sessionId, skillId, targetId)
  | _ => none

/-- The batch has a cast of the least skill id, at a session that is on the map after the
batch, by a session that is there too and has the mana for the cast and its casts before. -/
def ExtremeCast : Prop :=
  ∃ pre post caster target player,
    m.batch.filterMap castOf = pre ++ (caster, Int32.minValue, some target) :: post ∧
      (m.entryAfter target).isSome ∧ m.entryAfter caster = some player ∧
      10 * (((pre.filter fun c => c.1 = caster).length : ℤ) + 1) ≤ player.mp.toInt

/-- The casts of a batch are pending after its input. -/
lemma casts_outputsAll (mapId : MapId) (g : SessionId → Option PlayerState)
    (l : List IncomingCommand) :
    (outputsAll IncomingCommand.sessionId (sessionStep mapId) g l).flatMap
      (fun e => e.2.casts.map (e.1, ·)) = l.filterMap castOf := by
  refine outputsAll_flatMap (fun incoming entry => ?_) g l
  obtain ⟨s, characterId, command⟩ := incoming
  cases command <;> rfl

lemma begun_pendingCommands (m : MapInstance) : m.begun.pendingCommands = m.batch := by
  rw [begun_eq]
  rfl

lemma begun_input (h : m.Sound) :
    m.begun.inputStage.pendingSkillCasts = m.batch.filterMap castOf ∧
      m.begun.inputStage.entry = m.entryAfter := by
  have htook := took_inputStage m.begun
  have hopened : m.begun.opened.pendingSkillCasts = m.begun.pendingSkillCasts := by
    rw [opened_eq]
  have hbatch := begun_pendingCommands m
  have hentry : m.begun.entry = m.entry := by rw [begun_eq]; rfl
  have hconfig : m.begun.config = m.config := by rw [begun_eq]
  constructor
  · rw [htook.pendingSkillCasts, hopened, h.begun.pendingSkillCasts, List.nil_append,
      casts_outputsAll, hbatch]
  · rw [htook.entries, hbatch, hentry, hconfig]
    funext s
    exact finalAll_apply _ _ _ _ _

/-- What the casts of a caster leave of the caster's mana. -/
lemma final_pay {player : PlayerState} (h : player.Healthy)
    (casts : List (SessionId × Int32 × Option SessionId)) :
    ∃ player', final pay (some player) casts = some player' ∧
      (10 ≤ player'.mp.toInt ↔ 10 * ((casts.length : ℤ) + 1) ≤ player.mp.toInt) := by
  induction casts generalizing player with
  | nil => exact ⟨player, rfl, by simp⟩
  | cons cast casts ih =>
    have hfinal : final pay (some player) (cast :: casts) =
        final pay (pay (some player) cast).1 casts := rfl
    have hlen : ((cast :: casts).length : ℤ) = casts.length + 1 := by simp
    rw [hfinal, hlen]
    by_cases hmp : player.mp < 10
    · obtain ⟨player', hp', hiff⟩ := ih h
      refine ⟨player', by rw [pay_of_lt hmp, hp'], hiff.trans ?_⟩
      rw [mp_lt_ten_iff] at hmp
      omega
    · obtain ⟨hsub, hhealthy⟩ := h.spent hmp
      obtain ⟨player', hp', hiff⟩ := ih hhealthy
      refine ⟨player', by rw [pay_of_not_lt hmp, hp'], hiff.trans ?_⟩
      dsimp only
      rw [hsub]
      omega

lemma final_pay_none (casts : List (SessionId × Int32 × Option SessionId)) :
    final pay none casts = none := by
  induction casts with
  | nil => rfl
  | cons cast casts ih => exact ih

lemma pay_skill {entry : Option PlayerState} {cast : SessionId × Int32 × Option SessionId}
    {skill : ResolvedSkill} :
    (pay entry cast).2.skill = some skill ↔ ∃ player, entry = some player ∧
      10 ≤ player.mp.toInt ∧ skill = ⟨cast.1, player.characterId, cast.2.1, cast.2.2⟩ := by
  rcases entry with _ | player
  · refine iff_of_false (fun h => by cases h) ?_
    rintro ⟨player, h, -⟩
    cases h
  by_cases hmp : player.mp < 10
  · rw [pay_of_lt hmp]
    rw [mp_lt_ten_iff] at hmp
    refine iff_of_false (fun h => by cases h) ?_
    rintro ⟨player', h, hge, -⟩
    obtain rfl := Option.some.inj h
    omega
  · rw [pay_of_not_lt hmp]
    rw [mp_lt_ten_iff] at hmp
    constructor
    · intro h
      exact ⟨player, rfl, by omega, (Option.some.inj h).symm⟩
    · rintro ⟨player', h, -, rfl⟩
      obtain rfl := Option.some.inj h
      rfl

/-- A cast is paid when its caster is on the map with the mana for it and the casts before. -/
lemma paid_iff {c : MapInstance} (h : ∀ s player, c.entry s = some player → player.Healthy)
    (caster : SessionId) (skillId : Int32) (targetId : Option SessionId) :
    (∃ characterId, ⟨caster, characterId, skillId, targetId⟩ ∈ c.skills) ↔
      ∃ pre post player, c.pendingSkillCasts = pre ++ (caster, skillId, targetId) :: post ∧
        c.entry caster = some player ∧
        10 * (((pre.filter fun c => c.1 = caster).length : ℤ) + 1) ≤ player.mp.toInt := by
  constructor
  · rintro ⟨characterId, hskill⟩
    obtain ⟨p, hp, hp'⟩ := List.mem_filterMap.mp hskill
    obtain ⟨pre, a, post, hl, rfl⟩ := mem_outputsAll.mp hp
    obtain ⟨player', hplayer', hge, heq⟩ := pay_skill.mp hp'
    obtain ⟨rfl, -, rfl, rfl⟩ := ResolvedSkill.mk.inj heq
    rw [finalAll_apply, hurt] at hplayer'
    rcases hentry : c.entry a.1 with _ | player
    · rw [hentry, Option.map_none, final_pay_none] at hplayer'
      cases hplayer'
    · rw [hentry, Option.map_some] at hplayer'
      obtain ⟨player'', hfinal, hiff⟩ := final_pay
        ((h a.1 player hentry).wounded (damagesOn_bounds (attackHits_fit c) a.1)).1
        (pre.filter fun c => c.1 = a.1)
      obtain rfl := Option.some.inj (hplayer'.symm.trans hfinal)
      exact ⟨pre, post, player, hl, rfl, hiff.mp hge⟩
  · rintro ⟨pre, post, player, hl, hentry, hge⟩
    obtain ⟨player', hfinal, hiff⟩ := final_pay
      ((h caster player hentry).wounded (damagesOn_bounds (attackHits_fit c) caster)).1
      (pre.filter fun c => c.1 = caster)
    refine ⟨player'.characterId, List.mem_filterMap.mpr
      ⟨_, mem_outputsAll.mpr ⟨pre, _, post, hl, rfl⟩,
        pay_skill.mpr ⟨player', ?_, hiff.mpr hge, rfl⟩⟩⟩
    rw [finalAll_apply, hurt, hentry]
    exact hfinal

/-- The skills of the tick of which one would overflow are the casts the batch has. -/
lemma extreme_skill_iff (h : m.Sound) :
    (∃ skill ∈ m.begun.inputStage.skills, Extreme m.begun.inputStage.ids skill) ↔
      m.ExtremeCast := by
  obtain ⟨hcasts, hentry⟩ := begun_input m h
  have hpaid := paid_iff h.begun.inputStage.1
  have hids : ∀ s, (m.begun.inputStage.ids s).isSome = (m.entryAfter s).isSome := by
    intro s
    rw [ids, hentry, Option.isSome_map]
  rw [hcasts, hentry] at hpaid
  constructor
  · rintro ⟨⟨caster, characterId, skillId, targetId⟩, hskill, rfl, target, rfl, htarget⟩
    obtain ⟨pre, post, player, hl, hcaster, hge⟩ := (hpaid caster _ _).mp ⟨characterId, hskill⟩
    rw [hids] at htarget
    exact ⟨pre, post, caster, target, player, hl, htarget, hcaster, hge⟩
  · rintro ⟨pre, post, caster, target, player, hl, htarget, hcaster, hge⟩
    obtain ⟨characterId, hskill⟩ := (hpaid caster _ _).mpr ⟨pre, post, player, hl, hcaster, hge⟩
    rw [← hids] at htarget
    exact ⟨_, hskill, rfl, target, rfl, htarget⟩

/-! ### Damages -/

/-- The combat results of a tick are those of its attacks, all of a damage from 5 to 8, and those
of its skills, all of a damage from 10 to 16. -/
structure DamagesInRange (iter : Iteration) : Prop where
  all : let c := m.begun.inputStage.systemMovement iter
    resultsSince m (m.tick iter) =
      resultsSince c c.resolveAttacks ++ resultsSince c.resolveAttacks c.systemCombat
  attacks : let c := m.begun.inputStage.systemMovement iter
    ∀ r ∈ resultsSince c c.resolveAttacks, 5 ≤ r.damage.toInt ∧ r.damage.toInt ≤ 8
  skills : let c := m.begun.inputStage.systemMovement iter
    ∀ r ∈ resultsSince c.resolveAttacks c.systemCombat, 10 ≤ r.damage.toInt ∧ r.damage.toInt ≤ 16

lemma resultsSince_attacks (c : MapInstance) :
    resultsSince c c.resolveAttacks = c.attackHits.map (·.combatResult) := by
  obtain ⟨resolved, hhits, -, hfought⟩ := resolveAttacks_fought c
  rw [resultsSince, hfought.eq]
  dsimp only
  rw [List.drop_left, filterMap_attackEvents hhits]

lemma resultsSince_skills (c : MapInstance) :
    resultsSince c.resolveAttacks c.systemCombat = c.skillHits.map (·.combatResult) := by
  rw [resultsSince, (systemCombat_skills c).eq]
  dsimp only
  rw [List.drop_left, filterMap_castEvents]

lemma damagesInRange (h : m.Sound) (iter : Iteration)
    (hskills : ∀ skill ∈ m.begun.inputStage.skills, ¬ Extreme m.begun.inputStage.ids skill) :
    m.DamagesInRange iter where
  all := by
    dsimp only
    rw [resultsSince_attacks, resultsSince_skills, (h.tick_reports iter).1, List.map_append]
    rfl
  attacks := by
    dsimp only
    rw [resultsSince_attacks]
    intro r hr
    obtain ⟨hit, hhit, rfl⟩ := List.mem_map.mp hr
    obtain ⟨attack, -, haim⟩ := List.mem_filterMap.mp hhit
    unfold aim at haim
    split at haim
    · obtain rfl := Option.some.inj haim
      exact attackDamage_mem _
    · cases haim
  skills := by
    dsimp only
    rw [resultsSince_skills]
    intro r hr
    obtain ⟨hit, hhit, rfl⟩ := List.mem_map.mp hr
    obtain ⟨skill, hskill, hstrike⟩ := List.mem_filterMap.mp hhit
    have hextreme := hskills skill hskill
    unfold strike at hstrike
    split at hstrike
    · next target ht =>
      obtain ⟨d, hd, rfl⟩ := Option.map_eq_some_iff.mp hstrike
      have hdsome : (m.begun.inputStage.ids target).isSome :=
        Option.isSome_iff_exists.mpr ⟨d, hd⟩
      exact skillDamage_mem fun hk => hextreme ⟨hk, target, ht, hdsome⟩
    · cases hstrike

/-! ### The tick -/

/-- What the loop over the casts leaves: the instance, and the skills that were paid. -/
def castLoop : MapInstance × List ResolvedSkill :=
  m.pendingSkillCasts.foldl resolveCast ({ m with pendingSkillCasts := [] }, [])

/-- The skills of a tick overflow exactly when one of those that are paid is extreme. -/
lemma resolveSkillsChecked_spec (h : AllHealthy m.players) :
    ((∀ skill ∈ m.castLoop.2, ¬ Extreme m.ids skill) →
      m.resolveSkillsChecked = some m.resolveSkills) ∧
    ((∃ skill ∈ m.castLoop.2, Extreme m.ids skill) → m.resolveSkillsChecked = none) := by
  have hcasts : m.pendingSkillCasts.foldlM resolveCastChecked
      ({ m with pendingSkillCasts := [] }, []) = some m.castLoop :=
    foldlM_eq_some (I := fun s => AllHealthy s.1.players) (B := fun _ => False)
      (fun s a hs => hs.resolveCast a) (fun s a hs _ => resolveCastChecked_eq hs a)
      (fun _ _ hf => hf) h
  have hentries : m.castLoop.1.entry = finalAll Prod.fst pay m.entry m.pendingSkillCasts :=
    (resolveCast_foldl m.pendingSkillCasts ({ m with pendingSkillCasts := [] }, [])).1.entries
  have hids : m.castLoop.1.ids = m.ids := by
    funext x
    rw [ids, hentries]
    exact finalAll_keeps pay_characterId _ _ _
  have hhealthy : AllHealthy m.castLoop.1.players := by
    have hentry : ∀ x p, m.castLoop.1.entry x = some p → p.Healthy := by
      rw [hentries]
      exact finalAll_some h pay_healthy m.pendingSkillCasts
    exact hentry
  have hkeep : ∀ (m' : MapInstance) (skill : ResolvedSkill),
      AllHealthy m'.players ∧ m'.ids = m.ids →
        AllHealthy (m'.applySkill skill).players ∧ (m'.applySkill skill).ids = m.ids := by
    rintro m' skill ⟨hm', hids'⟩
    refine ⟨AllHealthy.applySkill m' hm' skill, ?_⟩
    rw [← hids']
    funext x
    rw [ids, (applySkill_fought m' skill).entries, ids, Option.map_map]
    rfl
  have hgood : ∀ (m' : MapInstance) (skill : ResolvedSkill),
      AllHealthy m'.players ∧ m'.ids = m.ids → ¬ Extreme m.ids skill →
        m'.applySkillChecked skill = some (m'.applySkill skill) := by
    rintro m' skill ⟨hm', hids'⟩ hskill
    exact applySkillChecked_eq m' hm' skill (by rwa [hids'])
  have hbad : ∀ (m' : MapInstance) (skill : ResolvedSkill),
      AllHealthy m'.players ∧ m'.ids = m.ids → Extreme m.ids skill →
        m'.applySkillChecked skill = none := by
    rintro m' skill ⟨-, hids'⟩ hskill
    exact applySkillChecked_eq_none m' (by rwa [hids'])
  unfold resolveSkillsChecked
  rw [hcasts]
  exact ⟨fun hall => foldlM_eq_some hkeep hgood hall ⟨hhealthy, hids⟩,
    fun hex => foldlM_eq_none hkeep hgood hbad hex ⟨hhealthy, hids⟩⟩

lemma systemCombatChecked_spec (h : AllHealthy m.players) :
    ((∀ skill ∈ m.skills, ¬ Extreme m.ids skill) → m.systemCombatChecked = some m.systemCombat) ∧
    ((∃ skill ∈ m.skills, Extreme m.ids skill) → m.systemCombatChecked = none) := by
  obtain ⟨resolved, -, -, hattacks⟩ := resolveAttacks_fought m
  have hentry : m.resolveAttacks.entry = m.hurt := hattacks.entries
  have hcasts : m.resolveAttacks.pendingSkillCasts = m.pendingSkillCasts := by rw [hattacks.eq]
  have hhealthy : AllHealthy m.resolveAttacks.players := by
    have hhurt : ∀ x p, m.resolveAttacks.entry x = some p → p.Healthy := by
      rw [hentry]
      intro x p hp
      obtain ⟨old, hold, rfl⟩ := Option.map_eq_some_iff.mp hp
      exact ((h x old hold).wounded (damagesOn_bounds (attackHits_fit m) x)).1
    exact hhurt
  have hids : m.resolveAttacks.ids = m.ids := by
    funext x
    rw [ids, hentry, hurt, Option.map_map]
    rfl
  have hskills : m.resolveAttacks.castLoop.2 = m.skills := by
    have hloop := (resolveCast_foldl m.resolveAttacks.pendingSkillCasts
      ({ m.resolveAttacks with pendingSkillCasts := [] }, [])).2
    have he : ({ m.resolveAttacks with pendingSkillCasts := [] } : MapInstance).entry = m.hurt :=
      hentry
    rw [castLoop, hloop, he, hcasts, List.nil_append]
    rfl
  have hspec := resolveSkillsChecked_spec m.resolveAttacks hhealthy
  rw [hskills, hids] at hspec
  unfold systemCombatChecked
  rw [resolveAttacksChecked_eq m h]
  exact hspec

lemma tickChecked_spec (h : m.Sound) (iter : Iteration) :
    let c := m.begun.inputStage
    ((∀ skill ∈ c.skills, ¬ Extreme c.ids skill) → m.tickChecked iter = some (m.tick iter)) ∧
    ((∃ skill ∈ c.skills, Extreme c.ids skill) → m.tickChecked iter = none) := by
  have hspec := systemCombatChecked_spec (m.begun.inputStage.systemMovement iter)
    h.begun.inputStage.1
  have htick : m.tickChecked iter =
      (m.begun.inputStage.systemMovement iter).systemCombatChecked.bind fun c =>
        some ((c.systemAi iter).systemAoi iter).systemInventory := rfl
  rw [htick]
  refine ⟨fun hall => ?_, fun hex => ?_⟩
  · rw [hspec.1 hall]
    rfl
  · rw [hspec.2 hex]
    rfl

/-- **What a packet can make overflow.** A tick of a reachable instance is without overflow and
its combat results are of the damages they should be, exactly when its batch has no cast of the
least skill id that is paid and has its target on the map. -/
theorem tick_exact_iff {config : MapConfig} {m : MapInstance}
    (h : (mapSystem config).Reached m) (iter : Iteration) :
    (m.tickChecked iter = some (m.tick iter) ∧ m.DamagesInRange iter) ↔ ¬ m.ExtremeCast := by
  have hsound := sound_of_reached h
  obtain ⟨hall, hex⟩ := tickChecked_spec m hsound iter
  rw [← extreme_skill_iff m hsound]
  constructor
  · rintro ⟨htick, -⟩ hextreme
    rw [hex hextreme] at htick
    cases htick
  · intro hno
    have hnone : ∀ skill ∈ m.begun.inputStage.skills,
        ¬ Extreme m.begun.inputStage.ids skill := fun skill hs he => hno ⟨skill, hs, he⟩
    exact ⟨hall hnone, damagesInRange m hsound iter hnone⟩

theorem tick_exact_iff_skirmish :
    skirmish.tickChecked default = some (skirmish.tick default) ∧
      skirmish.DamagesInRange default := by
  refine (tick_exact_iff skirmish_reached default).mpr ?_
  rintro ⟨pre, post, caster, target, player, h, -⟩
  have hnone : skirmish.batch.filterMap castOf = [] := by decide +kernel
  rw [hnone] at h
  cases pre <;> cases h

/-- Two players have entered and one casts a skill of the least id at the other. -/
def leastSkill : MapInstance :=
  { MapInstance.new ⟨1, 16⟩ with
    rx := [⟨Uuid.fill 1, none, .enterWorld⟩, ⟨Uuid.fill 2, none, .enterWorld⟩,
      ⟨Uuid.fill 1, none, .castSkill Int32.minValue (some (Uuid.fill 2))⟩] }

lemma leastSkill_reached : (mapSystem ⟨1, 16⟩).Reached leastSkill := by
  have h0 : (mapSystem ⟨1, 16⟩).Reached (.new ⟨1, 16⟩) := .init rfl
  have h1 := h0.step (a := .incoming ⟨Uuid.fill 1, none, .enterWorld⟩) trivial rfl
  have h2 := h1.step (a := .incoming ⟨Uuid.fill 2, none, .enterWorld⟩) trivial rfl
  exact h2.step (a := .incoming ⟨Uuid.fill 1, none,
    .castSkill Int32.minValue (some (Uuid.fill 2))⟩) trivial rfl

open Translate in
/-- A packet of a client makes a tick overflow, or hit for less than a skill does. -/
theorem least_skill_id_overflows :
    (∀ parseStr, translatePacketForVersion parseStr
      ⟨⟨0, OpcodeMatrix.legacyV382.castSkill⟩, [0, 0, 0, 0x80] ++ (Uuid.fill 2).bytes⟩ .inWorld
      .legacyV382 = .ok (.castSkill Int32.minValue (some (Uuid.fill 2)))) ∧
    (mapSystem ⟨1, 16⟩).Reached leastSkill ∧
    ∀ iter, leastSkill.tickChecked iter = none ∧ ¬ leastSkill.DamagesInRange iter := by
  refine ⟨fun parseStr => rfl, leastSkill_reached, fun iter => ⟨?_, fun h => ?_⟩⟩
  · refine (tickChecked_spec leastSkill (sound_of_reached leastSkill_reached) iter).2 ?_
    refine (extreme_skill_iff leastSkill (sound_of_reached leastSkill_reached)).mpr ?_
    exact ⟨[], [], Uuid.fill 1, Uuid.fill 2, ⟨Uuid.fill 1, 100, 100, 100, 100⟩,
      by decide +kernel, by decide +kernel, by decide +kernel, by decide +kernel⟩
  · have hskills := h.skills
    dsimp only at hskills
    rw [resultsSince_skills] at hskills
    have hdamage := hskills ⟨Uuid.fill 1, Uuid.fill 2, 8⟩
      (List.mem_map.mpr ⟨⟨Uuid.fill 1, Uuid.fill 2, Uuid.fill 1, Uuid.fill 2, 8⟩, ?_, rfl⟩)
    · revert hdamage
      decide
    · have hhits : leastSkill.begun.inputStage.skillHits =
          [⟨Uuid.fill 1, Uuid.fill 2, Uuid.fill 1, Uuid.fill 2, 8⟩] := by decide +kernel
      have hsame : (leastSkill.begun.inputStage.systemMovement iter).skillHits =
          leastSkill.begun.inputStage.skillHits := rfl
      rw [hsame, hhits]
      exact List.mem_singleton_self _

end MapInstance

end HelbreathBackend.MapServer
