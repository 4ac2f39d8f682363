import HelbreathBackend.MapInput
import Mathlib

/-!
The combat of a tick, blow by blow.

Nobody enters or leaves during combat and nobody changes character, so which attacks and
which casts strike is known before the loops begin: `attackHits` and `skillHits`. The loops
wound the defenders with these hits, and report them.
-/

namespace HelbreathBackend.MapServer

open HelbreathBackend.Lib HelbreathBackend.Domain HelbreathBackend.Application

/-- A blow that strikes. -/
structure Hit where
  attacker : SessionId
  defender : SessionId
  attackerCharacterId : CharacterId
  defenderCharacterId : CharacterId
  damage : Int32
  deriving DecidableEq

def Hit.result (h : Hit) : OutboundEvent := .combatResult h.attacker h.defender h.damage

def Hit.log (mapId : MapId) (h : Hit) : PersistOp :=
  .saveCombatLog h.attackerCharacterId h.defenderCharacterId mapId h.damage

def attackDamage (tickIndex : UInt64) : Int32 := 5 + (tickIndex % 4).toUInt32.toInt32

def skillDamage (skillId : Int32) : Int32 := 10 + skillId.abs % 7

/-- The hp left by blows of the given damages. -/
def wound (hp : Int32) (damages : List Int32) : Int32 :=
  damages.foldl (fun hp damage => max (hp - damage) 0) hp

lemma wound_append (hp : Int32) (ds ds' : List Int32) :
    wound hp (ds ++ ds') = wound (wound hp ds) ds' := List.foldl_append

/-! ### Damages as integers -/

lemma toInt_max (a b : Int32) : (max a b).toInt = max a.toInt b.toInt := by
  have h : max a b = if a ≤ b then b else a := rfl
  rw [h, max_def]
  split
  · next hab => rw [if_pos (Int32.le_iff_toInt_le.mp hab)]
  · next hab => rw [if_neg fun hle => hab (Int32.le_iff_toInt_le.mpr hle)]

/-- A blow that does not take the hp below the least `i32`. -/
lemma toInt_sub_damage {hp damage : Int32} (hhp : -2147483632 ≤ hp.toInt)
    (hd : 0 ≤ damage.toInt ∧ damage.toInt ≤ 16) :
    (hp - damage).toInt = hp.toInt - damage.toInt := by
  have hle := hp.toInt_lt
  rw [Int32.toInt_sub, Int.bmod_eq_of_le] <;> omega

/-- What blows of small damages leave, as integers. -/
theorem wound_toInt {hp : Int32} {damages : List Int32} (hhp : -2147483632 ≤ hp.toInt)
    (hd : ∀ d ∈ damages, 0 ≤ d.toInt ∧ d.toInt ≤ 16) (hne : damages ≠ []) :
    (wound hp damages).toInt = max 0 (hp.toInt - (damages.map (·.toInt)).sum) := by
  induction damages generalizing hp with
  | nil => exact absurd rfl hne
  | cons d ds ih =>
    have hd0 := hd d List.mem_cons_self
    have hstep : (max (hp - d) 0).toInt = max (hp.toInt - d.toInt) 0 := by
      rw [toInt_max, toInt_sub_damage hhp hd0]
      rfl
    rw [List.map_cons, List.sum_cons, wound, List.foldl_cons]
    rcases ds with _ | ⟨d', ds⟩
    · rw [List.foldl_nil, hstep, List.map_nil, List.sum_nil]
      omega
    · have hlow : -2147483632 ≤ (max (hp - d) 0).toInt := by omega
      have hrest := ih hlow
        (fun x hx => hd x (List.mem_cons_of_mem d hx)) (List.cons_ne_nil _ _)
      have hpos : 0 ≤ ((d' :: ds).map (·.toInt)).sum := by
        refine List.sum_nonneg fun z hz => ?_
        obtain ⟨x, hx, rfl⟩ := List.mem_map.mp hz
        exact (hd x (List.mem_cons_of_mem d hx)).1
      rw [wound] at hrest
      rw [hrest, hstep]
      omega

lemma variance_mem (t : UInt64) :
    0 ≤ (t % 4).toUInt32.toInt32.toInt ∧ (t % 4).toUInt32.toInt32.toInt ≤ 3 := by
  have hlt : (t % 4).toNat < 4 := by
    rw [UInt64.toNat_mod]
    exact Nat.mod_lt _ (by decide)
  have hcases : t % 4 = 0 ∨ t % 4 = 1 ∨ t % 4 = 2 ∨ t % 4 = 3 := by
    simp only [← UInt64.toNat_inj]
    have h : ∀ n : ℕ, n < 4 → n = 0 ∨ n = 1 ∨ n = 2 ∨ n = 3 := by omega
    exact h _ hlt
  rcases hcases with h | h | h | h <;> rw [h] <;> decide

lemma attackDamage_toInt (t : UInt64) :
    (attackDamage t).toInt = 5 + (t % 4).toUInt32.toInt32.toInt := by
  have h := variance_mem t
  have h5 : (5 : Int32).toInt = 5 := rfl
  rw [attackDamage, Int32.toInt_add, h5, Int.bmod_eq_of_le] <;> omega

theorem attackDamage_mem (t : UInt64) :
    5 ≤ (attackDamage t).toInt ∧ (attackDamage t).toInt ≤ 8 := by
  have h := variance_mem t
  rw [attackDamage_toInt]
  omega

lemma toInt_abs (k : Int32) (hk : k ≠ Int32.minValue) : k.abs.toInt = (k.toInt.natAbs : ℤ) := by
  have hne : k.toBitVec ≠ BitVec.intMin 32 := fun h => hk (Int32.toBitVec_inj.mp h)
  have h : k.abs.toInt = (k.toBitVec.abs).toInt := rfl
  rw [h, BitVec.toInt_abs_eq_natAbs_of_ne_intMin hne]
  rfl

lemma toInt_abs_mod {k : Int32} (hk : k ≠ Int32.minValue) :
    0 ≤ (k.abs % 7).toInt ∧ (k.abs % 7).toInt ≤ 6 := by
  have hmod : (k.abs % 7).toInt = (k.toInt.natAbs : ℤ) % 7 := by
    rw [Int32.toInt_mod, toInt_abs k hk]
    exact Int.tmod_eq_emod_of_nonneg (Int.natCast_nonneg _)
  rw [hmod]
  omega

lemma skillDamage_toInt {k : Int32} (hk : k ≠ Int32.minValue) :
    (skillDamage k).toInt = 10 + (k.abs % 7).toInt := by
  have h := toInt_abs_mod hk
  have h10 : (10 : Int32).toInt = 10 := rfl
  rw [skillDamage, Int32.toInt_add, h10, Int.bmod_eq_of_le] <;> omega

theorem skillDamage_mem {k : Int32} (hk : k ≠ Int32.minValue) :
    10 ≤ (skillDamage k).toInt ∧ (skillDamage k).toInt ≤ 16 := by
  have h := toInt_abs_mod hk
  rw [skillDamage_toInt hk]
  omega

/-- `abs` wraps at the least `i32`. -/
lemma skillDamage_minValue : skillDamage Int32.minValue = 8 := by decide

/-! ### Hits -/

def PlayerState.wounded (player : PlayerState) (damages : List Int32) : PlayerState :=
  { player with hp := wound player.hp damages }

lemma PlayerState.wounded_wounded (player : PlayerState) (ds ds' : List Int32) :
    (player.wounded ds).wounded ds' = player.wounded (ds ++ ds') := by
  rw [wounded, wounded, wounded, wound_append]

/-- The damages of the hits on a session. -/
def damagesOn (s : SessionId) (hits : List Hit) : List Int32 :=
  (hits.filter fun h => h.defender = s).map (·.damage)

lemma damagesOn_append (s : SessionId) (hits hits' : List Hit) :
    damagesOn s (hits ++ hits') = damagesOn s hits ++ damagesOn s hits' := by
  rw [damagesOn, List.filter_append, List.map_append]
  rfl

lemma damagesOn_cons (s : SessionId) (h : Hit) (hits : List Hit) :
    damagesOn s (h :: hits) = (if h.defender = s then [h.damage] else []) ++ damagesOn s hits := by
  unfold damagesOn
  by_cases hs : h.defender = s <;> simp [hs]

/-- The hit of an attack of `attacker` on `defender`, when both are on the map. -/
def aim (ids : SessionId → Option CharacterId) (damage : Int32) (attack : SessionId × SessionId) :
    Option Hit :=
  match ids attack.1, ids attack.2 with
  | some a, some d => some ⟨attack.1, attack.2, a, d, damage⟩
  | _, _ => none

/-- What a cast costs its caster. -/
inductive Payment
  | absent
  | notEnoughMana
  | paid (skill : MapInstance.ResolvedSkill)

def pay (entry : Option PlayerState) (cast : SessionId × Int32 × Option SessionId) :
    Option PlayerState × Payment :=
  match entry with
  | none => (none, .absent)
  | some caster =>
    if caster.mp < 10 then (some caster, .notEnoughMana)
    else (some { caster with mp := caster.mp - 10 },
      .paid ⟨cast.1, caster.characterId, cast.2.1, cast.2.2⟩)

def Payment.skill : Payment → Option MapInstance.ResolvedSkill
  | .paid skill => some skill
  | _ => none

/-- What the caster is told. -/
def Payment.told (caster : SessionId) : Payment → List OutboundEvent
  | .notEnoughMana => [.text caster "not enough mana"]
  | _ => []

/-- The hit of a skill that was paid, when it has a target on the map. -/
def strike (ids : SessionId → Option CharacterId) (skill : MapInstance.ResolvedSkill) :
    Option Hit :=
  match skill.targetId with
  | some target => (ids target).map fun d =>
      ⟨skill.caster, target, skill.casterCharacterId, d, skillDamage skill.skillId⟩
  | none => none

/-- What a skill that was paid sends. -/
def skillEvents (ids : SessionId → Option CharacterId) (skill : MapInstance.ResolvedSkill) :
    List OutboundEvent :=
  match skill.targetId with
  | some _ => ((strike ids skill).map Hit.result).toList
  | none => [.text skill.caster ("skill_cast:" ++ toString skill.skillId.toInt)]

namespace MapInstance

variable (m : MapInstance)

def ids (s : SessionId) : Option CharacterId := (m.entry s).map (·.characterId)

def attackHits : List Hit := m.pendingAttacks.filterMap (aim m.ids (attackDamage m.tickIndex))

/-- The entry of a session after the attacks of the tick. -/
def hurt (s : SessionId) : Option PlayerState :=
  (m.entry s).map (·.wounded (damagesOn s m.attackHits))

def payments : List (SessionId × Payment) := outputsAll Prod.fst pay m.hurt m.pendingSkillCasts

/-- The entry of a session after it has paid for its skills. -/
def paid (s : SessionId) : Option PlayerState := finalAll Prod.fst pay m.hurt m.pendingSkillCasts s

def skills : List ResolvedSkill := m.payments.filterMap fun p => p.2.skill

def skillHits : List Hit := m.skills.filterMap (strike m.ids)

/-- The instance `m'` is `m` with the given entries, and with events and operations sent. -/
structure Fought (m m' : MapInstance) (entries : SessionId → Option PlayerState)
    (events : List OutboundEvent) (ops : List PersistOp) : Prop where
  eq : m' = { m with
    players := m'.players, outboundTx := m.outboundTx ++ events, persistTx := m.persistTx ++ ops }
  entries : m'.entry = entries

variable {m} {m' m'' : MapInstance}

lemma Fought.refl (m : MapInstance) : Fought m m m.entry [] [] :=
  ⟨by rw [List.append_nil, List.append_nil], rfl⟩

lemma Fought.trans {g g' : SessionId → Option PlayerState} {es es' : List OutboundEvent}
    {ops ops' : List PersistOp} (h : Fought m m' g es ops) (h' : Fought m' m'' g' es' ops') :
    Fought m m'' g' (es ++ es') (ops ++ ops') where
  eq := by
    rw [h'.eq, h.eq]
    simp only [List.append_assoc]
  entries := h'.entries

/-! ### The attacks -/

/-- A player of the map is struck. -/
lemma lookup_strike {players : Players} {s : SessionId} {player : PlayerState}
    (h : players.lookup s = some player) (damage : Int32) (x : SessionId) :
    (players.insert s { player with hp := max (player.hp - damage) 0 }).lookup x =
      (players.lookup x).map (·.wounded (if s = x then [damage] else [])) := by
  rw [FMap.lookup_insert_eq]
  by_cases hx : x = s
  · subst hx
    rw [if_pos rfl, if_pos rfl, h]
    rfl
  · rw [if_neg hx, if_neg (Ne.symm hx)]
    exact (Option.map_id' (x := players.lookup x)).symm

/-- What is left of a player hit for `damage`, and whether that is nothing. -/
def fell (damage : Int32) (hp : Int32) (_ : SessionId) : Int32 × Bool :=
  (max (hp - damage) 0, max (hp - damage) 0 == 0)

def ResolvedAttack.hit (a : ResolvedAttack) : Hit :=
  ⟨a.attacker, a.defender, a.attackerCharacterId, a.defenderCharacterId, a.damage⟩

def hpOf (players : Players) (s : SessionId) : Int32 := ((players.lookup s).map (·.hp)).getD 0

/-- What the loop over the attacks makes of the players and of the hits it resolves. -/
structure Resolved (damage : Int32) (players players' : Players) (hits : List Hit)
    (resolved : List ResolvedAttack) : Prop where
  wounds : ∀ x, players'.lookup x = (players.lookup x).map (·.wounded (damagesOn x hits))
  struck : resolved.map (·.hit) = hits
  falls : resolved.map (fun a => (a.defender, a.defeated)) =
    outputsAll id (fell damage) (hpOf players) (hits.map (·.defender))

lemma characterIds_wounded {players players' : Players} {ds : SessionId → List Int32}
    (h : ∀ x, players'.lookup x = (players.lookup x).map (·.wounded (ds x))) (x : SessionId) :
    (players'.lookup x).map (·.characterId) = (players.lookup x).map (·.characterId) := by
  rw [h, Option.map_map]
  rfl

lemma resolveAttack_foldl (t : UInt64) (attacks : List (SessionId × SessionId))
    (s : Players × List ResolvedAttack) :
    ∃ resolved, (attacks.foldl (resolveAttack t) s).2 = s.2 ++ resolved ∧
      Resolved (attackDamage t) s.1 (attacks.foldl (resolveAttack t) s).1
        (attacks.filterMap (aim (fun x => (s.1.lookup x).map (·.characterId)) (attackDamage t)))
        resolved := by
  induction attacks generalizing s with
  | nil =>
    refine ⟨[], (List.append_nil _).symm, fun x => ?_, rfl, rfl⟩
    exact (Option.map_id' (x := s.1.lookup x)).symm
  | cons attack attacks ih =>
    obtain ⟨attacker, defender⟩ := attack
    rw [List.foldl_cons, List.filterMap_cons]
    rcases ha : s.1.lookup attacker with _ | attackerState
    · have hs : resolveAttack t s (attacker, defender) = s := by
        simp only [resolveAttack, ha]
      simp only [aim, ha, Option.map_none]
      rw [hs]
      exact ih s
    rcases hd : s.1.lookup defender with _ | defenderState
    · have hs : resolveAttack t s (attacker, defender) = s := by
        simp only [resolveAttack, ha, hd]
      simp only [aim, ha, hd, Option.map_none, Option.map_some]
      rw [hs]
      exact ih s
    -- the attack strikes
    have hs : resolveAttack t s (attacker, defender) =
        (s.1.insert defender
          { defenderState with hp := max (defenderState.hp - attackDamage t) 0 },
        s.2 ++ [⟨attacker, defender, attackerState.characterId, defenderState.characterId,
          attackDamage t, max (defenderState.hp - attackDamage t) 0 == 0⟩]) := by
      simp only [resolveAttack, ha, hd, attackDamage]
    have hstruck := lookup_strike hd (attackDamage t)
    obtain ⟨resolved, happ, hwounds, hhits, hfalls⟩ := ih (resolveAttack t s (attacker, defender))
    rw [hs] at happ hwounds hhits hfalls ⊢
    dsimp only at happ hwounds hhits hfalls ⊢
    simp only [characterIds_wounded hstruck] at hwounds hhits hfalls
    simp only [aim, ha, hd, Option.map_some]
    refine ⟨_, by rw [happ, List.append_assoc, List.singleton_append], fun x => ?_, ?_, ?_⟩
    · rw [hwounds, hstruck, Option.map_map, damagesOn_cons]
      congr 1
      funext player
      exact player.wounded_wounded _ _
    · rw [List.map_cons, hhits]
      rfl
    · rw [List.map_cons, hfalls, List.map_cons, outputsAll]
      have hhp : hpOf s.1 defender = defenderState.hp := by simp [hpOf, hd]
      have hhps : hpOf (s.1.insert defender
          { defenderState with hp := max (defenderState.hp - attackDamage t) 0 }) =
          Function.update (hpOf s.1) defender (max (defenderState.hp - attackDamage t) 0) := by
        funext x
        rw [hpOf, FMap.lookup_insert_eq, Function.update_apply]
        split <;> rfl
      rw [hhps]
      simp only [id, fell, hhp]

/-- What is sent for a resolved attack. -/
def ResolvedAttack.events (a : ResolvedAttack) : List OutboundEvent :=
  a.hit.result :: if a.defeated then [.text a.defender "you are defeated"] else []

lemma reportAttack_foldl (resolved : List ResolvedAttack) (m : MapInstance) :
    resolved.foldl reportAttack m =
      { m with
        outboundTx := m.outboundTx ++ resolved.flatMap (·.events)
        persistTx := m.persistTx ++ resolved.map fun a => a.hit.log m.config.mapId } := by
  induction resolved generalizing m with
  | nil => simp
  | cons a resolved ih =>
    have ha : m.reportAttack a =
        { m with
          outboundTx := m.outboundTx ++ a.events
          persistTx := m.persistTx ++ [a.hit.log m.config.mapId] } := by
      unfold reportAttack ResolvedAttack.events
      cases a.defeated <;> simp [send, persist, Hit.result, Hit.log, ResolvedAttack.hit]
    rw [List.foldl_cons, ih, ha]
    simp only [List.append_assoc, List.flatMap_cons, List.map_cons, List.singleton_append]

/-- **The attacks** wound the defenders of the attacks that strike, and report them. -/
theorem resolveAttacks_fought (m : MapInstance) :
    ∃ resolved : List ResolvedAttack,
      resolved.map (·.hit) = m.attackHits ∧
      resolved.map (fun a => (a.defender, a.defeated)) =
        outputsAll id (fell (attackDamage m.tickIndex)) (hpOf m.players)
          (m.attackHits.map (·.defender)) ∧
      Fought { m with pendingAttacks := [] } m.resolveAttacks m.hurt
        (resolved.flatMap (·.events)) (m.attackHits.map (·.log m.config.mapId)) := by
  obtain ⟨resolved, happ, hres⟩ := resolveAttack_foldl m.tickIndex m.pendingAttacks (m.players, [])
  rw [List.nil_append] at happ
  refine ⟨resolved, hres.struck, hres.falls, ?_, ?_⟩
  · unfold resolveAttacks
    dsimp only
    rw [happ, reportAttack_foldl]
    have hlogs : resolved.map (fun a => a.hit.log m.config.mapId) =
        m.attackHits.map (·.log m.config.mapId) := by
      have hstruck : resolved.map (·.hit) = m.attackHits := hres.struck
      rw [← hstruck, List.map_map]
      rfl
    rw [hlogs]
  · funext x
    unfold entry resolveAttacks
    dsimp only
    rw [reportAttack_foldl]
    exact hres.wounds x

/-! ### The skills -/

/-- One cast is one step of the machine of its caster. -/
lemma resolveCast_fought (s : MapInstance × List ResolvedSkill)
    (cast : SessionId × Int32 × Option SessionId) :
    let step := pay (s.1.entry cast.1) cast
    Fought s.1 (resolveCast s cast).1 (Function.update s.1.entry cast.1 step.1)
      (step.2.told cast.1) [] ∧
    (resolveCast s cast).2 = s.2 ++ step.2.skill.toList := by
  obtain ⟨caster, skillId, targetId⟩ := cast
  have hkeep := Function.update_eq_self caster s.1.entry
  rcases h : s.1.players.lookup caster with _ | casterState
  · have he : s.1.entry caster = none := h
    have hs : resolveCast s (caster, skillId, targetId) = s := by simp only [resolveCast, h]
    rw [he] at hkeep
    simp only [hs, he, pay, hkeep]
    exact ⟨Fought.refl _, (List.append_nil _).symm⟩
  have he : s.1.entry caster = some casterState := h
  by_cases hmp : casterState.mp < 10
  · have hs : resolveCast s (caster, skillId, targetId) =
        (s.1.send (.text caster "not enough mana"), s.2) := by
      simp only [resolveCast, h, if_pos hmp]
    rw [he] at hkeep
    simp only [hs, he, pay, if_pos hmp, hkeep]
    exact ⟨⟨by simp [send, Payment.told], rfl⟩, (List.append_nil _).symm⟩
  · have hs : resolveCast s (caster, skillId, targetId) =
        ({ s.1 with
          players := s.1.players.insert caster { casterState with mp := casterState.mp - 10 } },
        s.2 ++ [⟨caster, casterState.characterId, skillId, targetId⟩]) := by
      simp only [resolveCast, h, if_neg hmp]
    simp only [hs, he, pay, if_neg hmp]
    exact ⟨⟨by simp [Payment.told], entry_insert s.1.players caster _⟩, rfl⟩

lemma resolveCast_foldl (casts : List (SessionId × Int32 × Option SessionId))
    (s : MapInstance × List ResolvedSkill) :
    let payments := outputsAll Prod.fst pay s.1.entry casts
    Fought s.1 (casts.foldl resolveCast s).1 (finalAll Prod.fst pay s.1.entry casts)
      (payments.flatMap fun p => p.2.told p.1) [] ∧
    (casts.foldl resolveCast s).2 = s.2 ++ payments.filterMap fun p => p.2.skill := by
  induction casts generalizing s with
  | nil => exact ⟨Fought.refl _, (List.append_nil _).symm⟩
  | cons cast casts ih =>
    obtain ⟨hone, hskill⟩ := resolveCast_fought s cast
    obtain ⟨hrest, hskills⟩ := ih (resolveCast s cast)
    rw [hone.entries] at hrest hskills
    refine ⟨hone.trans hrest, ?_⟩
    rw [List.foldl_cons, hskills, hskill, List.append_assoc, outputsAll, List.filterMap_cons]
    cases (pay (s.1.entry cast.1) cast).2.skill <;> simp

lemma applySkill_fought (m : MapInstance) (skill : ResolvedSkill) :
    Fought m (m.applySkill skill)
      (fun x => (m.entry x).map (·.wounded (damagesOn x (strike m.ids skill).toList)))
      (skillEvents m.ids skill) ((strike m.ids skill).toList.map (·.log m.config.mapId)) := by
  obtain ⟨caster, casterCharacterId, skillId, targetId⟩ := skill
  have hsame : (fun x => (m.entry x).map (·.wounded (damagesOn x []))) = m.entry := by
    funext x
    exact Option.map_id' (x := m.entry x)
  rcases targetId with _ | target
  · simp only [strike, Option.toList_none, hsame]
    exact ⟨by simp [applySkill, skillEvents, send], rfl⟩
  rcases h : m.players.lookup target with _ | targetState
  · have hid : m.ids target = none := by simp only [ids, entry, h, Option.map_none]
    have hm : m.applySkill ⟨caster, casterCharacterId, skillId, some target⟩ = m := by
      simp only [applySkill, h]
    simp only [hm, strike, skillEvents, hid, Option.map_none, Option.toList_none, hsame]
    exact Fought.refl m
  · have hid : m.ids target = some targetState.characterId := by
      simp only [ids, entry, h, Option.map_some]
    have hstruck := lookup_strike h (skillDamage skillId)
    simp only [strike, skillEvents, hid, Option.map_some, Option.toList_some]
    refine ⟨by simp [applySkill, h, send, persist, Hit.result, Hit.log, skillDamage], ?_⟩
    funext x
    rw [damagesOn_cons, damagesOn]
    simp only [List.filter_nil, List.map_nil, List.append_nil]
    refine Eq.trans ?_ (hstruck x)
    simp only [applySkill, h, send, persist, skillDamage, entry]

lemma applySkill_foldl (skills : List ResolvedSkill) (m : MapInstance) :
    let hits := skills.filterMap (strike m.ids)
    Fought m (skills.foldl applySkill m)
      (fun x => (m.entry x).map (·.wounded (damagesOn x hits)))
      (skills.flatMap (skillEvents m.ids)) (hits.map (·.log m.config.mapId)) := by
  induction skills generalizing m with
  | nil =>
    refine ⟨(Fought.refl m).eq, ?_⟩
    funext x
    exact (Option.map_id' (x := m.entry x)).symm
  | cons skill skills ih =>
    have hone := applySkill_fought m skill
    have hrest := ih (m.applySkill skill)
    have hids : (m.applySkill skill).ids = m.ids := by
      funext x
      rw [ids, hone.entries, ids, Option.map_map]
      rfl
    have hconfig : (m.applySkill skill).config = m.config := by rw [hone.eq]
    rw [hids, hconfig] at hrest
    have hboth := hone.trans hrest
    have hcons : (skill :: skills).filterMap (strike m.ids) =
        (strike m.ids skill).toList ++ skills.filterMap (strike m.ids) := by
      rw [List.filterMap_cons]
      cases strike m.ids skill <;> rfl
    dsimp only
    rw [hcons, List.map_append]
    refine ⟨hboth.eq, ?_⟩
    rw [List.foldl_cons, hboth.entries]
    funext x
    rw [hone.entries, Option.map_map, damagesOn_append]
    congr 1
    funext player
    exact player.wounded_wounded _ _

lemma pay_characterId (player : Option PlayerState) (cast : SessionId × Int32 × Option SessionId) :
    (pay player cast).1.map (·.characterId) = player.map (·.characterId) := by
  unfold pay
  split
  · rfl
  · split <;> rfl

theorem resolveSkills_fought (m : MapInstance) :
    let payments := outputsAll Prod.fst pay m.entry m.pendingSkillCasts
    let skills := payments.filterMap fun p => p.2.skill
    let hits := skills.filterMap (strike m.ids)
    Fought { m with pendingSkillCasts := [] } m.resolveSkills
      (fun x => (finalAll Prod.fst pay m.entry m.pendingSkillCasts x).map
        (·.wounded (damagesOn x hits)))
      (payments.flatMap (fun p => p.2.told p.1) ++ skills.flatMap (skillEvents m.ids))
      (hits.map (·.log m.config.mapId)) := by
  obtain ⟨hcasts, hskills⟩ :=
    resolveCast_foldl m.pendingSkillCasts ({ m with pendingSkillCasts := [] }, [])
  rw [List.nil_append] at hskills
  have happly := applySkill_foldl
    (m.pendingSkillCasts.foldl resolveCast ({ m with pendingSkillCasts := [] }, [])).2
    (m.pendingSkillCasts.foldl resolveCast ({ m with pendingSkillCasts := [] }, [])).1
  have hids : (m.pendingSkillCasts.foldl resolveCast
      ({ m with pendingSkillCasts := [] }, [])).1.ids = m.ids := by
    funext x
    rw [ids, hcasts.entries]
    exact finalAll_keeps pay_characterId _ _ _
  have hconfig : (m.pendingSkillCasts.foldl resolveCast
      ({ m with pendingSkillCasts := [] }, [])).1.config = m.config := by rw [hcasts.eq]
  rw [hids, hconfig, hcasts.entries, hskills] at happly
  have hboth := hcasts.trans happly
  rw [List.nil_append] at hboth
  unfold resolveSkills
  dsimp only
  rw [hskills]
  exact hboth

/-- The skills of a tick, after its attacks. -/
theorem systemCombat_skills (m : MapInstance) :
    Fought { m.resolveAttacks with pendingSkillCasts := [] } m.systemCombat
      (fun x => (m.paid x).map (·.wounded (damagesOn x m.skillHits)))
      (m.payments.flatMap (fun p => p.2.told p.1) ++ m.skills.flatMap (skillEvents m.ids))
      (m.skillHits.map (·.log m.config.mapId)) := by
  obtain ⟨resolved, -, -, hattacks⟩ := resolveAttacks_fought m
  have hskills := resolveSkills_fought m.resolveAttacks
  have hids : m.resolveAttacks.ids = m.ids := by
    funext x
    rw [ids, hattacks.entries, hurt, Option.map_map]
    rfl
  have hmapId : m.resolveAttacks.config.mapId = m.config.mapId := by rw [hattacks.eq]
  have hcasts : m.resolveAttacks.pendingSkillCasts = m.pendingSkillCasts := by rw [hattacks.eq]
  rw [hids, hmapId, hcasts, hattacks.entries] at hskills
  exact hskills

/-- **The combat of a tick** wounds the players with the hits of the tick, attacks first, and
logs the hits in that order. -/
theorem systemCombat_fought (m : MapInstance) :
    ∃ resolved : List ResolvedAttack,
      resolved.map (·.hit) = m.attackHits ∧
      resolved.map (fun a => (a.defender, a.defeated)) =
        outputsAll id (fell (attackDamage m.tickIndex)) (hpOf m.players)
          (m.attackHits.map (·.defender)) ∧
      Fought { m with pendingAttacks := [], pendingSkillCasts := [] } m.systemCombat
        (fun x => (m.paid x).map (·.wounded (damagesOn x m.skillHits)))
        (resolved.flatMap (·.events) ++
          (m.payments.flatMap (fun p => p.2.told p.1) ++ m.skills.flatMap (skillEvents m.ids)))
        ((m.attackHits ++ m.skillHits).map (·.log m.config.mapId)) := by
  obtain ⟨resolved, hhits, hfalls, hattacks⟩ := resolveAttacks_fought m
  refine ⟨resolved, hhits, hfalls, ?_⟩
  have hpre : Fought { m with pendingAttacks := [], pendingSkillCasts := [] }
      { m.resolveAttacks with pendingSkillCasts := [] } m.hurt (resolved.flatMap (·.events))
      (m.attackHits.map (·.log m.config.mapId)) := by
    refine ⟨?_, hattacks.entries⟩
    rw [hattacks.eq]
  rw [List.map_append]
  exact hpre.trans (systemCombat_skills m)

end MapInstance

end HelbreathBackend.MapServer
