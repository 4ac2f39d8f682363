import HelbreathBackend.MapResources
import HelbreathBackend.MapTimers

/-!
The defeats of a tick, and what the players are told of them.

The loop over the attacks tells the defender of every attack that leaves it without hit points,
also of those that found it without any; the loop over the paid skills tells nobody. And a chat is
sent back as it came. So what a session is told agrees with its defeats under a condition on the
hit points with which it goes into the combat, the attacks on it, and the skills aimed at it.
-/

namespace HelbreathBackend.Defeats

open HelbreathBackend.Lib HelbreathBackend.Domain HelbreathBackend.Application
open HelbreathBackend.MapServer HelbreathBackend.MapServer.MapInstance HelbreathBackend.Resources

/-! ### Defeats and texts -/

/-- The rounds that take hit points. -/
def isHit : Round → Bool
  | .attack _ | .skill _ => true
  | _ => false

/-- The session is on the map with hit points left. -/
def Alive (s : SessionId) (players : Players) : Prop := 0 < (hpOf players s).toInt

instance (s : SessionId) (players : Players) : Decidable (Alive s players) :=
  inferInstanceAs (Decidable (_ < _))

/-- A hit that takes the session from hit points above 0 to 0. -/
def Fells (s : SessionId) (x : Moment) : Prop :=
  isHit x.round = true ∧ Alive s x.before ∧ (hpOf x.after s).toInt = 0

instance (s : SessionId) (x : Moment) : Decidable (Fells s x) :=
  inferInstanceAs (Decidable (_ ∧ _ ∧ _))

/-- How often the session is defeated in the next tick. -/
def defeats (s : SessionId) (m : MapInstance) (iter : Iteration) : ℕ :=
  (tickMoments m iter).countP fun x => decide (Fells s x)

/-- How often the session was told since `m` that it is defeated. -/
def told (s : SessionId) (m m' : MapInstance) : ℕ :=
  (m'.outboundTx.drop m.outboundTx.length).count (.text s "you are defeated")

/-! ### The defeats of a tick -/

lemma hp_nonneg {players : Players} (h : AllHealthy players) (s : SessionId) :
    0 ≤ (hpOf players s).toInt := by
  unfold hpOf
  rcases hs : players.lookup s with _ | player
  · rfl
  · exact (h s player hs).hp_nonneg

lemma alive_before {x : Moment} (h : Lawful x) (hhit : isHit x.round = true) {s : SessionId}
    (halive : Alive s x.after) : Alive s x.before := by
  have hchange := h.change s
  unfold Alive hpOf at halive ⊢
  generalize hb : x.before.lookup s = before at hchange ⊢
  generalize ha : x.after.lookup s = after at hchange halive
  cases hchange with
  | absent => exact halive
  | created henter =>
    obtain ⟨characterId, hround⟩ := henter
    rw [hround] at hhit
    cases hhit
  | removed => exact absurd halive (lt_irrefl _)
  | kept _ hhp => exact lt_of_lt_of_le halive hhp

/-- In a loop over hits a session is defeated once, if it has hit points before and not after. -/
lemma countP_hits {m : MapInstance} (h : AllHealthy m.players) (rounds : List Round)
    (hhit : ∀ round ∈ rounds, isHit round = true) (s : SessionId) :
    (moments m rounds).countP (fun x => decide (Fells s x)) =
      if Alive s m.players ∧ ¬ Alive s (rounds.foldl Round.run m).players then 1 else 0 := by
  have hlawful := lawful_moments h rounds
  have hround : ∀ x ∈ moments m rounds, isHit x.round = true := by
    intro x hx
    refine hhit x.round ?_
    have hmem := List.mem_map_of_mem (f := (·.round)) hx
    rwa [moments_rounds] at hmem
  rw [← (moments_leads m rounds).countP_lost fun x hx => alive_before (hlawful x hx) (hround x hx)]
  refine List.countP_congr fun x hx => ?_
  have hnonneg := hp_nonneg (hlawful x hx).after s
  rw [decide_eq_true_iff, decide_eq_true_iff, Fells, and_iff_right (hround x hx)]
  refine and_congr_right fun _ => ?_
  unfold Alive
  omega

lemma countP_others (m : MapInstance) (rounds : List Round)
    (hno : ∀ round ∈ rounds, isHit round = false) (s : SessionId) :
    (moments m rounds).countP (fun x => decide (Fells s x)) = 0 := by
  rw [List.countP_eq_zero]
  intro x hx hfells
  have hmem := List.mem_map_of_mem (f := (·.round)) hx
  rw [moments_rounds] at hmem
  have hhit := (of_decide_eq_true hfells).1
  rw [hno x.round hmem] at hhit
  cases hhit

/-- The hit points that the hits take off the session. -/
def dealt (s : SessionId) (hits : List Hit) : ℤ := ((damagesOn s hits).map (·.toInt)).sum

lemma dealt_append (s : SessionId) (hits hits' : List Hit) :
    dealt s (hits ++ hits') = dealt s hits + dealt s hits' := by
  rw [dealt, damagesOn_append, List.map_append, List.sum_append]
  rfl

lemma dealt_nonneg {c : MapInstance} {hits : List Hit} (hfit : ∀ h ∈ hits, c.Fits h)
    (s : SessionId) : 0 ≤ dealt s hits := by
  refine List.sum_nonneg fun z hz => ?_
  obtain ⟨d, hd, rfl⟩ := List.mem_map.mp hz
  exact (damagesOn_bounds hfit s d hd).1

/-- What hits leave of the hit points of a session. -/
lemma hp_after_hits {c : MapInstance} {players : Players} {hits : List Hit} {s : SessionId}
    (hhealthy : AllHealthy c.players) (hfit : ∀ h ∈ hits, c.Fits h)
    (h : (players.lookup s).map (·.hp) =
      (c.players.lookup s).map fun p => wound p.hp (damagesOn s hits)) :
    (hpOf players s).toInt = max 0 ((hpOf c.players s).toInt - dealt s hits) := by
  have hnonneg := dealt_nonneg hfit s
  unfold hpOf
  rw [h]
  rcases hs : c.players.lookup s with _ | player
  · have h0 : (0 : Int32).toInt = 0 := rfl
    simp only [Option.map_none, Option.getD_none, h0]
    omega
  · exact ((hhealthy s player hs).wounded (damagesOn_bounds hfit s)).2

lemma hp_resolveAttacks {c : MapInstance} (h : AllHealthy c.players) (iter : Iteration)
    (s : SessionId) :
    (hpOf (c.systemMovement iter).resolveAttacks.players s).toInt =
      max 0 ((hpOf c.players s).toInt - dealt s c.attackHits) := by
  obtain ⟨resolved, -, -, hattacks⟩ := resolveAttacks_fought (c.systemMovement iter)
  have hentry : (c.systemMovement iter).resolveAttacks.players.lookup s = c.hurt s :=
    congrFun hattacks.entries s
  refine hp_after_hits h (attackHits_fit c) ?_
  rw [hentry, hurt, Option.map_map]
  rfl

lemma hpOf_castLoop (d : MapInstance) (s : SessionId) :
    hpOf d.castLoop.1.players s = hpOf d.players s := by
  have hloop := (resolveCast_foldl d.pendingSkillCasts ({ d with pendingSkillCasts := [] }, [])).1
  have hlookup : d.castLoop.1.players.lookup s =
      finalAll Prod.fst pay d.entry d.pendingSkillCasts s := congrFun hloop.entries s
  have hkeep : (finalAll Prod.fst pay d.entry d.pendingSkillCasts s).map (·.hp) =
      (d.players.lookup s).map (·.hp) :=
    finalAll_keeps (pay_keeps fun _ _ => rfl) d.entry d.pendingSkillCasts s
  rw [hpOf, hpOf, hlookup, hkeep]

lemma hp_tick {m : MapInstance} (h : m.Sound) (iter : Iteration) (s : SessionId) :
    let c := m.begun.inputStage
    (hpOf (m.tick iter).players s).toInt =
      max 0 ((hpOf c.players s).toInt - (dealt s c.attackHits + dealt s c.skillHits)) := by
  intro c
  obtain ⟨resolved, hticked⟩ := tick_ticked m iter
  have hentry : (m.tick iter).players.lookup s = c.survived s := congrFun hticked.entries s
  have hsurvived := congrArg (Option.map Prod.snd) (survived_eq c s)
  rw [Option.map_map, Option.map_map] at hsurvived
  rw [← dealt_append]
  refine hp_after_hits h.begun.inputStage.1 (hits_fit c) ?_
  rw [hentry]
  exact hsurvived

lemma defeats_loops {m : MapInstance} (h : m.Sound) (iter : Iteration) (s : SessionId) :
    let c := m.begun.inputStage
    let d := (c.systemMovement iter).resolveAttacks
    defeats s m iter = (if Alive s c.players ∧ ¬ Alive s d.players then 1 else 0) +
      if Alive s d.players ∧ ¬ Alive s (m.tick iter).players then 1 else 0 := by
  intro c d
  let b := m.begun
  have hc : AllHealthy c.players := h.begun.inputStage.1
  have hd : AllHealthy d.players := healthy_resolveAttacks (c := c.systemMovement iter) hc
  have he : AllHealthy d.castLoop.1.players := healthy_castLoop hd
  have hinput := countP_others b.opened (b.processScheduledEvents.pendingCommands.map .input)
    (List.forall_mem_map.mpr fun _ _ => rfl) s
  have hattacks := countP_hits (m := c.systemMovement iter) hc (c.pendingAttacks.map .attack)
    (List.forall_mem_map.mpr fun _ _ => rfl) s
  have hcasts := countP_others { d with pendingSkillCasts := [] } (d.pendingSkillCasts.map .cast)
    (List.forall_mem_map.mpr fun _ _ => rfl) s
  have hskills := countP_hits he (d.castLoop.2.map .skill)
    (List.forall_mem_map.mpr fun _ _ => rfl) s
  have hmid : (((c.systemMovement iter).pendingAttacks.map Round.attack).foldl Round.run
      (c.systemMovement iter)).players = d.players := resolveAttacks_players _
  have hlast : ((d.castLoop.2.map Round.skill).foldl Round.run d.castLoop.1).players =
      (m.tick iter).players := skillRounds_players m iter
  have halive : Alive s d.castLoop.1.players ↔ Alive s d.players := by
    unfold Alive
    rw [hpOf_castLoop]
  rw [hlast] at hskills
  simp only [halive] at hskills
  have hsum : defeats s m iter =
      (moments b.opened (b.processScheduledEvents.pendingCommands.map .input)).countP
        (fun x => decide (Fells s x)) +
      (moments (c.systemMovement iter) (c.pendingAttacks.map .attack)).countP
        (fun x => decide (Fells s x)) +
      (moments { d with pendingSkillCasts := [] } (d.pendingSkillCasts.map .cast)).countP
        (fun x => decide (Fells s x)) +
      (moments d.castLoop.1 (d.castLoop.2.map .skill)).countP (fun x => decide (Fells s x)) := by
    rw [defeats, tickMoments, List.countP_append, List.countP_append, List.countP_append]
    rfl
  rw [hsum, hinput, hattacks, hcasts, hskills, zero_add, add_zero]
  have hmid' : (((c.pendingAttacks.map Round.attack).foldl Round.run
      (c.systemMovement iter)).players) = d.players := hmid
  rw [hmid']
  rfl

/-- **The defeats of a tick**, from the hit points with which a session goes into the combat and
what the attacks and the skills take. -/
theorem defeats_eq {m : MapInstance} (h : m.Sound) (iter : Iteration) (s : SessionId) :
    let c := m.begun.inputStage
    let hp := (hpOf c.players s).toInt
    let attacked := dealt s c.attackHits
    defeats s m iter = (if 0 < hp ∧ hp ≤ attacked then 1 else 0) +
      if attacked < hp ∧ hp ≤ attacked + dealt s c.skillHits then 1 else 0 := by
  intro c hp attacked
  have hc : AllHealthy c.players := h.begun.inputStage.1
  have hhp : 0 ≤ hp := hp_nonneg hc s
  have hattacked : 0 ≤ attacked := dealt_nonneg (attackHits_fit c) s
  have hspells : 0 ≤ dealt s c.skillHits := dealt_nonneg (skillHits_fit c) s
  have hmid := hp_resolveAttacks hc iter s
  have hlast : (hpOf (m.tick iter).players s).toInt =
      max 0 (hp - (attacked + dealt s c.skillHits)) := hp_tick h iter s
  have hbyAttack : (Alive s c.players ∧
      ¬ Alive s (c.systemMovement iter).resolveAttacks.players) ↔ 0 < hp ∧ hp ≤ attacked := by
    unfold Alive
    rw [hmid]
    change (0 < hp ∧ ¬ 0 < max 0 (hp - attacked)) ↔ _
    omega
  have hbySkill : (Alive s (c.systemMovement iter).resolveAttacks.players ∧
      ¬ Alive s (m.tick iter).players) ↔
      attacked < hp ∧ hp ≤ attacked + dealt s c.skillHits := by
    unfold Alive
    rw [hmid, hlast]
    change (0 < max 0 (hp - attacked) ∧ _) ↔ _
    omega
  rw [defeats_loops h iter s]
  exact congrArg₂ (· + ·) (if_congr hbyAttack rfl rfl) (if_congr hbySkill rfl rfl)

/-! ### What a session is told -/

/-- The text of a defeat. -/
abbrev defeatText (s : SessionId) : OutboundEvent := .text s "you are defeated"

/-- The chats of the session that are sent back as the text of a defeat. -/
def echoes (s : SessionId) (commands : List IncomingCommand) : ℕ :=
  commands.countP fun incoming =>
    decide (incoming.sessionId = s ∧ incoming.command = .chat "you are defeated")

/-- The attacks on the session that strike. -/
def strikes (c : MapInstance) (s : SessionId) : ℕ :=
  c.pendingAttacks.countP fun attack =>
    decide (attack.2 = s ∧ (c.entry attack.1).isSome = true ∧ (c.entry s).isSome = true)

lemma append_ne_defeated {p x : String} {c : Char} {rest : List Char} (h : p.toList = c :: rest)
    (hc : c ≠ 'y') : p ++ x ≠ "you are defeated" := by
  intro he
  have hhead := congrArg (fun t => t.toList.head?) he
  rw [String.toList_append, h] at hhead
  exact hc (Option.some.inj hhead)

lemma npcAnswer_ne_defeated {incoming : IncomingCommand} {e : OutboundEvent} {s : SessionId}
    (h : npcAnswer incoming = some e) : e ≠ defeatText s := by
  unfold npcAnswer at h
  split at h
  · obtain rfl := Option.some.inj h
    intro he
    exact append_ne_defeated (c := 'n') rfl (by decide) (OutboundEvent.text.inj he).2
  · cases h

lemma inputReply_eq_defeated {incoming : IncomingCommand} {s : SessionId} :
    inputReply incoming = some (defeatText s) ↔
      incoming.sessionId = s ∧ incoming.command = .chat "you are defeated" := by
  obtain ⟨s', characterId, command⟩ := incoming
  cases command
  case chat message => simp [inputReply]
  case whisper toCharacter message =>
    refine iff_of_false (fun h => ?_) (fun h => by cases h.2)
    have htext := (OutboundEvent.text.inj (Option.some.inj h)).2
    rw [String.append_assoc, String.append_assoc] at htext
    exact append_ne_defeated (c := '(') rfl (by decide) htext
  case guildChat message =>
    refine iff_of_false (fun h => ?_) (fun h => by cases h.2)
    exact append_ne_defeated (c := '[') rfl (by decide)
      (OutboundEvent.text.inj (Option.some.inj h)).2
  case heartbeat =>
    refine iff_of_false (fun h => ?_) (fun h => by cases h.2)
    exact absurd (OutboundEvent.text.inj (Option.some.inj h)).2 (by decide)
  all_goals exact iff_of_false nofun fun h => by cases h.2

lemma count_replies (s : SessionId) (commands : List IncomingCommand) :
    (commands.filterMap inputReply).count (defeatText s) = echoes s commands := by
  rw [List.count_filterMap, echoes]
  refine List.countP_congr fun incoming _ => ?_
  rw [beq_iff_eq, decide_eq_true_iff, inputReply_eq_defeated]

/-- The attacks that leave a defender of `hp` hit points without any, of as many as there are
entries in the list. -/
lemma count_fell {damage : Int32} (hd : 0 < damage.toInt ∧ damage.toInt ≤ 16)
    (l : List SessionId) {hp : Int32} (hhp : 0 ≤ hp.toInt) :
    (outputs (fell damage) hp l).count true =
      l.length - (hp.toInt.toNat - 1) / damage.toInt.toNat := by
  induction l generalizing hp with
  | nil => simp [outputs]
  | cons x l ih =>
    have hsub : (hp - damage).toInt = hp.toInt - damage.toInt :=
      toInt_sub_damage (by omega) (by omega)
    have hmax : (max (hp - damage) 0).toInt = max (hp.toInt - damage.toInt) 0 := by
      rw [toInt_max, hsub]
      rfl
    have hrest : (outputs (fell damage) (max (hp - damage) 0) l).count true =
        l.length - ((max (hp - damage) 0).toInt.toNat - 1) / damage.toInt.toNat := ih (by omega)
    have hleft : (fell damage hp x).1 = max (hp - damage) 0 := rfl
    have hzero : (fell damage hp x).2 = decide (hp.toInt ≤ damage.toInt) := by
      rw [fell, beq_eq_decide]
      refine decide_eq_decide.mpr ?_
      have h0 : (0 : Int32).toInt = 0 := rfl
      rw [← Int32.toInt_inj, hmax, h0]
      omega
    have hdpos : 0 < damage.toInt.toNat := by omega
    rw [outputs, hleft, hzero, List.count_cons, hrest, hmax, List.length_cons]
    by_cases hle : hp.toInt ≤ damage.toInt
    · have hquot : (hp.toInt.toNat - 1) / damage.toInt.toNat = 0 :=
        Nat.div_eq_of_lt (by omega)
      have hnone : max (hp.toInt - damage.toInt) 0 = 0 := by omega
      rw [hquot, hnone, decide_eq_true hle]
      simp
    · have hquot : (hp.toInt.toNat - 1) / damage.toInt.toNat =
          ((max (hp.toInt - damage.toInt) 0).toNat - 1) / damage.toInt.toNat + 1 := by
        rw [← Nat.add_div_right _ hdpos]
        congr 1
        omega
      rw [hquot, decide_eq_false hle, if_neg (by decide : ¬ (false == true) = true)]
      omega

lemma length_attackHits (c : MapInstance) (s : SessionId) :
    ((c.attackHits.map (·.defender)).filter fun x => x = s).length = strikes c s := by
  rw [attackHits, List.map_filterMap, ← List.countP_eq_length_filter, List.countP_filterMap,
    strikes]
  refine List.countP_congr fun attack _ => ?_
  unfold aim ids
  by_cases hs : attack.2 = s
  · subst hs
    rcases c.entry attack.1 with _ | a <;> rcases c.entry attack.2 with _ | d <;> simp
  · rcases c.entry attack.1 with _ | a <;> rcases c.entry attack.2 with _ | d <;> simp [hs]

lemma count_combatEvents {c : MapInstance} {resolved : List ResolvedAttack}
    (h : c.IsResolved resolved) (hhealthy : AllHealthy c.players) (s : SessionId) :
    (c.combatEvents resolved).count (defeatText s) =
      strikes c s - ((hpOf c.players s).toInt.toNat - 1) /
        (attackDamage c.tickIndex).toInt.toNat := by
  have htold : (c.payments.flatMap fun p => p.2.told p.1).count (defeatText s) = 0 := by
    rw [List.count_eq_zero, List.mem_flatMap]
    rintro ⟨⟨caster, payment⟩, -, hmem⟩
    cases payment
    case notEnoughMana =>
      have htext := (OutboundEvent.text.inj (List.mem_singleton.mp hmem)).2
      exact absurd htext (by decide)
    all_goals exact absurd hmem List.not_mem_nil
  have hskills : (c.skills.flatMap (skillEvents c.ids)).count (defeatText s) = 0 := by
    rw [List.count_eq_zero, List.mem_flatMap]
    rintro ⟨⟨caster, characterId, skillId, targetId⟩, -, hmem⟩
    rcases targetId with _ | target
    · have htext := (OutboundEvent.text.inj (List.mem_singleton.mp hmem)).2
      exact append_ne_defeated (c := 's') rfl (by decide) htext.symm
    · obtain ⟨hit, -, hhit⟩ := Option.map_eq_some_iff.mp (Option.mem_toList.mp hmem)
      cases hhit
  have hattacks : (resolved.flatMap (·.events)).count (defeatText s) =
      (resolved.map fun a => (a.defender, a.defeated)).count (s, true) := by
    clear h
    induction resolved with
    | nil => rfl
    | cons a resolved ih =>
      rw [List.flatMap_cons, List.count_append, ih, List.map_cons, List.count_cons, add_comm]
      congr 1
      unfold ResolvedAttack.events Hit.result
      cases a.defeated <;> by_cases hs : a.defender = s <;> simp [hs]
  have hfalls : (resolved.map fun a => (a.defender, a.defeated)).count (s, true) =
      (outputs (fell (attackDamage c.tickIndex)) (hpOf c.players s)
        ((c.attackHits.map (·.defender)).filter fun x => x = s)).count true := by
    rw [h.falls, ← List.count_filter (p := fun o => decide (o.1 = s)) (by simp),
      outputsAll_filter, List.count_map_of_injective _ _ (Prod.mk_right_injective s)]
    rfl
  have hdamage := attackDamage_mem c.tickIndex
  rw [combatEvents, List.count_append, List.count_append, htold, hskills, hattacks, hfalls,
    count_fell ⟨by omega, by omega⟩ _ (hp_nonneg hhealthy s), length_attackHits, add_zero, add_zero]

/-- **What a session is told** in a tick: its own chats, and every attack that leaves it without
hit points. -/
theorem told_eq {config : MapConfig} {m : MapInstance} (h : (mapSystem config).Reached m)
    (iter : Iteration) (s : SessionId) :
    let c := m.begun.inputStage
    told s m (m.tick iter) = echoes s m.batch +
      (strikes c s - ((hpOf c.players s).toInt.toNat - 1) /
        (attackDamage c.tickIndex).toInt.toNat) := by
  intro c
  obtain ⟨due, resolved, hdue, hresolved, hsent⟩ := tick_sends h iter
  have hc : AllHealthy c.players := (sound_of_reached h).begun.inputStage.1
  have hanswers : due.count (defeatText s) = 0 := by
    rw [List.count_eq_zero]
    intro hmem
    obtain ⟨incoming, hincoming⟩ := hdue _ hmem
    exact npcAnswer_ne_defeated hincoming rfl
  have hpositions : (positions iter c.players).count (defeatText s) = 0 := by
    rw [List.count_eq_zero, positions, List.mem_map]
    rintro ⟨e, -, he⟩
    cases he
  have hai : (aiEvents iter c.tickIndex (m.tick iter).players).count (defeatText s) = 0 := by
    rw [List.count_eq_zero]
    intro hmem
    unfold aiEvents at hmem
    split at hmem
    · split at hmem
      · have htext := (OutboundEvent.text.inj (List.mem_singleton.mp hmem)).2
        exact absurd htext (by decide)
      · cases hmem
    · cases hmem
  have haoi : (aoiEvents iter c.tickIndex (m.tick iter).players).count (defeatText s) = 0 := by
    rw [List.count_eq_zero]
    intro hmem
    unfold aoiEvents at hmem
    split at hmem
    · obtain ⟨e, -, he⟩ := List.mem_map.mp hmem
      exact append_ne_defeated (c := 'a') rfl (by decide) (OutboundEvent.text.inj he).2
    · cases hmem
  rw [told, hsent, List.drop_left]
  simp only [List.count_append]
  rw [hanswers, hpositions, hai, haoi, count_replies, count_combatEvents hresolved hc, zero_add,
    add_zero, add_zero, add_zero]

/-! ### What the attacks and the skills take -/

lemma dealt_attackHits (c : MapInstance) (s : SessionId) :
    dealt s c.attackHits = strikes c s * (attackDamage c.tickIndex).toInt := by
  have hsame : ∀ hit ∈ c.attackHits.filter (fun h => h.defender = s),
      hit.damage.toInt = (attackDamage c.tickIndex).toInt := by
    intro hit hmem
    obtain ⟨attack, -, haim⟩ := List.mem_filterMap.mp (List.mem_of_mem_filter hmem)
    unfold aim at haim
    split at haim
    · obtain rfl := Option.some.inj haim
      rfl
    · cases haim
  have hlen : (c.attackHits.filter fun h => h.defender = s).length = strikes c s := by
    rw [← length_attackHits, List.filter_map, List.length_map]
    rfl
  have hmap : ((damagesOn s c.attackHits).map (·.toInt)) =
      List.replicate (strikes c s) (attackDamage c.tickIndex).toInt := by
    rw [damagesOn, List.map_map, List.eq_replicate_iff]
    refine ⟨by rw [List.length_map, hlen], fun z hz => ?_⟩
    obtain ⟨hit, hmem, rfl⟩ := List.mem_map.mp hz
    exact hsame hit hmem
  rw [dealt, hmap, List.sum_replicate, Int.nsmul_eq_mul]

/-- The casts of the session that it has the mana for: the first ones. -/
def affordable (c : MapInstance) (caster : SessionId) : List (SessionId × Int32 × Option SessionId) :=
  (c.pendingSkillCasts.filter fun cast => cast.1 = caster).take
    (((c.entry caster).map fun player => player.mp.toInt.toNat / 10).getD 0)

/-- What a cast takes of the hit points of the session. -/
def spell (s : SessionId) (cast : SessionId × Int32 × Option SessionId) : ℕ :=
  if cast.2.2 = some s then (skillDamage cast.2.1).toInt.toNat else 0

/-- What the casts that are paid take of the hit points of the session. -/
def spellDamage (c : MapInstance) (s : SessionId) : ℕ :=
  ∑ caster ∈ c.players.keys, ((affordable c caster).map (spell s)).sum

lemma sum_by_key {α κ : Type} [DecidableEq κ] (key : α → κ) {keys : Finset κ} (f : α → ℕ)
    (l : List α) (h : ∀ a ∈ l, key a ∈ keys) :
    (l.map f).sum = ∑ k ∈ keys, ((l.filter fun a => key a = k).map f).sum := by
  induction l with
  | nil => simp
  | cons a l ih =>
    have hrest := ih fun b hb => h b (List.mem_cons_of_mem _ hb)
    have hcons : ∀ k, (((a :: l).filter fun b => key b = k).map f).sum =
        (if key a = k then f a else 0) + ((l.filter fun b => key b = k).map f).sum := by
      intro k
      by_cases hk : key a = k <;> simp [hk]
    simp only [hcons]
    rw [Finset.sum_add_distrib, Finset.sum_ite_eq, if_pos (h a List.mem_cons_self), ← hrest,
      List.map_cons, List.sum_cons]

lemma outputs_pay {player : PlayerState} (h : player.Healthy)
    (casts : List (SessionId × Int32 × Option SessionId)) :
    (outputs pay (some player) casts).filterMap (·.skill) =
      (casts.take (player.mp.toInt.toNat / 10)).map fun cast =>
        ⟨cast.1, player.characterId, cast.2.1, cast.2.2⟩ := by
  induction casts generalizing player with
  | nil => simp [outputs]
  | cons cast casts ih =>
    rw [outputs]
    by_cases hmp : player.mp < 10
    · have hrest := ih h
      rw [pay_of_lt hmp]
      rw [mp_lt_ten_iff] at hmp
      have hzero : player.mp.toInt.toNat / 10 = 0 := by omega
      rw [hzero, List.take_zero, List.map_nil] at hrest ⊢
      exact hrest
    · obtain ⟨hsub, hhealthy⟩ := h.spent hmp
      have hrest := ih hhealthy
      dsimp only at hrest
      rw [pay_of_not_lt hmp]
      rw [mp_lt_ten_iff] at hmp
      have hsucc : player.mp.toInt.toNat / 10 = (player.mp - 10).toInt.toNat / 10 + 1 := by
        rw [hsub]
        omega
      rw [hsucc, List.take_succ_cons, List.map_cons, ← hrest]
      rfl

lemma skills_of_caster {c : MapInstance} (h : AllHealthy c.players) {caster : SessionId}
    {player : PlayerState} (hplayer : c.entry caster = some player) :
    c.skills.filter (fun skill => skill.caster = caster) =
      (affordable c caster).map fun cast =>
        ⟨cast.1, player.characterId, cast.2.1, cast.2.2⟩ := by
  have hown : ∀ p ∈ c.payments, ∀ skill, p.2.skill = some skill → skill.caster = p.1 := by
    intro p hp skill hskill
    obtain ⟨pre, cast, post, -, rfl⟩ := mem_outputsAll.mp hp
    obtain ⟨-, -, -, rfl⟩ := pay_skill.mp hskill
    rfl
  have hfilter : c.skills.filter (fun skill => skill.caster = caster) =
      (c.payments.filter fun p => p.1 = caster).filterMap (·.2.skill) := by
    rw [skills, List.filter_filterMap, List.filterMap_filter]
    refine List.filterMap_congr fun p hp => ?_
    rcases hskill : p.2.skill with _ | skill
    · by_cases hs : p.1 = caster <;> simp [hs]
    · have hcaster := hown p hp skill hskill
      by_cases hs : p.1 = caster <;> simp [hs, hcaster]
  have hhealthy := ((h caster player hplayer).wounded
    (damagesOn_bounds (attackHits_fit c) caster)).1
  have hpaid := outputs_pay hhealthy (c.pendingSkillCasts.filter fun cast => cast.1 = caster)
  rw [hfilter, payments, outputsAll_filter, List.filterMap_map, hurt, hplayer, Option.map_some,
    affordable, hplayer]
  exact hpaid

/-- **What the skills take** of the hit points of a session on the map. -/
lemma dealt_skillHits {c : MapInstance} (h : AllHealthy c.players) {s : SessionId}
    (hin : (c.entry s).isSome = true) : dealt s c.skillHits = spellDamage c s := by
  let force (skill : ResolvedSkill) : ℕ :=
    if skill.targetId = some s then (skillDamage skill.skillId).toInt.toNat else 0
  obtain ⟨target, htarget⟩ := Option.isSome_iff_exists.mp hin
  have hids : c.ids s = some target.characterId := by rw [ids, htarget, Option.map_some]
  have hone : ∀ skill : ResolvedSkill,
      dealt s (strike c.ids skill).toList = force skill := by
    rintro ⟨caster, characterId, skillId, _ | t⟩
    · rfl
    · by_cases ht : t = s
      · subst ht
        have hdamage := skillDamage_bounds skillId
        simp only [strike, hids, Option.map_some, Option.toList_some, dealt, damagesOn, force,
          List.filter_cons, decide_true, if_true, List.filter_nil, List.map_cons, List.map_nil,
          List.sum_cons, List.sum_nil, add_zero]
        omega
      · have hforce : force ⟨caster, characterId, skillId, some t⟩ = 0 :=
          if_neg fun heq => ht (Option.some.inj heq)
        rw [hforce]
        rcases hid : c.ids t with _ | d <;> simp [strike, hid, dealt, damagesOn, ht]
  have hall : ∀ skills : List ResolvedSkill,
      dealt s (skills.filterMap (strike c.ids)) = ((skills.map force).sum : ℕ) := by
    intro skills
    induction skills with
    | nil => rfl
    | cons skill skills ih =>
      have hcons : (skill :: skills).filterMap (strike c.ids) =
          (strike c.ids skill).toList ++ skills.filterMap (strike c.ids) := by
        rw [List.filterMap_cons]
        cases strike c.ids skill <;> rfl
      rw [hcons, dealt_append, hone, ih, List.map_cons, List.sum_cons]
      push_cast
      rfl
  have hkeys : ∀ skill ∈ c.skills, skill.caster ∈ c.players.keys := by
    intro skill hskill
    have hfit := skills_fit c skill hskill
    obtain ⟨player, hplayer, -⟩ := Option.map_eq_some_iff.mp hfit
    exact Finmap.mem_keys.mpr (Finmap.mem_of_lookup_eq_some hplayer)
  rw [skillHits, hall, sum_by_key (fun skill : ResolvedSkill => skill.caster) force c.skills hkeys, spellDamage]
  congr 1
  refine Finset.sum_congr rfl fun caster hcaster => ?_
  obtain ⟨player, hplayer⟩ := Finmap.mem_iff.mp (Finmap.mem_keys.mp hcaster)
  rw [skills_of_caster h hplayer, List.map_map]
  rfl

/-! ### When the two agree -/

/-- If the attacks leave the session hit points and the skills take them, just one chat of its own
comes back as the text of a defeat; otherwise no such chat does, and no attack strikes the session
once its hit points are gone. -/
def OnlyOnce (s : SessionId) (m : MapInstance) : Prop :=
  let c := m.begun.inputStage
  let hp := (hpOf c.players s).toInt.toNat
  let damage := (attackDamage c.tickIndex).toInt.toNat
  let attacked := strikes c s * damage
  if attacked < hp ∧ hp ≤ attacked + spellDamage c s then echoes s m.batch = 1
  else echoes s m.batch = 0 ∧ attacked < hp + damage

instance (s : SessionId) (m : MapInstance) : Decidable (OnlyOnce s m) := by
  unfold OnlyOnce
  infer_instance

lemma le_attacked_iff {hp damage n : ℕ} (hd : 0 < damage) (hpos : 0 < hp) :
    hp ≤ n * damage ↔ (hp - 1) / damage < n := by
  rw [Nat.div_lt_iff_lt_mul hd]
  omega

/-- Of the attacks that find or leave a session without hit points there is one if and only if it
had some, unless attacks go on after the last hit points are taken. -/
lemma count_fell_eq_iff {hp damage n : ℕ} (hd : 0 < damage) :
    n - (hp - 1) / damage = (if 0 < hp ∧ hp ≤ n * damage then 1 else 0) ↔
      n * damage < hp + damage := by
  rcases Nat.eq_zero_or_pos hp with rfl | hpos
  · have hnone : n * damage < 0 + damage ↔ n < 1 := by
      rw [zero_add, Nat.lt_one_iff]
      rcases n with _ | n
      · omega
      · rw [Nat.succ_mul]
        omega
    have hquot : (0 - 1) / damage = 0 := Nat.zero_div _
    rw [hnone, hquot, if_neg (by omega)]
    omega
  · have hlast := le_attacked_iff (n := n) hd hpos
    have hfew : n * damage < hp + damage ↔ n - 1 ≤ (hp - 1) / damage := by
      rw [Nat.le_div_iff_mul_le hd, Nat.sub_one_mul]
      omega
    rw [hfew]
    generalize (hp - 1) / damage = k at hlast ⊢
    by_cases hle : hp ≤ n * damage
    · rw [if_pos ⟨hpos, hle⟩]
      have hmore := hlast.mp hle
      omega
    · rw [if_neg fun h => hle h.2]
      have hfewer := mt hlast.mpr hle
      omega

lemma defeats_of_strikes {m : MapInstance} (h : m.Sound) (iter : Iteration) (s : SessionId) :
    let c := m.begun.inputStage
    let hp := (hpOf c.players s).toInt.toNat
    let attacked := strikes c s * (attackDamage c.tickIndex).toInt.toNat
    defeats s m iter = (if 0 < hp ∧ hp ≤ attacked then 1 else 0) +
      if attacked < hp ∧ hp ≤ attacked + spellDamage c s then 1 else 0 := by
  intro c hp attacked
  have hhealthy : AllHealthy c.players := h.begun.inputStage.1
  have hhp : (hpOf c.players s).toInt = hp := (Int.toNat_of_nonneg (hp_nonneg hhealthy s)).symm
  have hattacks : dealt s c.attackHits = (attacked : ℕ) := by
    have hmem := attackDamage_mem c.tickIndex
    have hdamage : (attackDamage c.tickIndex).toInt.toNat = (attackDamage c.tickIndex).toInt :=
      Int.toNat_of_nonneg (by omega)
    rw [dealt_attackHits, ← hdamage]
    exact (Int.natCast_mul _ _).symm
  have hskills : attacked < hp → dealt s c.skillHits = (spellDamage c s : ℕ) := by
    intro hleft
    refine dealt_skillHits hhealthy ?_
    by_contra hout
    have habsent : c.players.lookup s = none := Option.not_isSome_iff_eq_none.mp hout
    have hzero : hp = 0 := by
      change (hpOf c.players s).toInt.toNat = 0
      rw [hpOf, habsent]
      rfl
    omega
  have hbyAttack : (0 < (hp : ℤ) ∧ (hp : ℤ) ≤ (attacked : ℕ)) ↔ 0 < hp ∧ hp ≤ attacked := by omega
  have hbySkill : (((attacked : ℕ) : ℤ) < hp ∧ (hp : ℤ) ≤ (attacked : ℕ) + dealt s c.skillHits) ↔
      attacked < hp ∧ hp ≤ attacked + spellDamage c s := by
    constructor
    · rintro ⟨hleft, hfell⟩
      have hspent := hskills (by omega)
      omega
    · rintro ⟨hleft, hfell⟩
      have hspent := hskills hleft
      omega
  have heq := defeats_eq h iter s
  dsimp only at heq
  rw [hhp, hattacks] at heq
  rw [heq, if_congr hbyAttack rfl rfl, if_congr hbySkill rfl rfl]

/-- **One tick** tells a session of its defeats exactly if it finds the session so. -/
lemma told_eq_defeats_iff {config : MapConfig} {m : MapInstance}
    (h : (mapSystem config).Reached m) (iter : Iteration) (s : SessionId) :
    told s m (m.tick iter) = defeats s m iter ↔ OnlyOnce s m := by
  let c := m.begun.inputStage
  let hp := (hpOf c.players s).toInt.toNat
  let damage := (attackDamage c.tickIndex).toInt.toNat
  let attacked := strikes c s * damage
  have hmem := attackDamage_mem c.tickIndex
  have hd : 0 < damage := by omega
  have htold : told s m (m.tick iter) = echoes s m.batch + (strikes c s - (hp - 1) / damage) :=
    told_eq h iter s
  have hdefeats : defeats s m iter = (if 0 < hp ∧ hp ≤ attacked then 1 else 0) +
      if attacked < hp ∧ hp ≤ attacked + spellDamage c s then 1 else 0 :=
    defeats_of_strikes (sound_of_reached h) iter s
  have hsurplus : strikes c s - (hp - 1) / damage = (if 0 < hp ∧ hp ≤ attacked then 1 else 0) ↔
      attacked < hp + damage := count_fell_eq_iff hd
  have hatleast : (if 0 < hp ∧ hp ≤ attacked then 1 else 0) ≤ strikes c s - (hp - 1) / damage := by
    split
    · next hfell =>
      have hmore := (le_attacked_iff hd hfell.1).mp hfell.2
      omega
    · exact Nat.zero_le _
  rw [htold, hdefeats]
  change _ ↔ if attacked < hp ∧ hp ≤ attacked + spellDamage c s then echoes s m.batch = 1
    else echoes s m.batch = 0 ∧ attacked < hp + damage
  rw [← hsurplus]
  by_cases hspell : attacked < hp ∧ hp ≤ attacked + spellDamage c s
  · have hnone : ¬ (0 < hp ∧ hp ≤ attacked) := fun h => absurd h.2 (not_le.mpr hspell.1)
    have hzero := hsurplus.mpr (by omega)
    rw [if_neg hnone] at hzero
    rw [if_pos hspell, if_pos hspell, if_neg hnone, hzero]
    omega
  · rw [if_neg hspell, if_neg hspell]
    omega

/-! ### Runs -/

/-- The instance after a command comes in, or after a tick. -/
def act (m : MapInstance) : MapAction → MapInstance
  | .incoming command => { m with rx := m.rx ++ [command] }
  | .tick iter => m.tick iter

/-- The instance after a run. -/
def after (config : MapConfig) (as : List MapAction) : MapInstance := as.foldl act (.new config)

lemma after_append (config : MapConfig) (as : List MapAction) (a : MapAction) :
    after config (as ++ [a]) = act (after config as) a := List.foldl_append

lemma reached_after (config : MapConfig) (as : List MapAction) :
    (mapSystem config).Reached (after config as) := by
  induction as using List.reverseRecOn with
  | nil => exact .init rfl
  | append_singleton as a ih =>
    rw [after_append]
    refine ih.step (a := a) trivial ?_
    cases a <;> rfl

/-- **When players are told of each defeat exactly once.** In a run, a session is told in every tick
of as many defeats as it has, exactly when every tick finds it with what tells it once. -/
theorem told_eq_defeats_iff_onlyOnce (config : MapConfig) (as : List MapAction) (s : SessionId) :
    (∀ pre iter, pre ++ [.tick iter] <+: as →
      told s (after config pre) (after config (pre ++ [.tick iter])) =
        defeats s (after config pre) iter) ↔
      ∀ pre iter, pre ++ [.tick iter] <+: as → OnlyOnce s (after config pre) := by
  refine forall_congr' fun pre => forall_congr' fun iter => imp_congr_right fun _ => ?_
  rw [after_append]
  exact told_eq_defeats_iff (reached_after config pre) iter s

/-- Two players have entered, and one casts a skill of damage 16 at the other, seven times. -/
def volley : List MapAction :=
  .incoming ⟨Uuid.fill 1, none, .enterWorld⟩ :: .incoming ⟨Uuid.fill 2, none, .enterWorld⟩ ::
    List.replicate 7 (.incoming ⟨Uuid.fill 1, none, .castSkill 6 (some (Uuid.fill 2))⟩)

/-- A defeat by a skill, of which the player is not told. -/
theorem defeat_by_skill_untold :
    let m := after ⟨1, 16⟩ volley
    (mapSystem ⟨1, 16⟩).Reached m ∧ defeats (Uuid.fill 2) m default = 1 ∧
      told (Uuid.fill 2) m (m.tick default) = 0 := by
  intro m
  have hreached : (mapSystem ⟨1, 16⟩).Reached m := reached_after ⟨1, 16⟩ volley
  refine ⟨hreached, ?_, ?_⟩
  · rw [defeats_eq (sound_of_reached hreached)]
    decide +kernel
  · rw [told_eq hreached]
    decide +kernel

end HelbreathBackend.Defeats
