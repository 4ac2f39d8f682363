import HelbreathBackend.MapOverflow

/-!
The hit points and the mana of the players, moment by moment.

A tick works on the players in four loops: over the commands of the batch, over the attacks, over
the casts, and over the skills that were paid. The history of a run has one moment for each round
of each of them. An entry comes with the `EnterWorld` that creates it and goes with a `Logout`;
in between, hit points are only lost, and ten points of mana for each cast that is resolved.
-/

namespace HelbreathBackend.Resources

open HelbreathBackend.Lib HelbreathBackend.Domain HelbreathBackend.Application
open HelbreathBackend.MapServer HelbreathBackend.MapServer.MapInstance

/-! ### Rounds -/

/-- One round of one of the loops of a tick that work on the players. -/
inductive Round
  | input (incoming : IncomingCommand)
  | attack (attack : SessionId × SessionId)
  | cast (cast : SessionId × Int32 × Option SessionId)
  | skill (skill : ResolvedSkill)

namespace Round

/-- The instance after a round. The attacks are reported in a loop of their own, which leaves the
players alone. -/
def run (m : MapInstance) : Round → MapInstance
  | .input incoming => m.inputCommand incoming
  | .attack a => { m with players := (resolveAttack m.tickIndex (m.players, []) a).1 }
  | .cast c => (resolveCast (m, []) c).1
  | .skill k => m.applySkill k

/-- The skill that a round over the casts resolves. -/
def resolves (m : MapInstance) : Round → List ResolvedSkill
  | .cast c => (resolveCast (m, []) c).2
  | _ => []

/-- The skill that a round over the paid skills applies. -/
def applies : Round → Option ResolvedSkill
  | .skill k => some k
  | _ => none

/-- The round is an `EnterWorld` of the session. -/
def Enters (s : SessionId) (round : Round) : Prop :=
  ∃ characterId, round = .input ⟨s, characterId, .enterWorld⟩

/-- The round is a `Logout` of the session. -/
def Leaves (s : SessionId) (round : Round) : Prop :=
  ∃ characterId, round = .input ⟨s, characterId, .logout⟩

/-- The round is over a cast of the session. -/
def Casts (s : SessionId) (round : Round) : Prop :=
  ∃ skillId target, round = .cast (s, skillId, target)

end Round

/-- A round with the players before and after it, what it sends, and the skill it resolves. -/
structure Moment where
  round : Round
  before : Players
  after : Players
  sent : List OutboundEvent
  resolved : List ResolvedSkill

def moment (m : MapInstance) (round : Round) : Moment where
  round := round
  before := m.players
  after := (round.run m).players
  sent := (round.run m).outboundTx.drop m.outboundTx.length
  resolved := round.resolves m

/-- The moments of rounds that follow each other. -/
def moments : MapInstance → List Round → List Moment
  | _, [] => []
  | m, round :: rounds => moment m round :: moments (round.run m) rounds

/-- The moments of a tick: those of its four loops, each from the instance the loop starts in. -/
def tickMoments (m : MapInstance) (iter : Iteration) : List Moment :=
  let b := m.begun
  let c := b.inputStage.systemMovement iter
  let d := c.resolveAttacks
  let e := d.castLoop
  moments b.opened (b.processScheduledEvents.pendingCommands.map .input) ++
    moments c (c.pendingAttacks.map .attack) ++
    moments { d with pendingSkillCasts := [] } (d.pendingSkillCasts.map .cast) ++
    moments e.1 (e.2.map .skill)

/-- An instance with the moments of its ticks. -/
structure Chronicle where
  mapInstance : MapInstance
  /-- history: the rounds of all ticks -/
  moments : List Moment

def Chronicle.tick (r : Chronicle) (iter : Iteration) : Chronicle where
  mapInstance := r.mapInstance.tick iter
  moments := r.moments ++ tickMoments r.mapInstance iter

def system (config : MapConfig) : System Chronicle MapAction where
  init r := r = ⟨.new config, []⟩
  step
    | r, .incoming command => some { r with mapInstance.rx := r.mapInstance.rx ++ [command] }
    | r, .tick iter => some (r.tick iter)

/-! ### The history is what happened -/

/-- The moments lead from the players `p` to the players `q`. -/
abbrev Leads : Players → List Moment → Players → Prop := Linked Moment.before Moment.after

lemma moments_leads (m : MapInstance) (rounds : List Round) :
    Leads m.players (moments m rounds) (rounds.foldl Round.run m).players := by
  induction rounds generalizing m with
  | nil => rfl
  | cons round rounds ih => exact ⟨rfl, ih (round.run m)⟩

/-- What the loop over the attacks does to the players does not depend on what it has resolved. -/
lemma resolveAttack_fst (t : UInt64) (players : Players) (resolved : List ResolvedAttack)
    (attack : SessionId × SessionId) :
    (resolveAttack t (players, resolved) attack).1 = (resolveAttack t (players, []) attack).1 := by
  unfold resolveAttack
  dsimp only
  split <;> rfl

lemma attackRounds_players (m : MapInstance) (attacks : List (SessionId × SessionId))
    (resolved : List ResolvedAttack) :
    ((attacks.map Round.attack).foldl Round.run m).players =
      (attacks.foldl (resolveAttack m.tickIndex) (m.players, resolved)).1 := by
  induction attacks generalizing m resolved with
  | nil => rfl
  | cons attack attacks ih =>
    have hfst := resolveAttack_fst m.tickIndex m.players resolved attack
    rw [List.map_cons, List.foldl_cons, List.foldl_cons,
      ih _ (resolveAttack m.tickIndex (m.players, resolved) attack).2]
    have hstep : (Round.run m (.attack attack)).players =
        (resolveAttack m.tickIndex (m.players, resolved) attack).1 := hfst.symm
    rw [hstep]
    rfl

/-- The loop over the casts only adds to what it has resolved. -/
lemma resolveCast_resolved (m : MapInstance) (resolved : List ResolvedSkill)
    (cast : SessionId × Int32 × Option SessionId) :
    resolveCast (m, resolved) cast =
      ((resolveCast (m, []) cast).1, resolved ++ (resolveCast (m, []) cast).2) := by
  unfold resolveCast
  dsimp only
  split
  · rw [List.append_nil]
  · split
    · rw [List.append_nil]
    · rfl

lemma castRounds (m : MapInstance) (casts : List (SessionId × Int32 × Option SessionId))
    (resolved : List ResolvedSkill) :
    casts.foldl resolveCast (m, resolved) =
      ((casts.map Round.cast).foldl Round.run m,
        resolved ++ (moments m (casts.map Round.cast)).flatMap (·.resolved)) := by
  induction casts generalizing m resolved with
  | nil => simp [moments]
  | cons cast casts ih =>
    rw [List.foldl_cons, resolveCast_resolved, ih, List.map_cons, List.foldl_cons, moments,
      List.flatMap_cons, ← List.append_assoc]
    rfl

lemma resolveAttacks_players (c : MapInstance) :
    ((c.pendingAttacks.map Round.attack).foldl Round.run c).players = c.resolveAttacks.players := by
  rw [attackRounds_players c c.pendingAttacks [], resolveAttacks, reportAttack_foldl]

lemma castLoop_eq (d : MapInstance) :
    d.castLoop = ((d.pendingSkillCasts.map Round.cast).foldl Round.run
        { d with pendingSkillCasts := [] },
      (moments { d with pendingSkillCasts := [] }
        (d.pendingSkillCasts.map Round.cast)).flatMap (·.resolved)) := by
  rw [castLoop, castRounds, List.nil_append]

lemma opened_begun_players (m : MapInstance) : m.begun.opened.players = m.players := by
  rw [opened_eq, begun_eq]

lemma inputRounds (b : MapInstance) :
    (b.processScheduledEvents.pendingCommands.map Round.input).foldl Round.run b.opened =
      b.inputStage := by
  rw [List.foldl_map]
  rfl

/-- The loop over the paid skills is the last of a tick that works on the players. -/
lemma skillRounds_players (m : MapInstance) (iter : Iteration) :
    let e := (m.begun.inputStage.systemMovement iter).resolveAttacks.castLoop
    ((e.2.map Round.skill).foldl Round.run e.1).players = (m.tick iter).players := by
  have hrun : m.tick iter =
      (((m.begun.inputStage.systemMovement iter).resolveAttacks.resolveSkills.systemAi
        iter).systemAoi iter).systemInventory := rfl
  rw [hrun, systemAoi_eq, systemAi_eq]
  dsimp only
  rw [List.foldl_map]
  rfl

/-- **The moments of a tick** lead from the players before it to those after it. -/
lemma tickMoments_leads (m : MapInstance) (iter : Iteration) :
    Leads m.players (tickMoments m iter) (m.tick iter).players := by
  let c := m.begun.inputStage.systemMovement iter
  let d := c.resolveAttacks
  have hinput : Leads m.players (moments m.begun.opened
      (m.begun.processScheduledEvents.pendingCommands.map .input)) c.players := by
    have h := moments_leads m.begun.opened
      (m.begun.processScheduledEvents.pendingCommands.map .input)
    rw [opened_begun_players, inputRounds] at h
    exact h
  have hattacks : Leads c.players (moments c (c.pendingAttacks.map .attack)) d.players := by
    have h := moments_leads c (c.pendingAttacks.map .attack)
    rw [resolveAttacks_players] at h
    exact h
  have hcasts : Leads d.players (moments { d with pendingSkillCasts := [] }
      (d.pendingSkillCasts.map .cast)) d.castLoop.1.players := by
    rw [castLoop_eq]
    exact moments_leads { d with pendingSkillCasts := [] } (d.pendingSkillCasts.map .cast)
  have hskills : Leads d.castLoop.1.players (moments d.castLoop.1 (d.castLoop.2.map .skill))
      (m.tick iter).players := by
    have h := moments_leads d.castLoop.1 (d.castLoop.2.map .skill)
    rwa [skillRounds_players m iter] at h
  exact linked_append.mpr ⟨_, linked_append.mpr ⟨_, linked_append.mpr ⟨_, hinput, hattacks⟩,
    hcasts⟩, hskills⟩

lemma moments_resolved {α : Type} {f : α → Round} (hf : ∀ a m, (f a).resolves m = [])
    (m : MapInstance) (l : List α) : (moments m (l.map f)).flatMap (·.resolved) = [] := by
  induction l generalizing m with
  | nil => rfl
  | cons a l ih =>
    have hround : (moment m (f a)).resolved = [] := hf a m
    rw [List.map_cons, moments, List.flatMap_cons, hround, ih]
    rfl

lemma moments_rounds (m : MapInstance) (rounds : List Round) :
    (moments m rounds).map (·.round) = rounds := by
  induction rounds generalizing m with
  | nil => rfl
  | cons round rounds ih => rw [moments, List.map_cons, ih]; rfl

lemma filterMap_applies (m : MapInstance) (rounds : List Round) :
    (moments m rounds).filterMap (·.round.applies) = rounds.filterMap Round.applies := by
  have hrounds : (moments m rounds).filterMap (·.round.applies) =
      ((moments m rounds).map (·.round)).filterMap Round.applies := by
    rw [List.filterMap_map]
    rfl
  rw [hrounds, moments_rounds]

/-- Rounds of the other loops apply no skill. -/
lemma moments_applies {α : Type} {f : α → Round} (hf : ∀ a, (f a).applies = none)
    (m : MapInstance) (l : List α) :
    (moments m (l.map f)).filterMap (·.round.applies) = [] := by
  rw [filterMap_applies, List.filterMap_map, List.filterMap_eq_nil_iff]
  exact fun a _ => hf a

lemma moments_skills (m : MapInstance) (skills : List ResolvedSkill) :
    (moments m (skills.map .skill)).filterMap (·.round.applies) = skills := by
  rw [filterMap_applies, List.filterMap_map]
  exact List.filterMap_some

/-- **The skills that are applied are those the casts resolve**, one for one. -/
lemma applied_eq_resolved (m : MapInstance) (iter : Iteration) :
    (tickMoments m iter).filterMap (·.round.applies) =
      (tickMoments m iter).flatMap (·.resolved) := by
  unfold tickMoments
  simp only [List.filterMap_append, List.flatMap_append, moments_skills,
    moments_applies (f := Round.input) fun _ => rfl,
    moments_applies (f := Round.attack) fun _ => rfl,
    moments_applies (f := Round.cast) fun _ => rfl,
    moments_resolved (f := Round.input) fun _ _ => rfl,
    moments_resolved (f := Round.attack) fun _ _ => rfl,
    moments_resolved (f := Round.skill) fun _ _ => rfl, List.nil_append, List.append_nil]
  exact congrArg Prod.snd (castLoop_eq _)

/-! ### The rounds and the tick -/

/-- A round only adds to what has been sent. -/
lemma run_outboundTx (m : MapInstance) (round : Round) :
    ∃ events, (round.run m).outboundTx = m.outboundTx ++ events := by
  cases round with
  | input incoming => exact ⟨_, (took_inputCommand m incoming).outboundTx⟩
  | attack a => exact ⟨[], (List.append_nil _).symm⟩
  | cast c =>
    simp only [Round.run, resolveCast]
    split
    · exact ⟨[], (List.append_nil _).symm⟩
    · split
      · exact ⟨_, rfl⟩
      · exact ⟨[], (List.append_nil _).symm⟩
  | skill k =>
    simp only [Round.run, applySkill]
    split
    · split
      · exact ⟨_, rfl⟩
      · exact ⟨[], (List.append_nil _).symm⟩
    · exact ⟨_, rfl⟩

lemma moments_sent (m : MapInstance) (rounds : List Round) :
    (rounds.foldl Round.run m).outboundTx =
      m.outboundTx ++ (moments m rounds).flatMap (·.sent) := by
  induction rounds generalizing m with
  | nil => exact (List.append_nil _).symm
  | cons round rounds ih =>
    obtain ⟨events, hrun⟩ := run_outboundTx m round
    have hsent : (moment m round).sent = events := by rw [moment, hrun, List.drop_left]
    rw [List.foldl_cons, ih, hrun, moments, List.flatMap_cons, hsent, List.append_assoc]

/-- The moments of a tick, loop by loop. The first loop is over the batch and the third over the
casts in it, the fourth over the skills that the third resolves; and what they send is what the
tick sends, but for the events that are due, the positions and the reports of the attacks, and what
the systems after the combat send. -/
structure Recounts (m : MapInstance) (iter : Iteration) (inputs attacks casts skills : List Moment) :
    Prop where
  all : tickMoments m iter = inputs ++ attacks ++ casts ++ skills
  overBatch : inputs.map (·.round) = m.batch.map .input
  overCasts : casts.map (·.round) = (m.batch.filterMap castOf).map .cast
  overSkills : skills.map (·.round) = (casts.flatMap (·.resolved)).map .skill
  sent : ∃ due reports views, (m.tick iter).outboundTx = m.outboundTx ++ due ++
    inputs.flatMap (·.sent) ++ (positions iter m.begun.inputStage.players ++ reports) ++
    casts.flatMap (·.sent) ++ skills.flatMap (·.sent) ++ views

lemma opened_outboundTx (b : MapInstance) :
    ∃ due, b.opened.outboundTx = b.outboundTx ++ due := by
  unfold opened processScheduledEvents
  split
  · exact ⟨_, rfl⟩
  · exact ⟨[], (List.append_nil _).symm⟩

/-- The attacks are reported after the players have been wounded, and leave the casts alone. -/
lemma resolveAttacks_reports (c : MapInstance) :
    c.resolveAttacks.pendingSkillCasts = c.pendingSkillCasts ∧
      ∃ reports, c.resolveAttacks.outboundTx = c.outboundTx ++ reports := by
  rw [resolveAttacks, reportAttack_foldl]
  exact ⟨rfl, _, rfl⟩

/-- **The moments of a tick are what it does.** -/
theorem recounts_tick {m : MapInstance} (h : m.Sound) (iter : Iteration) :
    ∃ inputs attacks casts skills, Recounts m iter inputs attacks casts skills := by
  let c := m.begun.inputStage.systemMovement iter
  let d := c.resolveAttacks
  obtain ⟨due, hdue⟩ := opened_outboundTx m.begun
  obtain ⟨hkeeps, reports, hreports⟩ := resolveAttacks_reports c
  have hbatch : m.begun.processScheduledEvents.pendingCommands = m.batch :=
    (congrArg Outline.pendingCommands (processScheduledEvents_outline m.begun)).trans
      (begun_pendingCommands m)
  have hcasts : d.pendingSkillCasts = m.batch.filterMap castOf := hkeeps.trans (begun_input m h).1
  refine ⟨moments m.begun.opened (m.begun.processScheduledEvents.pendingCommands.map .input),
    moments c (c.pendingAttacks.map .attack),
    moments { d with pendingSkillCasts := [] } (d.pendingSkillCasts.map .cast),
    moments d.castLoop.1 (d.castLoop.2.map .skill), ⟨rfl, ?_, ?_, ?_, due, reports,
      aiEvents iter d.resolveSkills.tickIndex d.resolveSkills.players ++
        aoiEvents iter d.resolveSkills.tickIndex d.resolveSkills.players, ?_⟩⟩
  · rw [moments_rounds, hbatch]
  · rw [moments_rounds, hcasts]
  · rw [moments_rounds, castLoop_eq]
  have hinput : m.begun.inputStage.outboundTx = m.begun.opened.outboundTx ++
      (moments m.begun.opened
        (m.begun.processScheduledEvents.pendingCommands.map .input)).flatMap (·.sent) := by
    rw [← inputRounds, moments_sent]
  have hstart : m.begun.outboundTx = m.outboundTx := by rw [begun_eq]
  have hmoved : c.outboundTx = m.begun.inputStage.outboundTx ++
      positions iter m.begun.inputStage.players := rfl
  have hpaid : d.castLoop.1.outboundTx = d.outboundTx ++ (moments { d with pendingSkillCasts := [] }
      (d.pendingSkillCasts.map .cast)).flatMap (·.sent) := by
    rw [castLoop_eq]
    exact moments_sent _ _
  have hskills : d.resolveSkills.outboundTx = d.castLoop.1.outboundTx ++
      (moments d.castLoop.1 (d.castLoop.2.map .skill)).flatMap (·.sent) := by
    rw [← moments_sent, List.foldl_map]
    rfl
  have hrun : m.tick iter = ((d.resolveSkills.systemAi iter).systemAoi iter).systemInventory := rfl
  rw [hrun, systemAi_eq, systemAoi_eq]
  show d.resolveSkills.outboundTx ++ _ ++ _ = _
  rw [hskills, hpaid, hreports, hmoved, hinput, hdue, hstart]
  simp only [List.append_assoc]

/-! ### What a moment makes of an entry -/

/-- The number of casts of the session that the moments resolve. -/
def resolvedBy (s : SessionId) (l : List Moment) : ℕ :=
  ((l.flatMap (·.resolved)).filter fun skill => skill.caster = s).length

lemma resolvedBy_cons (s : SessionId) (x : Moment) (l : List Moment) :
    resolvedBy s (x :: l) = resolvedBy s [x] + resolvedBy s l := by
  simp [resolvedBy, List.filter_append]

/-- The entry of a session before and after a moment. -/
inductive Change (s : SessionId) (x : Moment) : Option PlayerState → Option PlayerState → Prop
  | absent (h : ¬ x.round.Enters s) : Change s x none none
  | created {p : PlayerState} (h : x.round.Enters s) (hhp : p.hp = 100) (hmp : p.mp = 100) :
      Change s x none (some p)
  | removed {p : PlayerState} (h : x.round.Leaves s) : Change s x (some p) none
  | kept {p p' : PlayerState} (hstay : ¬ x.round.Leaves s) (hhp : p'.hp.toInt ≤ p.hp.toInt)
      (hmp : p'.mp.toInt = p.mp.toInt - 10 * resolvedBy s [x])
      (henter : x.round.Enters s → p'.hp = p.hp ∧ p'.mp = p.mp ∧ p'.x = p.x ∧ p'.y = p.y) :
      Change s x (some p) (some p')

lemma Change.same {s : SessionId} {x : Moment} (henter : ¬ x.round.Enters s)
    (hleave : ¬ x.round.Leaves s) (hnone : resolvedBy s [x] = 0) (entry : Option PlayerState) :
    Change s x entry entry := by
  cases entry with
  | none => exact .absent henter
  | some p => exact .kept hleave le_rfl (by rw [hnone]; simp) fun h => absurd h henter

lemma wounded_hp_le {p : PlayerState} (h : p.Healthy) {ds : List Int32}
    (hd : ∀ d ∈ ds, 0 ≤ d.toInt ∧ d.toInt ≤ 16) : (p.wounded ds).hp.toInt ≤ p.hp.toInt := by
  have hval := (h.wounded hd).2
  have hhp := h.hp_nonneg
  have hsum : 0 ≤ (ds.map (·.toInt)).sum := by
    refine List.sum_nonneg fun z hz => ?_
    obtain ⟨d, hmem, rfl⟩ := List.mem_map.mp hz
    exact (hd d hmem).1
  omega

lemma Change.wounded {s : SessionId} {x : Moment} (henter : ¬ x.round.Enters s)
    (hleave : ¬ x.round.Leaves s) (hnone : resolvedBy s [x] = 0) {entry : Option PlayerState}
    (h : ∀ p, entry = some p → p.Healthy) {ds : List Int32}
    (hd : ∀ d ∈ ds, 0 ≤ d.toInt ∧ d.toInt ≤ 16) :
    Change s x entry (entry.map (·.wounded ds)) := by
  cases entry with
  | none => exact .absent henter
  | some p =>
    refine .kept hleave (wounded_hp_le (h p rfl) hd) ?_ fun h => absurd h henter
    rw [hnone]
    exact (sub_zero _).symm

lemma change_input {m : MapInstance} (incoming : IncomingCommand) (s : SessionId) :
    Change s (moment m (.input incoming)) (m.players.lookup s)
      ((m.inputCommand incoming).players.lookup s) := by
  have hnone : resolvedBy s [moment m (.input incoming)] = 0 := rfl
  rw [lookup_inputCommand]
  by_cases hs : s = incoming.sessionId
  · subst hs
    rw [if_pos rfl]
    obtain ⟨s, characterId, command⟩ := incoming
    change Change s _ (m.entry s) (sessionStep m.config.mapId (m.entry s) _).1
    generalize hround : moment m (.input ⟨s, characterId, command⟩) = x at hnone ⊢
    have hx : x.round = .input ⟨s, characterId, command⟩ := by rw [← hround]; rfl
    have henters : x.round.Enters s ↔ command = .enterWorld := by
      rw [hx]
      simp [Round.Enters]
    have hleaves : x.round.Leaves s ↔ command = .logout := by
      rw [hx]
      simp [Round.Leaves]
    cases command with
    | enterWorld =>
      rcases m.entry s with _ | p
      · exact .created (henters.mpr rfl) rfl rfl
      · refine .kept (fun h => ?_) le_rfl (by rw [hnone]; simp) fun _ => ⟨rfl, rfl, rfl, rfl⟩
        cases hleaves.mp h
    | logout =>
      rcases m.entry s with _ | p
      · exact .absent fun h => by cases henters.mp h
      · exact .removed (hleaves.mpr rfl)
    | move px py run =>
      rcases m.entry s with _ | p
      · exact .absent fun h => by cases henters.mp h
      · refine .kept (fun h => ?_) le_rfl (by rw [hnone]; simp) fun h => ?_
        · cases hleaves.mp h
        · cases henters.mp h
    | _ =>
      exact .same (fun h => by cases henters.mp h) (fun h => by cases hleaves.mp h) hnone _
  · rw [if_neg hs]
    refine .same ?_ ?_ hnone _
    · rintro ⟨characterId, h⟩
      obtain rfl := Round.input.inj h
      exact hs rfl
    · rintro ⟨characterId, h⟩
      obtain rfl := Round.input.inj h
      exact hs rfl

/-- Only commands enter and leave. -/
lemma not_enters_of (s : SessionId) (round : Round) (h : ∀ incoming, round ≠ .input incoming) :
    ¬ round.Enters s ∧ ¬ round.Leaves s :=
  ⟨fun ⟨_, he⟩ => h _ he, fun ⟨_, he⟩ => h _ he⟩

lemma change_attack {m : MapInstance} (h : AllHealthy m.players)
    (attack : SessionId × SessionId) (s : SessionId) :
    Change s (moment m (.attack attack)) (m.players.lookup s)
      ((Round.run m (.attack attack)).players.lookup s) := by
  obtain ⟨resolved, -, hres⟩ := resolveAttack_foldl m.tickIndex [attack] (m.players, [])
  have hwounds := hres.wounds s
  have hbounds : ∀ d ∈ damagesOn s ([attack].filterMap (aim
      (fun x => (m.players.lookup x).map (·.characterId)) (attackDamage m.tickIndex))),
      0 ≤ d.toInt ∧ d.toInt ≤ 16 := by
    intro d hd
    obtain ⟨hit, hhit, rfl⟩ := List.mem_map.mp hd
    obtain ⟨a, -, haim⟩ := List.mem_filterMap.mp (List.mem_of_mem_filter hhit)
    have hdamage := attackDamage_mem m.tickIndex
    unfold aim at haim
    split at haim
    · obtain rfl := Option.some.inj haim
      dsimp only
      omega
    · cases haim
  have hround := not_enters_of s (.attack attack) fun _ he => by cases he
  have hafter : (Round.run m (.attack attack)).players.lookup s = _ := hwounds
  rw [hafter]
  exact .wounded hround.1 hround.2 rfl (fun p hp => h s p hp) hbounds

lemma change_skill {m : MapInstance} (h : AllHealthy m.players) (skill : ResolvedSkill)
    (s : SessionId) :
    Change s (moment m (.skill skill)) (m.players.lookup s)
      ((Round.run m (.skill skill)).players.lookup s) := by
  have hbounds : ∀ d ∈ damagesOn s (strike m.ids skill).toList, 0 ≤ d.toInt ∧ d.toInt ≤ 16 := by
    intro d hd
    obtain ⟨hit, hhit, rfl⟩ := List.mem_map.mp hd
    have hstrike := Option.mem_toList.mp (List.mem_of_mem_filter hhit)
    unfold strike at hstrike
    split at hstrike
    · obtain ⟨c, -, rfl⟩ := Option.map_eq_some_iff.mp hstrike
      exact skillDamage_bounds skill.skillId
    · cases hstrike
  have hround := not_enters_of s (.skill skill) fun _ he => by cases he
  have hafter : (Round.run m (.skill skill)).players.lookup s = _ :=
    congrFun (applySkill_fought m skill).entries s
  rw [hafter]
  exact .wounded hround.1 hround.2 rfl (fun p hp => h s p hp) hbounds

/-- What a round over the casts does: it is paid with ten points of mana and resolved, or else the
caster is told and nothing changes. -/
inductive CastOutcome (m : MapInstance) (cast : SessionId × Int32 × Option SessionId) : Prop
  | absent (h : m.players.lookup cast.1 = none)
      (hrun : resolveCast (m, []) cast = (m, []))
  | refused {p : PlayerState} (h : m.players.lookup cast.1 = some p) (hmp : p.mp.toInt < 10)
      (hrun : resolveCast (m, []) cast = (m.send (.text cast.1 "not enough mana"), []))
  | paid {p : PlayerState} (h : m.players.lookup cast.1 = some p) (hmp : 10 ≤ p.mp.toInt)
      (hrun : resolveCast (m, []) cast =
        ({ m with players := m.players.insert cast.1 { p with mp := p.mp - 10 } },
          [⟨cast.1, p.characterId, cast.2.1, cast.2.2⟩]))

lemma castOutcome (m : MapInstance) (cast : SessionId × Int32 × Option SessionId) :
    CastOutcome m cast := by
  obtain ⟨caster, skillId, targetId⟩ := cast
  have h10 : (10 : Int32).toInt = 10 := rfl
  rcases h : m.players.lookup caster with _ | p
  · exact .absent h (by simp only [resolveCast, h])
  · by_cases hmp : p.mp < 10
    · have hlt : p.mp.toInt < 10 := by rwa [Int32.lt_iff_toInt_lt, h10] at hmp
      exact .refused h hlt (by simp only [resolveCast, h, if_pos hmp])
    · have hge : 10 ≤ p.mp.toInt := by
        rw [Int32.lt_iff_toInt_lt, h10] at hmp
        omega
      exact .paid h hge (by simp only [resolveCast, h, if_neg hmp, List.nil_append])

lemma moment_cast (m : MapInstance) (cast : SessionId × Int32 × Option SessionId) :
    moment m (.cast cast) = ⟨.cast cast, m.players, (resolveCast (m, []) cast).1.players,
      (resolveCast (m, []) cast).1.outboundTx.drop m.outboundTx.length,
      (resolveCast (m, []) cast).2⟩ := rfl

lemma change_cast {m : MapInstance} (h : AllHealthy m.players)
    (cast : SessionId × Int32 × Option SessionId) (s : SessionId) :
    Change s (moment m (.cast cast)) (m.players.lookup s)
      ((Round.run m (.cast cast)).players.lookup s) := by
  have hround := not_enters_of s (.cast cast) fun _ he => by cases he
  have hrun : Round.run m (.cast cast) = (resolveCast (m, []) cast).1 := rfl
  have hcount : resolvedBy s [moment m (.cast cast)] =
      ((resolveCast (m, []) cast).2.filter fun skill => skill.caster = s).length := by
    rw [resolvedBy, List.flatMap_singleton, moment_cast]
  rw [hrun]
  cases castOutcome m cast with
  | absent hno hcast =>
    rw [hcast] at hcount ⊢
    exact .same hround.1 hround.2 hcount _
  | refused hp hmp hcast =>
    rw [hcast] at hcount ⊢
    exact .same hround.1 hround.2 hcount _
  | @paid p hp hmp hcast =>
    rw [hcast] at hcount ⊢
    dsimp only at hcount ⊢
    rw [FMap.lookup_insert_eq]
    by_cases hs : s = cast.1
    · rw [if_pos hs, hs, hp]
      have hle := (h cast.1 p hp).mp_le
      have h10 : (10 : Int32).toInt = 10 := rfl
      have hsub : (p.mp - 10).toInt = p.mp.toInt - 10 := by
        rw [Int32.toInt_sub, h10, Int.bmod_eq_of_le] <;> omega
      have hone : resolvedBy cast.1 [moment m (.cast cast)] = 1 := by
        rw [← hs, hcount]
        simp [hs]
      rw [hs] at hround
      refine .kept hround.2 le_rfl ?_ fun he => absurd he hround.1
      rw [hone]
      exact hsub
    · have hnone : resolvedBy s [moment m (.cast cast)] = 0 := by
        rw [hcount]
        simp [Ne.symm hs]
      rw [if_neg hs]
      exact .same hround.1 hround.2 hnone _

/-! ### A moment -/

/-- What holds of every moment of a run. -/
structure Lawful (x : Moment) : Prop where
  before : AllHealthy x.before
  after : AllHealthy x.after
  change : ∀ s, Change s x (x.before.lookup s) (x.after.lookup s)
  /-- a cast of a present caster is resolved, or refused with one text and no other effect -/
  casts : ∀ s p, x.round.Casts s → x.before.lookup s = some p →
    (10 ≤ p.mp.toInt ∧ x.sent = [] ∧ resolvedBy s [x] = 1) ∨
    (p.mp.toInt < 10 ∧ x.sent = [.text s "not enough mana"] ∧ x.resolved = [] ∧
      x.after = x.before)

lemma healthy_run {m : MapInstance} (h : AllHealthy m.players) (round : Round) :
    AllHealthy (round.run m).players := by
  cases round with
  | input incoming =>
    intro s p hp
    have hp : (m.inputCommand incoming).players.lookup s = some p := hp
    rw [lookup_inputCommand] at hp
    split at hp
    · exact sessionStep_healthy (h _) p hp
    · exact h s p hp
  | attack a => exact AllHealthy.resolveAttack (s := (m.players, [])) h a
  | cast c => exact AllHealthy.resolveCast (s := (m, [])) h c
  | skill k => exact AllHealthy.applySkill m h k

lemma healthy_rounds {m : MapInstance} (h : AllHealthy m.players) (rounds : List Round) :
    AllHealthy (rounds.foldl Round.run m).players := by
  induction rounds generalizing m with
  | nil => exact h
  | cons round rounds ih => exact ih (healthy_run h round)

lemma healthy_resolveAttacks {c : MapInstance} (h : AllHealthy c.players) :
    AllHealthy c.resolveAttacks.players := by
  have hrounds := healthy_rounds h (c.pendingAttacks.map .attack)
  rwa [resolveAttacks_players] at hrounds

lemma healthy_castLoop {d : MapInstance} (h : AllHealthy d.players) :
    AllHealthy d.castLoop.1.players := by
  rw [castLoop_eq]
  exact healthy_rounds (m := { d with pendingSkillCasts := [] }) h _

lemma lawful_moment {m : MapInstance} (h : AllHealthy m.players) (round : Round) :
    Lawful (moment m round) where
  before := h
  after := healthy_run h round
  change s := by
    cases round with
    | input incoming => exact change_input incoming s
    | attack a => exact change_attack h a s
    | cast c => exact change_cast h c s
    | skill k => exact change_skill h k s
  casts := by
    rintro s p ⟨skillId, target, hround⟩ hp
    obtain rfl : round = .cast (s, skillId, target) := hround
    have hp : m.players.lookup s = some p := hp
    rw [moment_cast, resolvedBy, List.flatMap_singleton]
    cases castOutcome m (s, skillId, target) with
    | absent hno =>
      rw [hno] at hp
      cases hp
    | refused hp' hmp hcast =>
      obtain rfl := Option.some.inj (hp.symm.trans hp')
      rw [hcast]
      refine .inr ⟨hmp, ?_, rfl, rfl⟩
      exact List.drop_left
    | paid hp' hmp hcast =>
      obtain rfl := Option.some.inj (hp.symm.trans hp')
      rw [hcast]
      refine .inl ⟨hmp, ?_, ?_⟩
      · exact List.drop_length
      · simp

lemma lawful_moments {m : MapInstance} (h : AllHealthy m.players) (rounds : List Round) :
    ∀ x ∈ moments m rounds, Lawful x := by
  induction rounds generalizing m with
  | nil => exact fun x hx => absurd hx List.not_mem_nil
  | cons round rounds ih =>
    intro x hx
    rcases List.mem_cons.mp hx with rfl | hx
    · exact lawful_moment h round
    · exact ih (healthy_run h round) x hx

lemma lawful_tick {m : MapInstance} (h : AllHealthy m.players) (iter : Iteration) :
    ∀ x ∈ tickMoments m iter, Lawful x := by
  let c := m.begun.inputStage.systemMovement iter
  let d := c.resolveAttacks
  have hopened : AllHealthy m.begun.opened.players := by rwa [opened_begun_players]
  have hc : AllHealthy c.players := by
    have hrounds := healthy_rounds hopened
      (m.begun.processScheduledEvents.pendingCommands.map .input)
    rw [inputRounds] at hrounds
    exact hrounds
  have hd : AllHealthy d.players := healthy_resolveAttacks hc
  intro x hx
  rcases List.mem_append.mp hx with hx | hx
  · rcases List.mem_append.mp hx with hx | hx
    · rcases List.mem_append.mp hx with hx | hx
      · exact lawful_moments hopened _ x hx
      · exact lawful_moments hc _ x hx
    · exact lawful_moments (m := { d with pendingSkillCasts := [] }) hd _ x hx
  · exact lawful_moments (healthy_castLoop hd) _ x hx

/-! ### Runs -/

variable {config : MapConfig} {r : Chronicle}

lemma instance_reached (h : (system config).Reached r) :
    (mapSystem config).Reached r.mapInstance := by
  refine h.projected (·.mapInstance) ?_ ?_
  · rintro r rfl
    rfl
  · intro r a r' hst
    cases a with
    | incoming command =>
      obtain rfl := Option.some.inj hst
      exact .inr ⟨.incoming command, rfl⟩
    | tick iter =>
      obtain rfl := Option.some.inj hst
      exact .inr ⟨.tick iter, rfl⟩

/-- What holds of every history. -/
structure Faithful (r : Chronicle) : Prop where
  leads : Leads ∅ r.moments r.mapInstance.players
  lawful : ∀ x ∈ r.moments, Lawful x
  applied : r.moments.filterMap (·.round.applies) = r.moments.flatMap (·.resolved)

theorem faithful_of_reached (h : (system config).Reached r) : Faithful r := by
  refine h.invariant_of Faithful (J := fun r => AllHealthy r.mapInstance.players)
    (fun hr => (sound_of_reached (instance_reached hr)).healthy) ?_ ?_
  · rintro r rfl
    exact ⟨rfl, fun x hx => absurd hx List.not_mem_nil, rfl⟩
  · intro r a r' hhealthy _ hr _ hst
    cases a with
    | incoming command =>
      obtain rfl := Option.some.inj hst
      exact ⟨hr.leads, hr.lawful, hr.applied⟩
    | tick iter =>
      obtain rfl := Option.some.inj hst
      refine ⟨?_, ?_, ?_⟩
      · exact linked_append.mpr ⟨_, hr.leads, tickMoments_leads r.mapInstance iter⟩
      · intro x hx
        rcases List.mem_append.mp hx with hx | hx
        · exact hr.lawful x hx
        · exact lawful_tick hhealthy iter x hx
      · have htick := applied_eq_resolved r.mapInstance iter
        unfold Chronicle.tick
        dsimp only
        rw [List.filterMap_append, List.flatMap_append, hr.applied, htick]

/-! ### The life of an entry -/

/-- The players after the moments so far. -/
def playersAt (l : List Moment) : Players := l.foldl (fun _ x => x.after) ∅

/-- The moment creates the entry of the session. -/
def Creates (s : SessionId) (x : Moment) : Prop :=
  x.before.lookup s = none ∧ x.round.Enters s

lemma foldl_of_leads {p q : Players} {l : List Moment} (h : Leads p l q) :
    l.foldl (fun _ x => x.after) p = q := by
  induction l generalizing p with
  | nil => exact h
  | cons x l ih => exact ih h.2

/-- Where lawful moments lead, everybody is healthy. -/
lemma healthy_of_leads {p q : Players} {l : List Moment} (hp : AllHealthy p) (h : Leads p l q)
    (hlaw : ∀ x ∈ l, Lawful x) : AllHealthy q := by
  induction l generalizing p with
  | nil =>
    obtain rfl : p = q := h
    exact hp
  | cons x l ih =>
    have hafter := (hlaw x List.mem_cons_self).after
    exact ih hafter h.2 fun y hy => hlaw y (List.mem_cons_of_mem _ hy)

/-- While the session does not log out its entry stays, and only loses what it has. -/
lemma kept_of_leads {s : SessionId} {p q : Players} {l : List Moment} (h : Leads p l q)
    (hlaw : ∀ x ∈ l, Lawful x) (hstay : ∀ x ∈ l, ¬ x.round.Leaves s) {a : PlayerState}
    (ha : p.lookup s = some a) :
    ∃ b, q.lookup s = some b ∧ b.hp.toInt ≤ a.hp.toInt ∧
      b.mp.toInt = a.mp.toInt - 10 * resolvedBy s l := by
  induction l generalizing p a with
  | nil =>
    obtain rfl : p = q := h
    exact ⟨a, ha, le_rfl, by simp [resolvedBy]⟩
  | cons x l ih =>
    obtain ⟨rfl, hrest⟩ := h
    have hchange := (hlaw x List.mem_cons_self).change s
    rw [ha] at hchange
    generalize hafter : x.after.lookup s = e at hchange
    cases hchange with
    | removed hleave => exact absurd hleave (hstay x List.mem_cons_self)
    | @kept _ b hno hhp hmp =>
      obtain ⟨c, hc, hchp, hcmp⟩ := ih hrest (fun y hy => hlaw y (List.mem_cons_of_mem _ hy))
        (fun y hy => hstay y (List.mem_cons_of_mem _ hy)) hafter
      have hcount := resolvedBy_cons s x l
      exact ⟨c, hc, by omega, by omega⟩

lemma Lawful.creates {s : SessionId} {x : Moment} (h : Lawful x) (hnew : Creates s x) :
    ∃ a, x.after.lookup s = some a ∧ a.hp.toInt = 100 ∧ a.mp.toInt = 100 := by
  have hchange := h.change s
  rw [hnew.1] at hchange
  generalize hafter : x.after.lookup s = e at hchange
  cases hchange with
  | absent hno => exact absurd hnew.2 hno
  | @created a henter hhp hmp =>
    have h100 : (100 : Int32).toInt = 100 := rfl
    exact ⟨a, rfl, by rw [hhp, h100], by rw [hmp, h100]⟩

/-- Whoever is on the map has an entry that was created, without a `Logout` since. -/
lemma created_of_present {s : SessionId} {l : List Moment} {q : Players} (h : Leads ∅ l q)
    (hlaw : ∀ x ∈ l, Lawful x) {p : PlayerState} (hp : q.lookup s = some p) :
    ∃ pre x mid, l = pre ++ x :: mid ∧ Creates s x ∧ ∀ y ∈ mid, ¬ y.round.Leaves s := by
  induction l using List.reverseRecOn generalizing q p with
  | nil =>
    obtain rfl : ∅ = q := h
    cases hp
  | append_singleton l y ih =>
    obtain ⟨u, hu, hy, hyq⟩ := linked_append.mp h
    obtain rfl : y.after = q := hyq
    have hlaw' : ∀ x ∈ l, Lawful x := fun x hx => hlaw x (List.mem_append_left _ hx)
    have hchange := (hlaw y (List.mem_append_right _ (List.mem_singleton_self y))).change s
    rw [hp] at hchange
    generalize hbefore : y.before.lookup s = e at hchange
    cases hchange with
    | created henter => exact ⟨l, y, [], rfl, ⟨hbefore, henter⟩, fun _ h => absurd h List.not_mem_nil⟩
    | kept hno =>
      rw [hy] at hbefore
      obtain ⟨pre, x, mid, rfl, hnew, hstay⟩ := ih hu hlaw' hbefore
      refine ⟨pre, x, mid ++ [y], by simp, hnew, fun z hz => ?_⟩
      rcases List.mem_append.mp hz with hz | hz
      · exact hstay z hz
      · rwa [List.mem_singleton.mp hz]

/-- What the entry of a session is after the moments `mid` since the moment `x` that created it,
and what the next moment can make of it. -/
structure Lives (s : SessionId) (pre : List Moment) (x : Moment) (mid post : List Moment)
    (p : PlayerState) : Prop where
  present : (playersAt (pre ++ x :: mid)).lookup s = some p
  mana : p.mp.toInt = 100 - 10 * resolvedBy s mid
  casts : resolvedBy s mid ≤ 10
  /-- hit points and mana have never increased -/
  fades : ∀ early late, mid = early ++ late → ∃ q,
    (playersAt (pre ++ x :: early)).lookup s = some q ∧ p.hp.toInt ≤ q.hp.toInt ∧
      p.mp.toInt ≤ q.mp.toInt
  /-- to enter again refills nothing and moves nobody -/
  reenter : ∀ y rest, post = y :: rest → y.round.Enters s → ∃ p',
    y.after.lookup s = some p' ∧ p'.hp = p.hp ∧ p'.mp = p.mp ∧ p'.x = p.x ∧ p'.y = p.y
  /-- after ten casts the next one is refused -/
  refused : ∀ y rest, post = y :: rest → y.round.Casts s → resolvedBy s mid = 10 →
    y.sent = [.text s "not enough mana"] ∧ y.resolved = [] ∧ y.after = y.before

/-- An entry that was created and not logged out since leads the life it should. -/
lemma lives_of_created {s : SessionId} {pre mid post : List Moment} {x : Moment} {q : Players}
    (h : Leads ∅ (pre ++ x :: (mid ++ post)) q)
    (hlaw : ∀ y ∈ pre ++ x :: (mid ++ post), Lawful y) (hnew : Creates s x)
    (hstay : ∀ y ∈ mid, ¬ y.round.Leaves s) : ∃ p, Lives s pre x mid post p := by
  obtain ⟨u, hu, hxu, hrest⟩ := linked_append.mp h
  obtain ⟨v, hmid, hpost⟩ := linked_append.mp hrest
  have hlawx : Lawful x := hlaw x (by simp)
  have hlawmid : ∀ y ∈ mid, Lawful y := fun y hy => hlaw y (by simp [hy])
  have hlawpost : ∀ y ∈ post, Lawful y := fun y hy => hlaw y (by simp [hy])
  have hat : ∀ {l : List Moment} {w : Players}, Leads x.after l w →
      playersAt (pre ++ x :: l) = w := fun hl =>
    foldl_of_leads (linked_append.mpr ⟨u, hu, hxu, hl⟩)
  obtain ⟨a, ha, hahp, hamp⟩ := hlawx.creates hnew
  obtain ⟨p, hp, hphp, hpmp⟩ := kept_of_leads hmid hlawmid hstay ha
  have hmana : p.mp.toInt = 100 - 10 * resolvedBy s mid := by omega
  have hhealthy : AllHealthy v := healthy_of_leads hlawx.after hmid hlawmid
  have hnonneg : 0 ≤ p.mp.toInt := (hhealthy s p hp).mp_nonneg
  -- the next moment starts where the moments so far have led
  have hnext : ∀ y rest, post = y :: rest → Lawful y ∧ y.before.lookup s = some p := by
    rintro y rest rfl
    refine ⟨hlawpost y List.mem_cons_self, ?_⟩
    rw [hpost.1, hp]
  refine ⟨p, ⟨?_, hmana, by omega, ?_, ?_, ?_⟩⟩
  · rw [hat hmid, hp]
  · rintro early late rfl
    obtain ⟨w, hearly, hlate⟩ := linked_append.mp hmid
    obtain ⟨b, hb, -, hbmp⟩ := kept_of_leads hearly
      (fun y hy => hlawmid y (List.mem_append_left _ hy))
      (fun y hy => hstay y (List.mem_append_left _ hy)) ha
    obtain ⟨c, hc, hchp, hcmp⟩ := kept_of_leads hlate
      (fun y hy => hlawmid y (List.mem_append_right _ hy))
      (fun y hy => hstay y (List.mem_append_right _ hy)) hb
    obtain rfl := Option.some.inj (hp.symm.trans hc)
    exact ⟨b, by rw [hat hearly, hb], hchp, by omega⟩
  · intro y rest hy henter
    obtain ⟨hlawy, hbefore⟩ := hnext y rest hy
    have hchange := hlawy.change s
    rw [hbefore] at hchange
    generalize hafter : y.after.lookup s = e at hchange
    cases hchange with
    | removed hleave =>
      obtain ⟨characterId, he⟩ := henter
      obtain ⟨characterId', hl⟩ := hleave
      rw [he] at hl
      cases hl
    | kept hno hhp hmp hsame => exact ⟨_, rfl, hsame henter⟩
  · intro y rest hy hcast hten
    obtain ⟨hlawy, hbefore⟩ := hnext y rest hy
    rcases hlawy.casts s p hcast hbefore with ⟨hmp, -, -⟩ | ⟨-, href⟩
    · omega
    · exact href

/-- **Resource bounds over whole runs.** The moments of a run lead to the players of the instance,
and apply the skills that its casts resolve and no others; those of a tick are over its batch and
the casts in it, and send what it sends. At every moment everybody's hit points
and mana are between 0 and 100, and whoever is on the map has an entry that was created and not
logged out since; from then on it has a hundred points of mana less ten for each cast resolved,
at most ten are, and hit points and mana never increase. -/
theorem resources_bounded (h : (system config).Reached r) :
    Leads ∅ r.moments r.mapInstance.players ∧
    r.moments.filterMap (·.round.applies) = r.moments.flatMap (·.resolved) ∧
    (∀ iter, ∃ inputs attacks casts skills,
      (r.tick iter).moments = r.moments ++ (inputs ++ attacks ++ casts ++ skills) ∧
      Recounts r.mapInstance iter inputs attacks casts skills) ∧
    (∀ l post, r.moments = l ++ post → ∀ s p, (playersAt l).lookup s = some p →
      (0 ≤ p.hp.toInt ∧ p.hp.toInt ≤ 100 ∧ 0 ≤ p.mp.toInt ∧ p.mp.toInt ≤ 100) ∧
      ∃ pre x mid, l = pre ++ x :: mid ∧ Creates s x ∧ ∀ y ∈ mid, ¬ y.round.Leaves s) ∧
    ∀ s pre x mid post, r.moments = pre ++ x :: (mid ++ post) → Creates s x →
      (∀ y ∈ mid, ¬ y.round.Leaves s) → ∃ p, Lives s pre x mid post p := by
  have hf := faithful_of_reached h
  refine ⟨hf.leads, hf.applied, fun iter => ?_, ?_, ?_⟩
  · obtain ⟨inputs, attacks, casts, skills, hrec⟩ :=
      recounts_tick (sound_of_reached (instance_reached h)) iter
    exact ⟨inputs, attacks, casts, skills, congrArg (r.moments ++ ·) hrec.all, hrec⟩
  · intro l post hsplit s p hp
    have hleads := hf.leads
    rw [hsplit] at hleads
    obtain ⟨u, hu, -⟩ := linked_append.mp hleads
    have hlaw : ∀ x ∈ l, Lawful x := fun x hx =>
      hf.lawful x (hsplit ▸ List.mem_append_left _ hx)
    rw [playersAt, foldl_of_leads hu] at hp
    obtain ⟨pre, x, mid, rfl, hnew, hstay⟩ := created_of_present hu hlaw hp
    refine ⟨?_, pre, x, mid, rfl, hnew, hstay⟩
    have hhealthy := healthy_of_leads (fun _ _ h => by cases h) hu hlaw s p hp
    exact ⟨hhealthy.hp_nonneg, hhealthy.hp_le, hhealthy.mp_nonneg, hhealthy.mp_le⟩
  · intro s pre x mid post hsplit hnew hstay
    exact lives_of_created (hsplit ▸ hf.leads) (fun y hy => hf.lawful y (hsplit ▸ hy)) hnew hstay

/-- `Creates`, decided. -/
def creates (s : SessionId) (x : Moment) : Bool :=
  match x.round with
  | .input ⟨s', _, .enterWorld⟩ => (x.before.lookup s).isNone && decide (s' = s)
  | _ => false

/-- The round is no `Logout` of any session. -/
def stays (x : Moment) : Bool :=
  match x.round with
  | .input ⟨_, _, .logout⟩ => false
  | _ => true

/-- The run begins with the entry of the session, nobody logs out, and one cast is paid. -/
def castsOnce (s : SessionId) (r : Chronicle) : Bool :=
  match r.moments with
  | x :: mid => creates s x && mid.all stays && decide (resolvedBy s mid = 1)
  | [] => false

lemma creates_sound {s : SessionId} {x : Moment} (h : creates s x = true) : Creates s x := by
  unfold creates at h
  split at h
  · next s' characterId hround =>
    rw [Bool.and_eq_true, Option.isNone_iff_eq_none, decide_eq_true_eq] at h
    obtain ⟨hnone, rfl⟩ := h
    exact ⟨hnone, characterId, hround⟩
  · cases h

lemma stays_sound {x : Moment} (h : stays x = true) (s : SessionId) : ¬ x.round.Leaves s := by
  rintro ⟨characterId, hround⟩
  simp [stays, hround] at h

lemma castsOnce_sound {s : SessionId} {r : Chronicle} (h : castsOnce s r = true) :
    ∃ x mid, r.moments = x :: mid ∧ Creates s x ∧ (∀ y ∈ mid, ¬ y.round.Leaves s) ∧
      resolvedBy s mid = 1 := by
  unfold castsOnce at h
  split at h
  · next x mid hmoments =>
    rw [Bool.and_eq_true, Bool.and_eq_true, decide_eq_true_eq, List.all_eq_true] at h
    obtain ⟨⟨hnew, hstays⟩, hone⟩ := h
    exact ⟨x, mid, hmoments, creates_sound hnew, fun y hy => stays_sound (hstays y hy) s, hone⟩
  · cases h

/-- A session enters and casts: its entry is created, and one cast is paid. -/
theorem resources_bounded_cast : ∃ r, (system ⟨1, 16⟩).Reached r ∧ ∃ x mid,
    r.moments = x :: mid ∧ ∃ p, Lives (.fill 1) [] x mid [] p ∧ p.mp.toInt = 90 := by
  obtain ⟨r, hr, hcasts⟩ := (system ⟨1, 16⟩).exists_reachedBy (fun _ _ => True)
    (s := ⟨.new ⟨1, 16⟩, []⟩) rfl
    [.incoming ⟨.fill 1, none, .enterWorld⟩, .incoming ⟨.fill 1, none, .castSkill 3 none⟩,
      .tick default]
    (castsOnce (.fill 1)) (by decide +kernel)
  obtain ⟨x, mid, hmoments, hnew, hstay, hone⟩ := castsOnce_sound hcasts
  obtain ⟨p, hp⟩ := (resources_bounded hr).2.2.2.2 (.fill 1) [] x mid [] (by simp [hmoments]) hnew
    hstay
  have hmana := hp.mana
  exact ⟨r, hr, x, mid, hmoments, p, hp, by omega⟩

end HelbreathBackend.Resources
