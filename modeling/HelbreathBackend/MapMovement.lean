import HelbreathBackend.MapTimers

/-!
Where the players are.

A `Move` writes the coordinates of its session at once, the position of everybody on the map is
broadcast when the input of a tick is done, and each `Move` of a session on the map is persisted
in between. So the place of a player is where the last `Move` since its entry leads, and that is
the last place that was persisted for it.
-/

namespace HelbreathBackend.MapServer

open HelbreathBackend.Lib HelbreathBackend.Domain HelbreathBackend.Application

abbrev Place := Int32 × Int32

def PlayerState.place (player : PlayerState) : Place := (player.x, player.y)

/-- Where a new entry is placed. -/
def spawnPoint : Place := (100, 100)

namespace MapInstance

/-! ### What the commands of a batch come to -/

/-- Where a command takes the session, if it is a `Move` of it. -/
def destination (s : SessionId) (incoming : IncomingCommand) : Option Place :=
  match incoming.command with
  | .move x y _ => if incoming.sessionId = s then some (x, y) else none
  | _ => none

/-- The last `Move` of the session. -/
def lastMove (s : SessionId) (commands : List IncomingCommand) : Option Place :=
  (commands.filterMap (destination s)).getLast?

/-- The session does not log out. -/
def Stays (s : SessionId) (commands : List IncomingCommand) : Prop :=
  ∀ incoming ∈ commands, incoming.sessionId = s → incoming.command ≠ .logout

/-- Where the commands place a session: where its last `Move` since its latest entry leads, and
without one where it has been before, or where an entry starts. -/
inductive Placed (players : Players) (s : SessionId) : List IncomingCommand → Place → Prop
  | stayed {commands : List IncomingCommand} {player : PlayerState}
      (hin : players.lookup s = some player) (hstay : Stays s commands) :
      Placed players s commands ((lastMove s commands).getD player.place)
  | entered {pre since : List IncomingCommand} {characterId : Option CharacterId}
      (hout : s ∉ pre.foldl presence players.keys) (hstay : Stays s since) :
      Placed players s (pre ++ ⟨s, characterId, .enterWorld⟩ :: since)
        ((lastMove s since).getD spawnPoint)

/-- The characters on the map, by their sessions, after a command. -/
def identify (ids : SessionId → Option CharacterId) (incoming : IncomingCommand) :
    SessionId → Option CharacterId :=
  match incoming.command with
  | .enterWorld =>
    Function.update ids incoming.sessionId (some (incoming.characterId.getD incoming.sessionId))
  | .logout => Function.update ids incoming.sessionId none
  | _ => ids

/-- What a command persists, when it is a `Move` of a session that is on the map. -/
def saveOf (mapId : MapId) (ids : SessionId → Option CharacterId) (incoming : IncomingCommand) :
    Option (SessionId × PersistOp) :=
  match incoming.command with
  | .move x y _ => (ids incoming.sessionId).map fun characterId =>
    (incoming.sessionId, .saveCharacterPosition characterId mapId x y)
  | _ => none

/-- What the `Move`s of the sessions that are on the map by then persist, in order. -/
def saves (mapId : MapId) :
    (SessionId → Option CharacterId) → List IncomingCommand → List (SessionId × PersistOp)
  | _, [] => []
  | ids, incoming :: rest =>
    (saveOf mapId ids incoming).toList ++ saves mapId (identify ids incoming) rest

lemma saves_append (mapId : MapId) (ids : SessionId → Option CharacterId)
    (l l' : List IncomingCommand) :
    saves mapId ids (l ++ l') = saves mapId ids l ++ saves mapId (l.foldl identify ids) l' := by
  induction l generalizing ids with
  | nil => rfl
  | cons incoming l ih => rw [List.cons_append, saves, saves, ih, List.append_assoc]; rfl

lemma lastMove_snoc (s : SessionId) (l : List IncomingCommand) (incoming : IncomingCommand)
    (place : Place) :
    (lastMove s (l ++ [incoming])).getD place =
      (destination s incoming).getD ((lastMove s l).getD place) := by
  unfold lastMove
  rw [List.filterMap_append]
  cases h : destination s incoming with
  | none => simp [h]
  | some place' => simp [h]

lemma stays_snoc {s : SessionId} {l : List IncomingCommand} {incoming : IncomingCommand} :
    Stays s (l ++ [incoming]) ↔
      Stays s l ∧ (incoming.sessionId = s → incoming.command ≠ .logout) := by
  simp only [Stays, List.forall_mem_append, List.forall_mem_singleton]

/-! ### Places after the input -/

variable {players : Players} {s : SessionId}

lemma Placed.snoc {l : List IncomingCommand} {place : Place} (h : Placed players s l place)
    {incoming : IncomingCommand} (hstay : incoming.sessionId = s → incoming.command ≠ .logout) :
    Placed players s (l ++ [incoming]) ((destination s incoming).getD place) := by
  cases h with
  | stayed hin hl =>
    rw [← lastMove_snoc]
    exact .stayed hin (stays_snoc.mpr ⟨hl, hstay⟩)
  | entered hout hl =>
    rw [← lastMove_snoc, List.append_assoc, List.cons_append]
    exact .entered hout (stays_snoc.mpr ⟨hl, hstay⟩)

lemma systemInput_snoc (m : MapInstance) (l : List IncomingCommand) (incoming : IncomingCommand) :
    m.systemInput (l ++ [incoming]) = (m.systemInput l).inputCommand incoming := List.foldl_append

/-- Who is on the map after the commands. -/
lemma lookup_systemInput_isSome (m : MapInstance) (l : List IncomingCommand) (s : SessionId) :
    ((m.systemInput l).players.lookup s).isSome = true ↔ s ∈ l.foldl presence m.players.keys := by
  have hkeys : (m.systemInput l).players.keys = l.foldl presence m.players.keys :=
    congrArg Outline.players (systemInput_outline m l)
  rw [← hkeys, Finmap.mem_keys, Finmap.lookup_isSome]

/-- What a command makes of the place of a session that is on the map before and after it. -/
lemma place_inputCommand {m : MapInstance} {player : PlayerState} (incoming : IncomingCommand)
    (hbefore : m.players.lookup s = some player) :
    (incoming.sessionId = s ∧ incoming.command = .logout ∧
      (m.inputCommand incoming).players.lookup s = none) ∨
    ((incoming.sessionId = s → incoming.command ≠ .logout) ∧
      ((m.inputCommand incoming).players.lookup s).map (·.place) =
        some ((destination s incoming).getD player.place)) := by
  rw [lookup_inputCommand]
  obtain ⟨s', characterId, command⟩ := incoming
  by_cases hs : s = s'
  · subst hs
    rw [if_pos rfl, hbefore]
    cases command
    case logout => exact .inl ⟨rfl, rfl, rfl⟩
    case move x y run =>
      refine .inr ⟨fun _ hlogout => (by cases hlogout), ?_⟩
      simp [sessionStep, destination, PlayerState.place]
    all_goals exact .inr ⟨fun _ hlogout => (by cases hlogout), rfl⟩
  · rw [if_neg hs, hbefore]
    refine .inr ⟨fun he => absurd he.symm hs, ?_⟩
    have hnone : destination s ⟨s', characterId, command⟩ = none := by
      unfold destination
      split
      · exact if_neg (Ne.symm hs)
      · rfl
    rw [hnone]
    rfl

lemma enters_inputCommand {m : MapInstance} (incoming : IncomingCommand)
    (hbefore : m.players.lookup s = none) :
    ((∃ characterId, incoming = ⟨s, characterId, .enterWorld⟩) ∧
      ((m.inputCommand incoming).players.lookup s).map (·.place) = some spawnPoint) ∨
    ((∀ characterId, incoming ≠ ⟨s, characterId, .enterWorld⟩) ∧
      (m.inputCommand incoming).players.lookup s = none) := by
  rw [lookup_inputCommand]
  obtain ⟨s', characterId, command⟩ := incoming
  by_cases hs : s = s'
  · subst hs
    rw [if_pos rfl, hbefore]
    cases command
    case enterWorld => exact .inl ⟨⟨characterId, rfl⟩, rfl⟩
    all_goals exact .inr ⟨nofun, rfl⟩
  · rw [if_neg hs, hbefore]
    refine .inr ⟨?_, rfl⟩
    rintro _ heq
    exact hs (IncomingCommand.mk.inj heq).1.symm

/-- A session that stays on the map is where its last `Move` leads. -/
lemma stay_systemInput {m : MapInstance} {l : List IncomingCommand} {place : Place}
    (hp : (m.players.lookup s).map (·.place) = some place) (hstay : Stays s l) :
    ((m.systemInput l).players.lookup s).map (·.place) = some ((lastMove s l).getD place) := by
  induction l using List.reverseRecOn with
  | nil => exact hp
  | append_singleton l incoming ih =>
    obtain ⟨hl, hlast⟩ := stays_snoc.mp hstay
    obtain ⟨player, hplayer, hplace⟩ := Option.map_eq_some_iff.mp (ih hl)
    rw [systemInput_snoc, lastMove_snoc, ← hplace]
    rcases place_inputCommand incoming hplayer with ⟨hs, hlogout, -⟩ | ⟨-, hnext⟩
    · exact absurd hlogout (hlast hs)
    · exact hnext

/-- **Last writer wins**: after the commands a session is where they place it, and those whom
they place nowhere are not on the map. -/
theorem placed_iff (m : MapInstance) (l : List IncomingCommand) (s : SessionId) (place : Place) :
    ((m.systemInput l).players.lookup s).map (·.place) = some place ↔
      Placed m.players s l place := by
  constructor
  · intro h
    induction l using List.reverseRecOn generalizing place with
    | nil =>
      obtain ⟨player, hplayer, rfl⟩ := Option.map_eq_some_iff.mp h
      exact .stayed hplayer fun _ hin => absurd hin List.not_mem_nil
    | append_singleton l incoming ih =>
      rw [systemInput_snoc] at h
      rcases hbefore : (m.systemInput l).players.lookup s with _ | player
      · rcases enters_inputCommand incoming hbefore with ⟨⟨characterId, rfl⟩, hspawn⟩ | ⟨-, hnone⟩
        · obtain rfl := Option.some.inj (h.symm.trans hspawn)
          have hout : s ∉ l.foldl presence m.players.keys := by
            rw [← lookup_systemInput_isSome, hbefore]
            exact Bool.false_ne_true
          exact .entered hout fun _ hin => absurd hin List.not_mem_nil
        · rw [hnone] at h
          cases h
      · rcases place_inputCommand incoming hbefore with ⟨-, -, hnone⟩ | ⟨hstay, hnext⟩
        · rw [hnone] at h
          cases h
        · obtain rfl := Option.some.inj (h.symm.trans hnext)
          exact (ih player.place (by rw [hbefore]; rfl)).snoc hstay
  · intro h
    cases h with
    | stayed hin hstay => exact stay_systemInput (by rw [hin]; rfl) hstay
    | @entered pre since characterId hout hstay =>
      have hnone : (m.systemInput pre).players.lookup s = none := by
        rw [← Option.not_isSome_iff_eq_none, lookup_systemInput_isSome]
        exact hout
      have hsplit : m.systemInput (pre ++ ⟨s, characterId, .enterWorld⟩ :: since) =
          ((m.systemInput pre).inputCommand ⟨s, characterId, .enterWorld⟩).systemInput since :=
        List.foldl_append
      rw [hsplit]
      rcases enters_inputCommand ⟨s, characterId, .enterWorld⟩ hnone with
        ⟨-, hspawn⟩ | ⟨hno, -⟩
      · exact stay_systemInput hspawn hstay
      · exact absurd rfl (hno characterId)

/-! ### The broadcast -/

lemma mem_order {iter : Iteration} {s : SessionId} {player : PlayerState} :
    (s, player) ∈ iter.order players ↔ players.lookup s = some player := by
  rw [← Multiset.mem_coe, iter.complete, Finmap.lookup_eq_some_iff, Multiset.mem_map]
  constructor
  · rintro ⟨e, he, heq⟩
    cases heq
    exact he
  · intro h
    exact ⟨⟨s, player⟩, h, rfl⟩

lemma filter_fst_of_mem {β : Type} {l : List (SessionId × β)} (h : (l.map (·.1)).Nodup)
    {s : SessionId} {b : β} (hb : (s, b) ∈ l) : l.filter (fun e => e.1 = s) = [(s, b)] := by
  induction l with
  | nil => cases hb
  | cons e l ih =>
    rw [List.map_cons, List.nodup_cons] at h
    rcases List.mem_cons.mp hb with rfl | hb
    · have hnil : l.filter (fun e => e.1 = s) = [] := by
        refine List.filter_eq_nil_iff.mpr fun e he hs => h.1 ?_
        exact List.mem_map.mpr ⟨e, he, of_decide_eq_true hs⟩
      rw [List.filter_cons_of_pos (by simp), hnil]
    · have hne : e.1 ≠ s := fun heq => h.1 (List.mem_map.mpr ⟨(s, b), hb, heq.symm⟩)
      rw [List.filter_cons_of_neg (by simpa using hne)]
      exact ih h.2 hb

/-- Everybody on the map is met exactly once. -/
lemma filter_order (iter : Iteration) (players : Players) (s : SessionId) :
    (iter.order players).filter (fun e => e.1 = s) =
      ((players.lookup s).map fun player => (s, player)).toList := by
  rcases h : players.lookup s with _ | player
  · refine List.filter_eq_nil_iff.mpr fun e he hs => ?_
    obtain ⟨s', player⟩ := e
    obtain rfl : s' = s := of_decide_eq_true hs
    rw [mem_order, h] at he
    cases he
  · exact filter_fst_of_mem (Iteration.nodup_order iter players) (mem_order.mpr h)

/-- The session and the place that a position event is about. -/
def position (e : OutboundEvent) : Option (SessionId × Place) :=
  match e with
  | .position s x y => some (s, (x, y))
  | _ => none

/-- The position events sent since `m`. -/
def positionsSince (m m' : MapInstance) : List (SessionId × Place) :=
  (m'.outboundTx.drop m.outboundTx.length).filterMap position

lemma position_npcAnswer {incoming : IncomingCommand} {e : OutboundEvent}
    (h : npcAnswer incoming = some e) : position e = none := by
  unfold npcAnswer at h
  split at h
  · obtain rfl := Option.some.inj h
    rfl
  · cases h

lemma position_inputReply {incoming : IncomingCommand} {e : OutboundEvent}
    (h : inputReply incoming = some e) : position e = none := by
  unfold inputReply at h
  split at h
  any_goals
    obtain rfl := Option.some.inj h
    rfl
  cases h

lemma combatEvents_position (c : MapInstance) (resolved : List ResolvedAttack) :
    (c.combatEvents resolved).filterMap position = [] := by
  rw [combatEvents, List.filterMap_append, List.filterMap_append, List.filterMap_flatMap,
    List.filterMap_flatMap, List.filterMap_flatMap]
  have hattacks : (resolved.flatMap fun a => a.events.filterMap position) = [] := by
    refine List.flatMap_eq_nil_iff.mpr fun a _ => ?_
    unfold ResolvedAttack.events
    cases a.defeated <;> rfl
  have htold : (c.payments.flatMap fun p => (p.2.told p.1).filterMap position) = [] := by
    refine List.flatMap_eq_nil_iff.mpr fun p _ => ?_
    obtain ⟨s, payment⟩ := p
    cases payment <;> rfl
  have hskills : (c.skills.flatMap fun k => (skillEvents c.ids k).filterMap position) = [] := by
    refine List.flatMap_eq_nil_iff.mpr fun skill _ => ?_
    unfold skillEvents strike
    rcases skill.targetId with _ | target
    · rfl
    · dsimp only
      cases c.ids target <;> rfl
  rw [hattacks, htold, hskills]
  rfl

lemma aiEvents_position (iter : Iteration) (t : UInt64) (players : Players) :
    (aiEvents iter t players).filterMap position = [] := by
  unfold aiEvents
  split
  · split <;> rfl
  · rfl

lemma aoiEvents_position (iter : Iteration) (t : UInt64) (players : Players) :
    (aoiEvents iter t players).filterMap position = [] := by
  unfold aoiEvents
  split
  · refine List.filterMap_eq_nil_iff.mpr fun e he => ?_
    obtain ⟨p, -, rfl⟩ := List.mem_map.mp he
    rfl
  · rfl

variable {m : MapInstance} {config : MapConfig}

/-- **The broadcast of a tick**: one position event for everybody on the map after the input,
and none for anybody else. -/
theorem positionsSince_tick (h : (mapSystem config).Reached m) (iter : Iteration) (s : SessionId) :
    (positionsSince m (m.tick iter)).filter (fun e => e.1 = s) =
      ((m.begun.inputStage.players.lookup s).map fun player => (s, player.place)).toList := by
  obtain ⟨due, resolved, hdue, -, hsent⟩ := tick_sends h iter
  have hanswers : due.filterMap position = [] := List.filterMap_eq_nil_iff.mpr fun e he => by
    obtain ⟨incoming, hin⟩ := hdue e he
    exact position_npcAnswer hin
  have hreplies : (m.batch.filterMap inputReply).filterMap position = [] :=
    List.filterMap_eq_nil_iff.mpr fun e he => by
      obtain ⟨incoming, -, hin⟩ := List.mem_filterMap.mp he
      exact position_inputReply hin
  have hpositions : (positions iter m.begun.inputStage.players).filterMap position =
      (iter.order m.begun.inputStage.players).map fun e => (e.1, e.2.place) := by
    rw [positions, List.filterMap_map, ← List.filterMap_eq_map]
    rfl
  have hall : positionsSince m (m.tick iter) =
      (iter.order m.begun.inputStage.players).map fun e => (e.1, e.2.place) := by
    rw [positionsSince, hsent, List.drop_left]
    simp only [List.filterMap_append, hanswers, hreplies, hpositions, combatEvents_position,
      aiEvents_position, aoiEvents_position, List.nil_append, List.append_nil]
  rw [hall, List.filter_map]
  have hfilter := filter_order iter m.begun.inputStage.players s
  have hcomp : (fun e : SessionId × Place => decide (e.1 = s)) ∘
      (fun e : SessionId × PlayerState => (e.1, e.2.place)) = fun e => decide (e.1 = s) := rfl
  rw [hcomp, hfilter]
  cases m.begun.inputStage.players.lookup s <;> rfl

/-! ### What is persisted -/

def isSave : PersistOp → Bool
  | .saveCharacterPosition .. => true
  | _ => false

/-- The places that were persisted since `m`. -/
def savesSince (m m' : MapInstance) : List PersistOp :=
  (m'.persistTx.drop m.persistTx.length).filter isSave

lemma inputCommand_saves (m : MapInstance) (incoming : IncomingCommand) :
    (m.inputCommand incoming).config = m.config ∧
      (m.inputCommand incoming).ids = identify m.ids incoming ∧
      (m.inputCommand incoming).persistTx = m.persistTx ++
        ((saveOf m.config.mapId m.ids incoming).toList).map (·.2) := by
  have htook := took_inputCommand m incoming
  refine ⟨htook.config, ?_, ?_⟩
  · funext s
    rw [ids, htook.entries, Function.update_apply]
    obtain ⟨s', characterId, command⟩ := incoming
    by_cases hs : s = s'
    · subst hs
      rw [if_pos rfl]
      cases command
      case move x y run =>
        simp only [sessionStep, identify, ids, Option.map_map]
        rfl
      all_goals simp [sessionStep, identify, ids]
    · rw [if_neg hs]
      cases command
      all_goals simp [identify, ids, hs]
  · rw [htook.persistTx]
    obtain ⟨s', characterId, command⟩ := incoming
    cases command
    case move x y run =>
      simp only [sessionStep, saveOf, ids]
      cases m.entry s' <;> simp
    all_goals simp [sessionStep, saveOf]

lemma systemInput_saves (m : MapInstance) (l : List IncomingCommand) :
    (m.systemInput l).ids = l.foldl identify m.ids ∧
      (m.systemInput l).persistTx =
        m.persistTx ++ (saves m.config.mapId m.ids l).map (·.2) := by
  induction l generalizing m with
  | nil => exact ⟨rfl, (List.append_nil _).symm⟩
  | cons incoming l ih =>
    obtain ⟨hconfig, hids, hpersist⟩ := inputCommand_saves m incoming
    obtain ⟨hids', hpersist'⟩ := ih (m.inputCommand incoming)
    have hcons : m.systemInput (incoming :: l) = (m.inputCommand incoming).systemInput l := rfl
    rw [hcons, hids', hpersist', hids, hconfig, hpersist, saves, List.map_append, List.append_assoc]
    exact ⟨rfl, rfl⟩

/-- **The places a tick persists** are those of the `Move`s of the sessions on the map. -/
lemma savesSince_tick (m : MapInstance) (iter : Iteration) :
    (∃ ops, (m.tick iter).persistTx = m.persistTx ++ ops) ∧
      savesSince m (m.tick iter) = (saves m.config.mapId m.ids m.batch).map (·.2) := by
  obtain ⟨resolved, hticked⟩ := tick_ticked m iter
  obtain ⟨hconfig, hplayers, hpersist, hinput⟩ := opened_begun m
  have hids : m.begun.opened.ids = m.ids := by
    funext s
    rw [ids, entry, hplayers]
    rfl
  have hsaves := (systemInput_saves m.begun.opened m.batch).2
  rw [← hinput, hpersist, hconfig, hids] at hsaves
  have hself : ∀ l : List IncomingCommand, ∀ mapId ids,
      ((saves mapId ids l).map (·.2)).filter isSave = (saves mapId ids l).map (·.2) := by
    intro l
    induction l with
    | nil => exact fun _ _ => rfl
    | cons incoming l ih =>
      intro mapId ids
      rw [saves, List.map_append, List.filter_append, ih]
      congr 1
      unfold saveOf
      split
      · cases ids incoming.sessionId <;> rfl
      · rfl
  have hlogs : ∀ hits : List Hit, ∀ mapId, (hits.map (·.log mapId)).filter isSave = [] := by
    intro hits mapId
    refine List.filter_eq_nil_iff.mpr fun op hop => ?_
    obtain ⟨hit, -, rfl⟩ := List.mem_map.mp hop
    exact Bool.false_ne_true
  have hinventory : m.begun.inputStage.inventoryOps.filter isSave = [] := by
    refine List.filter_eq_nil_iff.mpr fun op hop => ?_
    obtain ⟨change, -, rfl⟩ := List.mem_map.mp hop
    exact Bool.false_ne_true
  have hall : (m.tick iter).persistTx = m.persistTx ++ ((saves m.config.mapId m.ids m.batch).map
      (·.2) ++ (m.begun.inputStage.attackHits ++ m.begun.inputStage.skillHits).map
        (·.log m.begun.inputStage.config.mapId) ++ m.begun.inputStage.inventoryOps) := by
    rw [hticked.eq]
    dsimp only
    rw [hsaves]
    simp only [List.append_assoc]
  refine ⟨⟨_, hall⟩, ?_⟩
  rw [savesSince, hall, List.drop_left, List.filter_append, List.filter_append, hself, hlogs,
    hinventory, List.append_nil, List.append_nil]

/-! ### Runs -/

/-- Under which character and where a session is on the map. -/
def standing (m : MapInstance) (s : SessionId) : Option (CharacterId × Place) :=
  (m.entry s).map fun player => (player.characterId, player.place)

lemma sessionStep_standing {e e' : Option PlayerState} {mapId mapId' : MapId}
    (h : e.map (fun p => (p.characterId, p.place)) = e'.map fun p => (p.characterId, p.place))
    (incoming : IncomingCommand) :
    (sessionStep mapId e incoming).1.map (fun p => (p.characterId, p.place)) =
      (sessionStep mapId' e' incoming).1.map fun p => (p.characterId, p.place) := by
  obtain ⟨s, characterId, command⟩ := incoming
  rcases e with _ | player
  · obtain rfl : none = e' := (Option.map_eq_none_iff.mp h.symm).symm
    cases command
    all_goals rfl
  · obtain ⟨player', rfl, heq⟩ := Option.map_eq_some_iff.mp h.symm
    obtain ⟨hid, hplace⟩ := Prod.mk.inj heq
    cases command
    case enterWorld =>
      have hsame : player.place = player'.place := hplace.symm
      exact congrArg (fun place => some (characterId.getD s, place)) hsame
    case move x y run => simp [sessionStep, PlayerState.place, hid]
    case logout => rfl
    all_goals exact h

lemma systemInput_standing {m m' : MapInstance} (h : m.standing = m'.standing)
    (l : List IncomingCommand) : (m.systemInput l).standing = (m'.systemInput l).standing := by
  induction l generalizing m m' with
  | nil => exact h
  | cons incoming l ih =>
    have hnext : (m.inputCommand incoming).standing = (m'.inputCommand incoming).standing := by
      funext s
      rw [standing, standing, (took_inputCommand m incoming).entries,
        (took_inputCommand m' incoming).entries, Function.update_apply, Function.update_apply]
      split
      · exact sessionStep_standing (congrFun h incoming.sessionId) incoming
      · exact congrFun h s
    exact ih hnext

lemma survived_standing (c : MapInstance) (s : SessionId) :
    (c.survived s).map (fun p => (p.characterId, p.place)) = c.standing s := by
  have hpaid : (c.paid s).map (fun p => (p.characterId, p.place)) =
      (c.hurt s).map fun p => (p.characterId, p.place) :=
    finalAll_keeps (pay_keeps fun _ _ => rfl) _ _ _
  calc (c.survived s).map (fun p => (p.characterId, p.place))
      = (c.paid s).map fun p => (p.characterId, p.place) := by
        rw [survived, Option.map_map]
        rfl
    _ = (c.hurt s).map fun p => (p.characterId, p.place) := hpaid
    _ = c.standing s := by
        rw [hurt, Option.map_map]
        rfl

lemma tick_standing (m : MapInstance) (iter : Iteration) :
    (m.tick iter).standing = m.begun.inputStage.standing := by
  obtain ⟨resolved, hticked⟩ := tick_ticked m iter
  funext s
  have hentry : (m.tick iter).entry s = m.begun.inputStage.survived s := congrFun hticked.entries s
  rw [standing, hentry, survived_standing]

/-- The commands that have arrived in a run. -/
def arrived (as : List MapAction) : List IncomingCommand :=
  as.filterMap fun
    | .incoming command => some command
    | .tick _ => none

/-- The commands `processed` are what a run has taken: everybody stands where they lead, and
their `Move`s are persisted. -/
structure Charted (config : MapConfig) (as : List MapAction) (m : MapInstance)
    (processed : List IncomingCommand) : Prop where
  arrived : arrived as = processed ++ m.rx
  pendingCommands : m.pendingCommands = []
  standing : m.standing = ((new config).systemInput processed).standing
  saved : m.persistTx.filter isSave = (saves config.mapId (fun _ => none) processed).map (·.2)

lemma ids_of_standing {m m' : MapInstance} (h : m.standing = m'.standing) : m.ids = m'.ids := by
  funext s
  have hs := congrArg (Option.map Prod.fst) (congrFun h s)
  rwa [MapInstance.standing, MapInstance.standing, Option.map_map, Option.map_map] at hs

lemma Charted.tick {as : List MapAction} {processed : List IncomingCommand}
    (h : Charted config as m processed) (hconfig : m.config = config) (iter : Iteration) :
    Charted config (as ++ [.tick iter]) (m.tick iter) (processed ++ m.batch) := by
  have hrx := tick_rx m iter
  obtain ⟨-, hplayers, -, hinput⟩ := opened_begun m
  obtain ⟨⟨ops, hops⟩, hsaves⟩ := savesSince_tick m iter
  have hids : m.ids = processed.foldl identify fun _ => none :=
    (ids_of_standing h.standing).trans (systemInput_saves (new config) processed).1
  refine ⟨?_, tick_pendingCommands m iter, ?_, ?_⟩
  · have hmore : MapInstance.arrived (as ++ [.tick iter]) = MapInstance.arrived as := by
      simp [MapInstance.arrived]
    rw [hmore, h.arrived, hrx, batch, h.pendingCommands, List.nil_append, List.append_assoc,
      List.take_append_drop]
  · have hopened : m.begun.opened.standing = m.standing := by
      funext s
      rw [MapInstance.standing, entry, hplayers]
      rfl
    have hsplit : (new config).systemInput (processed ++ m.batch) =
        ((new config).systemInput processed).systemInput m.batch := List.foldl_append
    rw [tick_standing, hinput, hsplit]
    exact systemInput_standing (hopened.trans h.standing) m.batch
  · rw [savesSince, hops, List.drop_left] at hsaves
    rw [hops, List.filter_append, h.saved, hsaves, saves_append, List.map_append, hids, hconfig]

lemma charted_of_run {as : List MapAction} (h : (mapSystem config).Run as m) :
    ∃ processed, Charted config as m processed := by
  refine h.invariant (fun as m => ∃ processed, Charted config as m processed)
    config_of_reached ?_ ?_
  · rintro _ rfl
    exact ⟨[], rfl, rfl, rfl, rfl⟩
  · rintro as m a m' hconfig - ⟨processed, hm⟩ hstep
    cases a with
    | incoming command =>
      obtain rfl := Option.some.inj hstep
      refine ⟨processed, ?_, hm.pendingCommands, hm.standing, hm.saved⟩
      have hmore : MapInstance.arrived (as ++ [.incoming command]) =
          MapInstance.arrived as ++ [command] := by
        simp [MapInstance.arrived]
      rw [hmore, hm.arrived, List.append_assoc]
    | tick iter =>
      obtain rfl := Option.some.inj hstep
      exact ⟨_, hm.tick hconfig iter⟩

/-- The place of the session that an operation persists. -/
def savedPlace (s : SessionId) (save : SessionId × PersistOp) : Option Place :=
  match save.2 with
  | .saveCharacterPosition _ _ x y => if save.1 = s then some (x, y) else none
  | _ => none

/-- The place that was persisted last for the session. -/
def lastSave (s : SessionId) (persisted : List (SessionId × PersistOp)) : Option Place :=
  (persisted.filterMap (savedPlace s)).getLast?

lemma lastSave_saves {mapId : MapId} {ids : SessionId → Option CharacterId} {s : SessionId}
    {l : List IncomingCommand} (hin : (ids s).isSome = true) (hstay : Stays s l) :
    lastSave s (saves mapId ids l) = lastMove s l := by
  have hall : (saves mapId ids l).filterMap (savedPlace s) = l.filterMap (destination s) := by
    induction l generalizing ids with
    | nil => rfl
    | cons incoming l ih =>
      obtain ⟨s', characterId, command⟩ := incoming
      have hrest : Stays s l := fun c hc => hstay c (List.mem_cons_of_mem _ hc)
      have hnext : (identify ids ⟨s', characterId, command⟩ s).isSome = true := by
        by_cases hs : s = s'
        · subst hs
          cases command
          case logout => exact absurd rfl (hstay _ List.mem_cons_self rfl)
          case enterWorld => simp [identify]
          all_goals exact hin
        · cases command
          all_goals simpa [identify, hs] using hin
      have hhead : (saveOf mapId ids ⟨s', characterId, command⟩).toList.filterMap (savedPlace s) =
          (destination s ⟨s', characterId, command⟩).toList := by
        cases command
        case move x y run =>
          by_cases hs : s' = s
          · subst hs
            obtain ⟨character, hcharacter⟩ := Option.isSome_iff_exists.mp hin
            simp [saveOf, savedPlace, destination, hcharacter]
          · cases h : ids s' <;> simp [saveOf, savedPlace, destination, h, hs]
        all_goals rfl
      rw [saves, List.filterMap_append, hhead, ih hnext hrest, List.filterMap_cons]
      cases destination s ⟨s', characterId, command⟩ <;> rfl
  rw [lastSave, hall, lastMove]

/-- **Movement is last-writer-wins and fully persisted.** In every tick of a run, the sessions on
the map after the input are those that the batch places, and are where it places them; one
position event with that place is sent for each of them and none for anybody else; and the
positions persisted are the `Move`s of the sessions on the map by then. Over the whole run, every
player is where the last place persisted since its entry says, or at the spawn point. -/
theorem movement_persisted {as : List MapAction} (h : (mapSystem config).Run as m) :
    (∀ iter, let c := m.begun.inputStage
      (∀ s place, (c.players.lookup s).map (·.place) = some place ↔
        Placed m.players s m.batch place) ∧
      (∀ s, (positionsSince m (m.tick iter)).filter (fun e => e.1 = s) =
        ((c.players.lookup s).map fun player => (s, player.place)).toList) ∧
      savesSince m (m.tick iter) = (saves config.mapId m.ids m.batch).map (·.2)) ∧
    ∃ processed, arrived as = processed ++ m.rx ∧
      m.persistTx.filter isSave = (saves config.mapId (fun _ => none) processed).map (·.2) ∧
      ∀ s player, m.players.lookup s = some player → ∃ pre characterId since,
        processed = pre ++ ⟨s, characterId, .enterWorld⟩ :: since ∧
        s ∉ pre.foldl presence ∅ ∧ Stays s since ∧
        ∃ early late, saves config.mapId (fun _ => none) processed = early ++ late ∧
          late = saves config.mapId
            ((pre ++ [⟨s, characterId, .enterWorld⟩]).foldl identify fun _ => none) since ∧
          player.place = (lastSave s late).getD spawnPoint := by
  have hconfig : m.config = config := config_of_reached h.reached
  refine ⟨fun iter => ⟨fun s place => ?_, positionsSince_tick h.reached iter, ?_⟩, ?_⟩
  · obtain ⟨-, hplayers, -, hinput⟩ := opened_begun m
    rw [hinput, placed_iff, hplayers]
  · rw [(savesSince_tick m iter).2, hconfig]
  obtain ⟨processed, hcharted⟩ := charted_of_run h
  refine ⟨processed, hcharted.arrived, hcharted.saved, fun s player hplayer => ?_⟩
  have hplace : (((new config).systemInput processed).players.lookup s).map (·.place) =
      some player.place := by
    have hs := congrArg (Option.map Prod.snd) (congrFun hcharted.standing s)
    rw [standing, standing, Option.map_map, Option.map_map] at hs
    have hm : m.entry s = some player := hplayer
    rw [hm] at hs
    exact hs.symm
  have hplaced := (placed_iff (new config) processed s player.place).mp hplace
  generalize hq : player.place = q at hplaced
  cases hplaced with
  | stayed hin _ => cases hin
  | @entered pre since characterId hout hstay =>
    let entered : List IncomingCommand := pre ++ [⟨s, characterId, .enterWorld⟩]
    have hpresent : (entered.foldl identify (fun _ => none) s).isSome = true := by
      rw [List.foldl_append, List.foldl_cons, List.foldl_nil]
      simp [identify]
    refine ⟨pre, characterId, since, rfl, hout, hstay,
      saves config.mapId (fun _ => none) entered, _, ?_, rfl, ?_⟩
    · rw [← saves_append, List.append_assoc]
      rfl
    · rw [lastSave_saves hpresent hstay]

/-- A session has sent a `Move` before it enters, its `EnterWorld`, and two more. -/
def wanderer : MapInstance :=
  { MapInstance.new ⟨1, 16⟩ with
    rx := [⟨.fill 1, none, .move 1 2 true⟩, ⟨.fill 1, none, .enterWorld⟩,
      ⟨.fill 1, none, .move 3 4 true⟩, ⟨.fill 1, none, .move 5 6 true⟩] }

lemma wanderer_run : (mapSystem ⟨1, 16⟩).Run (wanderer.rx.map .incoming) wanderer := by
  have h0 : (mapSystem ⟨1, 16⟩).Run [] (.new ⟨1, 16⟩) := .init rfl
  have h1 := h0.step (a := .incoming ⟨.fill 1, none, .move 1 2 true⟩) rfl
  have h2 := h1.step (a := .incoming ⟨.fill 1, none, .enterWorld⟩) rfl
  have h3 := h2.step (a := .incoming ⟨.fill 1, none, .move 3 4 true⟩) rfl
  exact h3.step (a := .incoming ⟨.fill 1, none, .move 5 6 true⟩) rfl

theorem movement_persisted_wanderer :
    savesSince wanderer (wanderer.tick default) =
      [.saveCharacterPosition (.fill 1) 1 3 4, .saveCharacterPosition (.fill 1) 1 5 6] := by
  obtain ⟨hticks, -⟩ := movement_persisted wanderer_run
  rw [(hticks default).2.2]
  decide +kernel

end MapInstance

end HelbreathBackend.MapServer
