import HelbreathBackend.MapRuntimes

/-!
Where the sessions are: the table of the coordinator against the players of the maps.

The two agree as long as no message pulls them apart: a map is not registered over while
sessions are on it, and a session enters a registered map, and only one, and leaves through
the map it is on. From a placement in agreement, a message leads to one in agreement exactly
when it is such a message.
-/

namespace HelbreathBackend.Whereabouts

open HelbreathBackend.Lib HelbreathBackend.Domain HelbreathBackend.Application
open HelbreathBackend.World HelbreathBackend.MapServer HelbreathBackend.MapRuntimes
open HelbreathBackend.MapRuntimes.WorldRuntime

/-- A tracked session is on a registered map, and a registered map has the sessions tracked
on it. -/
structure Placed (c : WorldCoordinator) (o : Occupancy) : Prop where
  registered : ∀ s m, c.sessionMap.lookup s = some m → (o m).isSome
  present : ∀ m p, o m = some p → ∀ s, s ∈ p ↔ c.sessionMap.lookup s = some m

/-- The messages that keep the table and the players together in state `c`. -/
def Settling (c : WorldCoordinator) : WorldMessage → Prop
  | .registerMap mapId _ => FMap.fibre c.sessionMap mapId = ∅
  | .routeToMap mapId sessionId _ command =>
    match command with
    | .enterWorld =>
      mapId ∈ c.mapSenders ∧
        (c.sessionMap.lookup sessionId = none ∨ c.sessionMap.lookup sessionId = some mapId)
    | .logout =>
      c.sessionMap.lookup sessionId = none ∨ c.sessionMap.lookup sessionId = some mapId
    | _ => True
  | _ => True

variable {c : WorldCoordinator} {o : Occupancy}

lemma placed_registerMap (h : Placed c o) (m : MapId) (tx : ChannelId) :
    Placed (c.next (.registerMap m tx)) (o.next (.registerMap m tx)) ↔
      FMap.fibre c.sessionMap m = ∅ := by
  have ho : ∀ x, o.next (.registerMap m tx) x = if x = m then some ∅ else o x := fun _ => rfl
  have hc : (c.next (.registerMap m tx)).sessionMap = c.sessionMap := rfl
  rw [Finset.eq_empty_iff_forall_notMem]
  constructor
  · intro h' s hs
    rw [FMap.mem_fibre] at hs
    have hp := h'.present m ∅ (by rw [ho, if_pos rfl]) s
    rw [hc] at hp
    exact absurd (hp.mpr hs) (Finset.notMem_empty s)
  · intro he
    refine ⟨fun s x hs => ?_, fun x p hx s => ?_⟩
    · rw [ho]
      split
      · rfl
      · exact h.registered s x hs
    · rw [ho] at hx
      rw [hc]
      split at hx
      · next hxm =>
        obtain rfl := Option.some.inj hx
        have hs := he s
        rw [FMap.mem_fibre] at hs
        rw [hxm]
        exact iff_of_false (Finset.notMem_empty s) hs
      · exact h.present x p hx s

lemma placed_unregisterMap (h : Placed c o) (m : MapId) :
    Placed (c.next (.unregisterMap m)) (o.next (.unregisterMap m)) := by
  have ho : ∀ x, o.next (.unregisterMap m) x = if x = m then none else o x := fun _ => rfl
  have hc : ∀ s x, (c.next (.unregisterMap m)).sessionMap.lookup s = some x ↔
      c.sessionMap.lookup s = some x ∧ x ≠ m := by
    intro s x
    have hl := FMap.lookup_retain (fun _ currentMap => currentMap != m) c.sessionMap s
    change (FMap.retain _ c.sessionMap).lookup s = some x ↔ _
    rw [hl, Option.filter_eq_some_iff, bne_iff_ne]
  refine ⟨fun s x hs => ?_, fun x p hx s => ?_⟩
  · obtain ⟨hs, hne⟩ := (hc s x).mp hs
    rw [ho, if_neg hne]
    exact h.registered s x hs
  · rw [ho] at hx
    split at hx
    · cases hx
    · next hne =>
      rw [hc, h.present x p hx s]
      exact ⟨fun hs => ⟨hs, hne⟩, fun hs => hs.1⟩

lemma lookup_next_route (m x : MapId) (s y : SessionId) (cid : Option CharacterId)
    (cmd : ClientCommand) :
    (c.next (.routeToMap m s cid cmd)).sessionMap.lookup y = some x ↔
      match cmd with
      | .enterWorld => if y = s then m = x else c.sessionMap.lookup y = some x
      | .logout => y ≠ s ∧ c.sessionMap.lookup y = some x
      | _ => c.sessionMap.lookup y = some x := by
  change (c.track m s cmd).sessionMap.lookup y = some x ↔ _
  rw [WorldCoordinator.track_sessionMap]
  cases cmd
  case enterWorld =>
    dsimp only
    rw [FMap.lookup_insert_eq]
    split
    · rw [Option.some.injEq]
    · rfl
  case logout =>
    dsimp only
    rw [FMap.lookup_erase_eq]
    split
    · next hy => simp [hy]
    · next hy => simp [hy]
  all_goals rfl

lemma next_route_occupancy (m x : MapId) (s : SessionId) (cid : Option CharacterId)
    (cmd : ClientCommand) :
    o.next (.routeToMap m s cid cmd) x =
      if x = m then (o x).map fun p => MapInstance.presence p ⟨s, cid, cmd⟩ else o x := rfl

/-- Entering a map: it is registered, and the session is nowhere or there already. -/
lemma placed_enterWorld (h : Placed c o) (m : MapId) (s : SessionId) (cid : Option CharacterId) :
    Placed (c.next (.routeToMap m s cid .enterWorld)) (o.next (.routeToMap m s cid .enterWorld)) ↔
      (o m).isSome ∧ (c.sessionMap.lookup s = none ∨ c.sessionMap.lookup s = some m) := by
  have hl : ∀ y x, (c.next (.routeToMap m s cid .enterWorld)).sessionMap.lookup y = some x ↔
      if y = s then m = x else c.sessionMap.lookup y = some x :=
    fun y x => lookup_next_route m x s y cid .enterWorld
  constructor
  · intro h'
    have hm : (o m).isSome := by
      have hr := h'.registered s m ((hl s m).mpr (by rw [if_pos rfl]))
      rw [next_route_occupancy, if_pos rfl, Option.isSome_map] at hr
      exact hr
    refine ⟨hm, ?_⟩
    rcases hs : c.sessionMap.lookup s with _ | m'
    · exact .inl rfl
    · right
      by_contra hne
      have hne : m' ≠ m := fun he => hne (congrArg some he)
      -- the old map keeps the session among its players
      obtain ⟨p, hp⟩ := Option.isSome_iff_exists.mp (h.registered s m' hs)
      have hin : s ∈ p := (h.present m' p hp s).mpr hs
      have hp' : o.next (.routeToMap m s cid .enterWorld) m' = some p := by
        rw [next_route_occupancy, if_neg hne, hp]
      have hs' := (hl s m').mp ((h'.present m' p hp' s).mp hin)
      rw [if_pos rfl] at hs'
      exact hne hs'.symm
  · rintro ⟨hm, hs⟩
    refine ⟨fun y x hy => ?_, fun x p hx y => ?_⟩
    · have hy := (hl y x).mp hy
      rw [next_route_occupancy]
      split at hy
      · subst hy
        rw [if_pos rfl, Option.isSome_map]
        exact hm
      · split
        · rw [Option.isSome_map]
          exact h.registered y x hy
        · exact h.registered y x hy
    · rw [next_route_occupancy] at hx
      rw [hl]
      by_cases hxm : x = m
      · subst hxm
        rw [if_pos rfl] at hx
        obtain ⟨q, hq, rfl⟩ := Option.map_eq_some_iff.mp hx
        have hy := h.present x q hq y
        change y ∈ insert s q ↔ _
        rw [Finset.mem_insert, hy]
        by_cases hys : y = s
        · simp [hys]
        · simp [hys]
      · rw [if_neg hxm] at hx
        rw [h.present x p hx y]
        by_cases hys : y = s
        · subst hys
          rw [if_pos rfl]
          refine iff_of_false (fun hy => ?_) (Ne.symm hxm)
          rcases hs with hs | hs
          · rw [hs] at hy
            cases hy
          · rw [hs] at hy
            exact hxm (Option.some.inj hy).symm
        · rw [if_neg hys]

/-- Logging out: the session is nowhere, or on the map the logout is routed to. -/
lemma placed_logout (h : Placed c o) (m : MapId) (s : SessionId) (cid : Option CharacterId) :
    Placed (c.next (.routeToMap m s cid .logout)) (o.next (.routeToMap m s cid .logout)) ↔
      c.sessionMap.lookup s = none ∨ c.sessionMap.lookup s = some m := by
  have hl : ∀ y x, (c.next (.routeToMap m s cid .logout)).sessionMap.lookup y = some x ↔
      y ≠ s ∧ c.sessionMap.lookup y = some x :=
    fun y x => lookup_next_route m x s y cid .logout
  constructor
  · intro h'
    rcases hs : c.sessionMap.lookup s with _ | m'
    · exact .inl rfl
    · right
      by_contra hne
      have hne : m' ≠ m := fun he => hne (congrArg some he)
      -- the map it was on never hears of the logout
      obtain ⟨p, hp⟩ := Option.isSome_iff_exists.mp (h.registered s m' hs)
      have hin : s ∈ p := (h.present m' p hp s).mpr hs
      have hp' : o.next (.routeToMap m s cid .logout) m' = some p := by
        rw [next_route_occupancy, if_neg hne, hp]
      exact ((hl s m').mp ((h'.present m' p hp' s).mp hin)).1 rfl
  · intro hs
    refine ⟨fun y x hy => ?_, fun x p hx y => ?_⟩
    · obtain ⟨-, hy⟩ := (hl y x).mp hy
      rw [next_route_occupancy]
      split
      · rw [Option.isSome_map]
        exact h.registered y x hy
      · exact h.registered y x hy
    · rw [next_route_occupancy] at hx
      rw [hl]
      by_cases hxm : x = m
      · subst hxm
        rw [if_pos rfl] at hx
        obtain ⟨q, hq, rfl⟩ := Option.map_eq_some_iff.mp hx
        have hy := h.present x q hq y
        change y ∈ q.erase s ↔ _
        rw [Finset.mem_erase, hy]
      · rw [if_neg hxm] at hx
        rw [h.present x p hx y]
        refine ⟨fun hy => ⟨fun hys => ?_, hy⟩, fun hy => hy.2⟩
        subst hys
        rcases hs with hs | hs
        · rw [hs] at hy
          cases hy
        · rw [hs] at hy
          exact hxm (Option.some.inj hy).symm

/-- Any other command leaves everyone where they are. -/
lemma placed_route (h : Placed c o) (m : MapId) (s : SessionId) (cid : Option CharacterId)
    {cmd : ClientCommand} (he : cmd ≠ .enterWorld) (hl : cmd ≠ .logout) :
    Placed (c.next (.routeToMap m s cid cmd)) (o.next (.routeToMap m s cid cmd)) := by
  have hp : ∀ p, MapInstance.presence p ⟨s, cid, cmd⟩ = p := by
    intro p
    cases cmd
    case enterWorld => exact absurd rfl he
    case logout => exact absurd rfl hl
    all_goals rfl
  have ho : o.next (.routeToMap m s cid cmd) = o := by
    funext x
    rw [next_route_occupancy]
    split
    · simp [hp]
    · rfl
  have hc : (c.next (.routeToMap m s cid cmd)).sessionMap = c.sessionMap := by
    change (c.track m s cmd).sessionMap = _
    rw [WorldCoordinator.track_sessionMap]
    cases cmd
    case enterWorld => exact absurd rfl he
    case logout => exact absurd rfl hl
    all_goals rfl
  rw [ho]
  exact ⟨fun y x hy => h.registered y x (hc ▸ hy), fun x p hx y => hc ▸ h.present x p hx y⟩

/-- **One message** keeps the table and the players together exactly when it settles. -/
theorem placed_next (h : Placed c o) (hreg : ∀ m, (o m).isSome ↔ m ∈ c.mapSenders)
    (msg : WorldMessage) : Placed (c.next msg) (o.next msg) ↔ Settling c msg := by
  cases msg with
  | registerMap m tx => exact placed_registerMap h m tx
  | unregisterMap m => exact iff_of_true (placed_unregisterMap h m) trivial
  | routeToMap m s cid cmd =>
    cases cmd
    case enterWorld =>
      rw [placed_enterWorld h, hreg]
      rfl
    case logout => exact placed_logout h m s cid
    all_goals exact iff_of_true (placed_route h m s cid nofun nofun) trivial
  | broadcast text => exact iff_of_true h trivial
  | getStats reply => exact iff_of_true h trivial

/-! ### Runs -/

instance (c : WorldCoordinator) : ∀ msg, Decidable (Settling c msg)
  | .registerMap _ _ => inferInstanceAs (Decidable (_ = _))
  | .unregisterMap _ => .isTrue trivial
  | .routeToMap _ _ _ cmd =>
    match cmd with
    | .enterWorld => inferInstanceAs (Decidable (_ ∧ (_ ∨ _)))
    | .logout => inferInstanceAs (Decidable (_ ∨ _))
    | .login _ | .characterList | .characterCreate _ | .characterDelete _ | .characterSelect _
    | .move .. | .attack _ | .castSkill .. | .pickupItem _ | .dropItem .. | .useItem _
    | .npcInteraction _ | .chat _ | .whisper .. | .guildChat _ | .heartbeat => .isTrue trivial
  | .broadcast _ => .isTrue trivial
  | .getStats _ => .isTrue trivial

/-- The steps at which the coordinator takes no message but a settling one. -/
def Settles (w : WorldRuntime) : Action → Prop
  | .recv => ∀ msg ∈ w.inbox.head?, Settling w.coordinator msg
  | _ => True

instance (w : WorldRuntime) : ∀ a, Decidable (Settles w a)
  | .recv => inferInstanceAs (Decidable (∀ msg ∈ w.inbox.head?, Settling w.coordinator msg))
  | .register _ | .post _ | .route _ | .tick _ _ => .isTrue trivial

/-- The session is a player of the instance that serves map `m`. -/
def PlayerOn (w : WorldRuntime) (m : MapId) (s : SessionId) : Prop :=
  ∃ tx rt, w.coordinator.mapSenders.lookup m = some tx ∧ w.runtimes.lookup tx = some rt ∧
    s ∈ rt.mapInstance.players

/-- The session is a player of the instance behind channel `tx`, which serves map `m`. -/
def PlayerBehind (w : WorldRuntime) (m : MapId) (tx : ChannelId) (s : SessionId) : Prop :=
  w.coordinator.mapSenders.lookup m = some tx ∧
    ((w.runtimes.lookup tx).any fun rt => s ∈ rt.mapInstance.players) = true

instance (w : WorldRuntime) (m : MapId) (tx : ChannelId) (s : SessionId) :
    Decidable (PlayerBehind w m tx s) := inferInstanceAs (Decidable (_ ∧ _))

lemma playerOn_of_behind {w : WorldRuntime} {m : MapId} {tx : ChannelId} {s : SessionId}
    (h : PlayerBehind w m tx s) : PlayerOn w m s := by
  obtain ⟨rt, hrt, hs⟩ := (Option.any_eq_true _ _).mp h.2
  exact ⟨tx, rt, h.1, hrt, of_decide_eq_true hs⟩

structure Agree (w : WorldRuntime) : Prop where
  same : ∀ m ∈ w.coordinator.mapSenders, ∀ s,
    PlayerOn w m s ↔ w.coordinator.sessionMap.lookup s = some m
  registered : ∀ s m, w.coordinator.sessionMap.lookup s = some m → m ∈ w.coordinator.mapSenders
  unique : ∀ s m m', PlayerOn w m s → PlayerOn w m' s → m = m'

variable {w : WorldRuntime} {budget : ℕ}

lemma occupancy_isSome (hw : Wired w) (m : MapId) :
    (w.occupancy m).isSome ↔ m ∈ w.coordinator.mapSenders := by
  unfold occupancy
  rw [← Finmap.lookup_isSome]
  rcases hm : w.coordinator.mapSenders.lookup m with _ | tx
  · rfl
  · exact iff_of_true (hw.sender_isSome m tx hm) rfl

lemma placed_start : Placed start.coordinator start.occupancy where
  registered _ _ h := by simp [start, WorldCoordinator.new] at h
  present _ _ h := by simp [start, WorldCoordinator.new, occupancy] at h

lemma placed_of_reached (h : (system budget).ReachedBy Settles w) :
    Placed w.coordinator w.occupancy := by
  refine h.invariant_of (fun w => Placed w.coordinator w.occupancy) wired_of_reached
    (fun _ h0 => Eq.symm h0 ▸ placed_start) ?_
  intro w a w' hw _ hp hc hst
  obtain ⟨-, ⟨msg, rest, rfl, hin, -, hc', ho'⟩ | ⟨hc', ho', -⟩⟩ := wired_step hw hst
  · rw [hc', ho']
    exact (placed_next hp (occupancy_isSome hw) msg).mpr (hc msg (by rw [hin]; rfl))
  · rw [hc', ho']
    exact hp

lemma playerOn_iff (hw : Wired w) (hd : w.Drained) (m : MapId) (s : SessionId) :
    PlayerOn w m s ↔ ∃ p, w.occupancy m = some p ∧ s ∈ p := by
  constructor
  · rintro ⟨tx, rt, hm, hrt, hs⟩
    obtain ⟨rt', hrt', ho⟩ := occupancy_drained hw hd hm
    obtain rfl := Option.some.inj (hrt.symm.trans hrt')
    exact ⟨_, ho, Finmap.mem_keys.mpr hs⟩
  · rintro ⟨p, hp, hs⟩
    have hm : m ∈ w.coordinator.mapSenders :=
      (occupancy_isSome hw m).mp (by rw [hp]; rfl)
    obtain ⟨tx, htx⟩ := Option.isSome_iff_exists.mp (Finmap.lookup_isSome.mpr hm)
    obtain ⟨rt, hrt, ho⟩ := occupancy_drained hw hd htx
    obtain rfl := Option.some.inj (hp.symm.trans ho)
    exact ⟨tx, rt, htx, hrt, Finmap.mem_keys.mp hs⟩

/-- **Who is where**: in a run whose messages all settle, whenever everything has been handled
and ticked, a session is a player of the instance of a registered map if and only if it is
tracked on that map, a tracked session is on a registered map, and nobody is on two. -/
theorem whereabouts_agree (h : (system budget).ReachedBy Settles w) (hd : w.Drained) :
    Agree w := by
  have hw : Wired w := wired_of_reached h.reached
  have hp := placed_of_reached h
  have hsame : ∀ m s, PlayerOn w m s → w.coordinator.sessionMap.lookup s = some m := by
    intro m s hs
    obtain ⟨p, ho, hs⟩ := (playerOn_iff hw hd m s).mp hs
    exact (hp.present m p ho s).mp hs
  refine ⟨fun m hm s => ⟨hsame m s, fun hs => ?_⟩, fun s m hs => ?_, fun s m m' hs hs' => ?_⟩
  · obtain ⟨p, ho⟩ := Option.isSome_iff_exists.mp ((occupancy_isSome hw m).mpr hm)
    exact (playerOn_iff hw hd m s).mpr ⟨p, ho, (hp.present m p ho s).mpr hs⟩
  · exact (occupancy_isSome hw m).mp (hp.registered s m hs)
  · exact Option.some.inj ((hsame m s hs).symm.trans (hsame m' s hs'))

/-- A session that enters map 1. -/
theorem whereabouts_agree_entered :
    ∃ w, (system 64).ReachedBy Settles w ∧ w.Drained ∧ Agree w ∧
      w.coordinator.sessionMap.lookup (.fill 7) = some 1 := by
  obtain ⟨w, hw, hp⟩ := (system 64).exists_reachedBy Settles rfl
    [.register 1, .post (.routeToMap 1 (.fill 7) none .enterWorld), .recv, .recv, .route 0,
      .tick 0 default]
    (fun w => w.Drained ∧ w.coordinator.sessionMap.lookup (.fill 7) = some 1) (by decide +kernel)
  obtain ⟨hd, hs⟩ := of_decide_eq_true hp
  exact ⟨w, hw, hd, whereabouts_agree hw hd, hs⟩

/-- A session that enters map 1 and then map 2 is a player of both, and tracked on map 2. -/
theorem session_on_two_maps :
    ∃ w, (system 64).Reached w ∧ w.Drained ∧ w.coordinator.sessionMap.lookup (.fill 7) = some 2 ∧
      PlayerOn w 1 (.fill 7) ∧ PlayerOn w 2 (.fill 7) ∧ ¬ Agree w := by
  obtain ⟨w, hw, hp⟩ := (system 64).exists_reachedBy (fun _ _ => True) rfl
    [.register 1, .register 2, .post (.routeToMap 1 (.fill 7) none .enterWorld),
      .post (.routeToMap 2 (.fill 7) none .enterWorld), .recv, .recv, .recv, .recv, .route 0,
      .route 1, .tick 0 default, .tick 1 default]
    (fun w => w.Drained ∧ w.coordinator.sessionMap.lookup (.fill 7) = some 2 ∧
      PlayerBehind w 1 0 (.fill 7) ∧ PlayerBehind w 2 1 (.fill 7)) (by decide +kernel)
  obtain ⟨hd, hs, h1, h2⟩ := of_decide_eq_true hp
  have hp1 := playerOn_of_behind h1
  have hp2 := playerOn_of_behind h2
  refine ⟨w, hw, hd, hs, hp1, hp2, fun ha => ?_⟩
  exact absurd (ha.unique _ 1 2 hp1 hp2) (by decide)

end HelbreathBackend.Whereabouts
