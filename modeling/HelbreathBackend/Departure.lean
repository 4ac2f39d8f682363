import HelbreathBackend.GatewayAndWorld
import HelbreathBackend.Whereabouts

/-!
Who has left the world.

The coordinator and the instances know of a session what the messages since its last entry
have left of it. A disconnection sends them nothing: a disconnected session is gone from the
world if each of its entries was closed before.
-/

namespace HelbreathBackend.Departure

open HelbreathBackend.Lib HelbreathBackend.Lib.Contract HelbreathBackend.Domain
open HelbreathBackend.Application HelbreathBackend.World HelbreathBackend.MapServer
open HelbreathBackend.MapRuntimes HelbreathBackend.MapRuntimes.WorldRuntime
open HelbreathBackend.Whereabouts HelbreathBackend.Frame HelbreathBackend.Gateway
open HelbreathBackend.Grants HelbreathBackend.Routing HelbreathBackend.GatewaySystem
open HelbreathBackend.GatewayTrace HelbreathBackend.RouterRun HelbreathBackend.GatewayAndWorld

/-! ### What the messages say of a session -/

/-- The session enters the map. -/
def enters (s : SessionId) (m : MapId) : WorldMessage → Bool
  | .routeToMap m' s' _ .enterWorld => s = s' && m = m'
  | _ => false

/-- The message leaves a session tracked that is on the map. -/
def keepsTracked (s : SessionId) (m : MapId) : WorldMessage → Bool
  | .unregisterMap m' => m ≠ m'
  | .routeToMap _ s' _ .enterWorld | .routeToMap _ s' _ .logout => s ≠ s'
  | _ => true

/-- The message leaves a player of the map one. -/
def keepsPlayer (s : SessionId) (m : MapId) : WorldMessage → Bool
  | .registerMap m' _ | .unregisterMap m' => m ≠ m'
  | .routeToMap m' s' _ .logout => !(s = s' && m = m')
  | _ => true

lemma tracked_next (c : WorldCoordinator) (s : SessionId) (m : MapId) (msg : WorldMessage) :
    (c.next msg).sessionMap.lookup s = some m ↔
      enters s m msg = true ∨ (c.sessionMap.lookup s = some m ∧ keepsTracked s m msg = true) := by
  cases msg with
  | unregisterMap m' =>
    have hl := FMap.lookup_retain (fun _ currentMap => currentMap != m') c.sessionMap s
    change (FMap.retain _ c.sessionMap).lookup s = some m ↔ _
    rw [hl, Option.filter_eq_some_iff]
    simp [enters, keepsTracked]
  | routeToMap m' s' cid cmd =>
    rw [lookup_next_route]
    cases cmd
    case enterWorld =>
      have hm : m' = m ↔ m = m' := eq_comm
      by_cases hs : s = s' <;> simp [enters, keepsTracked, hs, hm]
    case logout => simp [enters, keepsTracked, and_comm]
    all_goals simp [enters, keepsTracked]
  | registerMap | broadcast | getStats => simp [enters, keepsTracked, WorldCoordinator.next,
      WorldCoordinator.handle, WorldCoordinator.registerMap]

/-- Where a session is tracked: on the map it has entered last, and not left since. -/
theorem tracked_iff (msgs : List WorldMessage) (s : SessionId) (m : MapId) :
    (WorldCoordinator.run msgs).sessionMap.lookup s = some m ↔
      Since (fun _ msg => enters s m msg = true) (fun msg => keepsTracked s m msg = true) msgs := by
  induction msgs using List.reverseRecOn with
  | nil => exact iff_of_false (by simp [WorldCoordinator.run, WorldCoordinator.new]) not_since_nil
  | append_singleton msgs msg ih =>
    have hrun : WorldCoordinator.run (msgs ++ [msg]) = (WorldCoordinator.run msgs).next msg := by
      unfold WorldCoordinator.run
      rw [List.foldl_append]
      rfl
    rw [hrun, tracked_next, since_snoc, ih]

/-- The session is on the map. -/
def OnMap (o : Occupancy) (s : SessionId) (m : MapId) : Prop := ∃ p, o m = some p ∧ s ∈ p

lemma onMap_next (o : Occupancy) (s : SessionId) (m : MapId) (msg : WorldMessage) :
    OnMap (o.next msg) s m ↔
      (enters s m msg = true ∧ (o m).isSome) ∨ (OnMap o s m ∧ keepsPlayer s m msg = true) := by
  unfold OnMap
  cases msg with
  | registerMap m' tx | unregisterMap m' =>
    by_cases hm : m = m' <;> simp [Occupancy.next, enters, keepsPlayer, hm]
  | routeToMap m' s' cid cmd =>
    rw [next_route_occupancy]
    by_cases hm : m = m'
    · rw [if_pos hm]
      rcases ho : o m with _ | p
      · simp
      · cases cmd
        case enterWorld => simp [MapInstance.presence, enters, keepsPlayer, hm]
        case logout => simp [MapInstance.presence, enters, keepsPlayer, hm, and_comm]
        all_goals simp [MapInstance.presence, enters, keepsPlayer]
    · rw [if_neg hm]
      cases cmd <;> simp [enters, keepsPlayer, hm]
  | broadcast | getStats => simp [Occupancy.next, enters, keepsPlayer]

/-- Whom a registered map has as players: those who entered while it was, and since then have
neither left nor seen it registered anew. -/
theorem onMap_iff (msgs : List WorldMessage) (s : SessionId) (m : MapId) :
    OnMap (occupancyAfter msgs) s m ↔
      Since (fun pre msg => enters s m msg = true ∧ (occupancyAfter pre m).isSome)
        (fun msg => keepsPlayer s m msg = true) msgs := by
  induction msgs using List.reverseRecOn with
  | nil => exact iff_of_false (by simp [OnMap, occupancyAfter]) not_since_nil
  | append_singleton msgs msg ih =>
    have hrun : occupancyAfter (msgs ++ [msg]) = (occupancyAfter msgs).next msg := by
      unfold occupancyAfter
      rw [List.foldl_append]
      rfl
    rw [hrun, onMap_next, since_snoc, ih]

/-! ### Entries that are closed -/

/-- The session enters a map. -/
def asksEntry (s : SessionId) : WorldMessage → Bool
  | .routeToMap _ s' _ .enterWorld => s = s'
  | _ => false

/-- The session enters a map that is registered, and so becomes a player there. -/
def asksPlayer (s : SessionId) (pre : List WorldMessage) : WorldMessage → Bool
  | .routeToMap m s' _ .enterWorld => s = s' && (occupancyAfter pre m).isSome
  | _ => false

/-- What ends the tracking that an entry began. -/
def endsTracking (s : SessionId) : WorldMessage → WorldMessage → Bool
  | .routeToMap m _ _ _, later => !keepsTracked s m later
  | _, _ => false

/-- What takes the session off the map of an entry. -/
def endsPlaying (s : SessionId) : WorldMessage → WorldMessage → Bool
  | .routeToMap m _ _ _, later => !keepsPlayer s m later
  | _, _ => false

/-- Every entry of the session has been closed: the coordinator does not track it any more,
nor is it a player if the map was registered when it entered. -/
def Closed (s : SessionId) (msgs : List WorldMessage) : Prop :=
  Answered (fun _ => asksEntry s) (endsTracking s) msgs ∧
    Answered (asksPlayer s) (endsPlaying s) msgs

instance (s : SessionId) (msgs : List WorldMessage) : Decidable (Closed s msgs) :=
  inferInstanceAs (Decidable (Answered _ _ msgs ∧ Answered _ _ msgs))

lemma eq_of_enters {s : SessionId} {m : MapId} {msg : WorldMessage} (h : enters s m msg = true) :
    ∃ cid, msg = .routeToMap m s cid .enterWorld := by
  unfold enters at h
  split at h
  · next m' s' cid =>
    rw [Bool.and_eq_true, decide_eq_true_eq, decide_eq_true_eq] at h
    obtain ⟨rfl, rfl⟩ := h
    exact ⟨cid, rfl⟩
  · cases h

lemma asksPlayer_iff (s : SessionId) (pre : List WorldMessage) (msg : WorldMessage) :
    asksPlayer s pre msg = true ↔ ∃ m, enters s m msg = true ∧ (occupancyAfter pre m).isSome := by
  constructor
  · intro h
    unfold asksPlayer at h
    split at h
    · next m s' cid =>
      rw [Bool.and_eq_true, decide_eq_true_eq] at h
      obtain ⟨rfl, ho⟩ := h
      exact ⟨m, by simp [enters], ho⟩
    · cases h
  · rintro ⟨m, h, ho⟩
    obtain ⟨cid, rfl⟩ := eq_of_enters h
    simp [asksPlayer, ho]

lemma asksEntry_iff (s : SessionId) (msg : WorldMessage) :
    asksEntry s msg = true ↔ ∃ m, enters s m msg = true := by
  constructor
  · intro h
    unfold asksEntry at h
    split at h
    · next m s' cid =>
      obtain rfl := of_decide_eq_true h
      exact ⟨m, by simp [enters]⟩
    · cases h
  · rintro ⟨m, h⟩
    obtain ⟨cid, rfl⟩ := eq_of_enters h
    simp [asksEntry]

lemma Closed.snoc {s : SessionId} {msgs : List WorldMessage} (h : Closed s msgs)
    {msg : WorldMessage} (hm : asksEntry s msg = false) : Closed s (msgs ++ [msg]) := by
  refine ⟨h.1.snoc hm, h.2.snoc ?_⟩
  by_contra hp
  rw [Bool.not_eq_false] at hp
  obtain ⟨m, hen, -⟩ := (asksPlayer_iff s msgs msg).mp hp
  rw [(asksEntry_iff s msg).mpr ⟨m, hen⟩] at hm
  cases hm

/-- Who has closed every entry is tracked nowhere and on no map, and only they are. -/
lemma closed_iff (s : SessionId) (msgs : List WorldMessage) :
    Closed s msgs ↔
      (∀ m, (WorldCoordinator.run msgs).sessionMap.lookup s ≠ some m) ∧
        ∀ m, ¬ OnMap (occupancyAfter msgs) s m := by
  refine and_congr ?_ ?_
  · rw [answered_iff_not_since (fun _ x => asksEntry_iff s x) (q := fun m msg =>
      keepsTracked s m msg = true)]
    · exact forall_congr' fun m => not_congr (tracked_iff msgs s m).symm
    · intro m _ x y hx
      obtain ⟨cid, rfl⟩ := eq_of_enters hx
      simp [endsTracking]
  · rw [answered_iff_not_since (asksPlayer_iff s) (q := fun m msg => keepsPlayer s m msg = true)]
    · exact forall_congr' fun m => not_congr (onMap_iff msgs s m).symm
    · intro m _ x y hx
      obtain ⟨cid, rfl⟩ := eq_of_enters hx.1
      simp [endsPlaying]

/-- The session is gone from the table of the coordinator, and from the players of every map. -/
def LeftWorld (w : WorldRuntime) (s : SessionId) : Prop :=
  w.coordinator.sessionMap.lookup s = none ∧ ∀ m, ¬ PlayerOn w m s

section

variable {parseStr : String → Option Uuid} {packetMaxPayload commandBudget : ℕ}
  {d d' : Deployment} {s : SessionId}

/-- **When everything is handled, who has closed every entry is gone**, and nobody else. -/
theorem leftWorld_iff
    (h : (GatewayAndWorld.system parseStr packetMaxPayload commandBudget).Reached d)
    (hd : d.world.Drained) (s : SessionId) : LeftWorld d.world s ↔ Closed s d.messages := by
  obtain ⟨hw, hist, hm, hc, ho⟩ := handled_of_reached h
  rw [hd.1, List.append_nil] at hm
  unfold LeftWorld
  rw [hm, closed_iff, Option.eq_none_iff_forall_ne_some, hc]
  refine and_congr Iff.rfl (forall_congr' fun m => ?_)
  rw [playerOn_iff hw hd, ho]
  exact Iff.rfl

/-! ### After a disconnection -/

/-- The router asks nothing of the world for a disconnection. -/
def Quits (g : Gateway) : Prop :=
  ∀ s r t, g.current = some (.disconnectSession s r, t) → t.Asks fun q => routed q = []

lemma quits_of_reached {g : Gateway}
    (h : (GatewaySystem.system parseStr packetMaxPayload).Reached g) : Quits g := by
  refine h.invariant Quits ?_ ?_
  · rintro g rfl s r t ht
    cases ht
  · intro g a g' hq _ hst
    cases GatewayTrace.effect_of_step hst with
    | accepted _ | moved _ _ | sent _ _ | left _ _ | removed _ _ => exact hq
    | taken _ _ =>
      rintro s r t ⟨⟩
      exact ⟨rfl, fun _ _ => trivial⟩
    | synced hc =>
      rintro s r t ⟨⟩
      exact hq s r _ hc _
    | replied hc reply =>
      rintro s r t ⟨⟩
      exact (hq s r _ hc).2 _
    | finished _ =>
      rintro s r t ⟨⟩

lemma not_routed_of_disconnected {g : Gateway} (ht : Traced g) (hr : Routed g) (hq : Quits g)
    {r : String} (hdis : InternalCommand.disconnectSession s r ∈ g.handled) {c : InternalCommand}
    {q : BackendRequest} {k : HttpReply → Router Unit} (hc : g.current = some (c, .call q k))
    (hs : sessionOf q = s) : routed q = [] := by
  obtain ⟨s', conn, hby, -⟩ := hr.connected ht hc
  obtain ⟨⟨hown, -⟩, -⟩ := hr.running s' c _ hc hby g.sessions (.inl rfl)
  obtain rfl : s' = s := hown.symm.trans hs
  obtain ⟨pre, hpre⟩ := hr.taken c _ hc
  rw [hpre] at hdis
  rcases List.mem_append.mp hdis with hdis | hdis
  · exact absurd hdis (ht.last pre c g.internalQueue (by simp [posted, hpre]) s' r hby)
  · obtain rfl := List.mem_singleton.mp hdis
    exact (hq s' r _ hc).1

/-- The session whose disconnection the router takes with this action. -/
def leaver (d : Deployment) : GatewayAndWorld.Action → Option SessionId
  | .gateway .recv =>
    match d.gateway.internalQueue with
    | .disconnectSession s _ :: _ => some s
    | _ => none
  | _ => none

/-- A disconnection is taken when every entry of its session has been closed. -/
def ClosedFirst (d : Deployment) (a : GatewayAndWorld.Action) : Prop :=
  ∀ s ∈ leaver d a, Closed s d.messages

instance (d : Deployment) (a : GatewayAndWorld.Action) : Decidable (ClosedFirst d a) :=
  inferInstanceAs (Decidable (∀ s ∈ leaver d a, _))

lemma handled_of_ne_recv {g g' : Gateway} {a : GatewaySystem.Action}
    (h : GatewaySystem.step parseStr packetMaxPayload g a = some g') (ha : a ≠ .recv) :
    g'.handled = g.handled := by
  cases a with
  | recv => exact absurd rfl ha
  | accept s remoteIp =>
    simp only [GatewaySystem.step, Gateway.accept] at h
    split at h <;> cases h
    rfl
  | read | timeout | readError | frame =>
    obtain ⟨_, _, _, _, rfl⟩ := stepConnection_cases h
    rfl
  | send | disconnect =>
    obtain ⟨_, _, _, _, _, rfl⟩ := stepEnqueue_cases h
    rfl
  | remove s =>
    obtain ⟨conn, -, h⟩ := Option.bind_eq_some_iff.mp h
    split at h <;> cases h
    rfl
  | sync =>
    simp only [GatewaySystem.step, Gateway.sync] at h
    split at h <;> cases h
    rfl
  | reply r =>
    simp only [GatewaySystem.step, Gateway.reply] at h
    split at h <;> cases h
    rfl
  | finish =>
    simp only [GatewaySystem.step, Gateway.finish] at h
    split at h <;> cases h
    rfl

lemma handled_of_recv {g g' : Gateway}
    (h : GatewaySystem.step parseStr packetMaxPayload g .recv = some g') :
    ∃ cmd rest, g.internalQueue = cmd :: rest ∧ g'.handled = g.handled ++ [cmd] := by
  simp only [GatewaySystem.step, Gateway.recv] at h
  split at h
  · next cmd rest _ hq =>
    cases h
    exact ⟨cmd, rest, hq, rfl⟩
  · cases h

lemma closed_routed {msgs : List WorldMessage} (hc : Closed s msgs) {q : BackendRequest}
    (hq : sessionOf q = s → routed q = []) : Closed s (msgs ++ routed q) := by
  rcases hr : routed q with _ | ⟨msg, rest⟩
  · rwa [List.append_nil]
  · cases q with
    | worldRoute m envelope =>
      have hne : s ≠ envelope.sessionId := by
        intro he
        rw [hq he.symm] at hr
        cases hr
      cases hr
      refine hc.snoc ?_
      cases envelope.command <;> simp [asksEntry, routeCommand, hne]
    | authLogin | authLogout | authCharacterList | authCharacterCreate | authCharacterDelete
    | authCharacterSelect => cases hr

lemma closed_announcing {w : WorldRuntime} {msgs : List WorldMessage} (hc : Closed s msgs)
    {a : MapRuntimes.Action} (ha : byOperator a = true) :
    Closed s (msgs ++ announcing w a) := by
  cases a with
  | register mapId => exact hc.snoc rfl
  | post msg =>
    cases msg with
    | routeToMap => cases ha
    | registerMap | unregisterMap | broadcast | getStats => exact hc.snoc rfl
  | recv | route | tick =>
    change Closed s (msgs ++ [])
    rwa [List.append_nil]

lemma closed_of_reached
    (h : (GatewayAndWorld.system parseStr packetMaxPayload commandBudget).ReachedBy ClosedFirst d) :
    ∀ s r, InternalCommand.disconnectSession s r ∈ d.gateway.handled → Closed s d.messages := by
  refine h.invariant_of
    (fun d => ∀ s r, InternalCommand.disconnectSession s r ∈ d.gateway.handled →
      Closed s d.messages)
    (fun h => gateway_reached h) ?_ ?_
  · rintro d rfl s r hr
    exact absurd hr List.not_mem_nil
  · intro d a d' hg _ hcl hc hst s r hr
    cases a with
    | gateway a =>
      obtain ⟨g, served, hstep, rfl⟩ := stepGateway_cases hst
      by_cases ha : a = .recv
      · subst ha
        obtain ⟨cmd, rest, hq, hh⟩ := handled_of_recv hstep
        have hr : InternalCommand.disconnectSession s r ∈ g.handled := hr
        rw [hh] at hr
        rcases List.mem_append.mp hr with hr | hr
        · exact hcl s r hr
        · obtain rfl := List.mem_singleton.mp hr
          refine hc s ?_
          simp [leaver, hq]
      · have hr : InternalCommand.disconnectSession s r ∈ g.handled := hr
        rw [handled_of_ne_recv hstep ha] at hr
        exact hcl s r hr
    | serve =>
      obtain ⟨c, q, k, hcur, rfl⟩ := serve_cases hst
      refine closed_routed (hcl s r hr) fun hs => ?_
      exact not_routed_of_disconnected (traced_of_reached hg) (routed_of_reached hg)
        (quits_of_reached hg) hr hcur hs
    | world a =>
      obtain ⟨ha, w, -, rfl⟩ := stepWorld_cases hst
      exact closed_announcing (hcl s r hr) ha

/-- **Who is disconnected leaves the world**: in a run in which a disconnection is taken when
every entry of its session has been closed, the session is gone once everything is handled. -/
theorem disconnected_leaves_world
    (h : (GatewayAndWorld.system parseStr packetMaxPayload commandBudget).ReachedBy ClosedFirst d)
    {r : String} (hr : InternalCommand.disconnectSession s r ∈ d.gateway.handled)
    (hd : d.world.Drained) : LeftWorld d.world s :=
  (leftWorld_iff h.reached hd s).mpr (closed_of_reached h s r hr)

end

/-- Map 2 is activated; a session logs in, selects a character and enters the world. Its frames
may be followed by more. -/
def session (iter : Iteration) (more : Bytes) : List GatewayAndWorld.Action :=
  [.world (.register 2), .world .recv,
    .gateway (.accept (.fill 7) "10.0.0.1"),
    .gateway (.read (.fill 7) (encodeFrame 0x0001 [117, 0, 112, 0, 118] ++
      encodeFrame 0x0004 (Uuid.fill 5).bytes ++ encodeFrame 0x0005 [] ++ more)),
    .gateway (.frame (.fill 7) true), .gateway (.send (.fill 7)),
    .gateway (.frame (.fill 7) true), .gateway (.send (.fill 7)),
    .gateway (.frame (.fill 7) true), .gateway (.send (.fill 7)),
    .gateway .recv, .gateway .sync, .gateway .sync, .serve,
    .gateway (.reply (.response 200 (.login ⟨true, some (.fill 1), none⟩))),
    .gateway .sync, .gateway .finish,
    .gateway .recv, .gateway .sync, .gateway .sync, .serve,
    .gateway (.reply
      (.response 200 (.characterSelect ⟨true, some (.fill 5), some 2, none, none, none⟩))),
    .gateway .sync, .gateway .finish,
    .gateway .recv, .gateway .sync, .gateway .sync, .gateway .sync, .serve,
    .gateway (.reply (.response 200 .other)), .gateway .sync, .gateway .finish,
    .world .recv, .world (.route 0), .world (.tick 0 iter)]

/-- The connection ends, and the router takes the disconnection. -/
def ending : List GatewayAndWorld.Action :=
  [.gateway (.read (.fill 7) []), .gateway (.disconnect (.fill 7)), .gateway .recv, .serve,
    .gateway (.reply (.response 200 .other)), .gateway .sync, .gateway .finish,
    .gateway (.remove (.fill 7))]

/-- A session that logs out before its connection ends. -/
theorem disconnected_leaves_world_logged_out :
    ∃ d r, (GatewayAndWorld.system (fun _ => none) 65535 64).ReachedBy ClosedFirst d ∧
      InternalCommand.disconnectSession (.fill 7) r ∈ d.gateway.handled ∧ d.world.Drained ∧
      LeftWorld d.world (.fill 7) := by
  obtain ⟨d, hd, hp⟩ := (GatewayAndWorld.system (fun _ => none) 65535 64).exists_reachedBy
    ClosedFirst rfl
    (session default (encodeFrame 0x02FF []) ++
      [.gateway (.frame (.fill 7) true), .gateway (.send (.fill 7)), .gateway .recv,
        .gateway .sync, .gateway .sync, .serve, .gateway (.reply (.response 200 .other)), .serve,
        .gateway (.reply (.response 200 .other)), .gateway .sync, .gateway .finish,
        .world .recv, .world (.route 0), .world (.tick 0 default)] ++ ending)
    (fun d => InternalCommand.disconnectSession (.fill 7) "socket_closed" ∈ d.gateway.handled ∧
      d.world.Drained) (by decide +kernel)
  obtain ⟨hr, hdr⟩ := of_decide_eq_true hp
  exact ⟨d, _, hd, hr, hdr, disconnected_leaves_world hd hr hdr⟩

/-- A session whose connection ends without a logout stays tracked, and a player. -/
theorem disconnected_stays_in_world :
    ∃ d r, (GatewayAndWorld.system (fun _ => none) 65535 64).Reached d ∧
      InternalCommand.disconnectSession (.fill 7) r ∈ d.gateway.handled ∧
      d.gateway.current.isNone = true ∧ d.world.Drained ∧
      d.world.coordinator.sessionMap.lookup (.fill 7) = some 2 ∧ PlayerOn d.world 2 (.fill 7) ∧
      ¬ LeftWorld d.world (.fill 7) := by
  obtain ⟨d, hd, hp⟩ := (GatewayAndWorld.system (fun _ => none) 65535 64).exists_reachedBy
    (fun _ _ => True) rfl (session default [] ++ ending)
    (fun d => InternalCommand.disconnectSession (.fill 7) "socket_closed" ∈ d.gateway.handled ∧
      d.gateway.current.isNone = true ∧ d.world.Drained ∧
      d.world.coordinator.sessionMap.lookup (.fill 7) = some 2 ∧
      PlayerBehind d.world 2 0 (.fill 7)) (by decide +kernel)
  obtain ⟨hr, hcur, hdr, hs, hb⟩ := of_decide_eq_true hp
  have hon := playerOn_of_behind hb
  exact ⟨d, _, hd, hr, hcur, hdr, hs, hon, fun hl => hl.2 2 hon⟩

end HelbreathBackend.Departure
