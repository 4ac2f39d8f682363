import HelbreathBackend.Counters
import HelbreathBackend.MapManager

/-!
The request of an operator to deactivate a map.

The handler asks the coordinator for the counters, refuses if the map has players, and
otherwise deactivates it. Between the answer and the `UnregisterMap` the map is doomed:
nothing looks at its players again. They are none when the answer was right and nobody enters
the map while it is doomed.
-/

namespace HelbreathBackend.Teardown

open HelbreathBackend.Lib HelbreathBackend.Domain HelbreathBackend.Application
open HelbreathBackend.World HelbreathBackend.MapManager

inductive Request
  /-- about to send `GetStats` -/
  | asking (mapId : MapId)
  | waiting (mapId : MapId)
  | answered (mapId : MapId) (stats : WorldStats)
  | refused (mapId : MapId) (playersOnline : ℕ)
  /-- in the call of `deactivate` with the request's own identifier -/
  | deactivating (mapId : MapId)

/-- A deactivation is only ever called by the handler here. -/
structure WorldService where
  manager : MapRuntimeManager
  requests : FMap CallId Request

inductive Action
  | request (id : CallId) (mapId : MapId)
  | ask (id : CallId)
  | decide (id : CallId)
  | activate (id : CallId) (mapId : MapId)
  | resume (id : CallId)
  | post (msg : WorldMessage)
  | recv

/-- The count of a map in the statistics, zero where it is not listed. -/
def playersOnline (stats : WorldStats) (mapId : MapId) : ℕ := FMap.count stats.playersByMap mapId

/-- What a request makes of the answer to its question. -/
def Request.answer (stats : WorldStats) : Request → Request
  | .waiting mapId => .answered mapId stats
  | r => r

namespace WorldService

variable (w : WorldService)

def setRequest (id : CallId) (r : Request) : WorldService :=
  { w with requests := w.requests.insert id r }

def deliver (requests : FMap CallId Request) : Option Effect → FMap CallId Request
  | some (.reply id stats) => FMap.modify requests id (Request.answer stats)
  | _ => requests

/-- Refuse if the map has players, deactivate it if not. -/
def decide (id : CallId) : Option WorldService :=
  match w.requests.lookup id with
  | some (.answered mapId stats) =>
    if 0 < playersOnline stats mapId then
      some (w.setRequest id (.refused mapId (playersOnline stats mapId)))
    else
      (w.manager.spawn id (.deactivate mapId)).map fun manager =>
        { w.setRequest id (.deactivating mapId) with manager := manager }
  | _ => none

def step : Action → Option WorldService
  | .request id mapId =>
    if id ∈ w.requests ∨ id ∈ w.manager.calls then none
    else some (w.setRequest id (.asking mapId))
  | .ask id =>
    match w.requests.lookup id with
    | some (.asking mapId) =>
      (w.manager.post (.getStats id)).map fun manager =>
        { w.setRequest id (.waiting mapId) with manager := manager }
    | _ => none
  | .decide id => w.decide id
  | .activate id mapId =>
    if id ∈ w.requests then none
    else (w.manager.spawn id (.activate mapId)).map fun manager => { w with manager := manager }
  | .resume id => (w.manager.resume id).map fun manager => { w with manager := manager }
  | .post (.getStats _) => none
  | .post msg => (w.manager.post msg).map fun manager => { w with manager := manager }
  | .recv => w.manager.recv.map fun (manager, eff) => ⟨manager, deliver w.requests eff⟩

end WorldService

def start : WorldService := ⟨MapManager.start, ∅⟩

def system : System WorldService Action where
  init w := w = start
  step w a := w.step a

/-! ### Doomed maps -/

/-- The request has read that nobody is on the map. -/
def Request.dooms (mapId : MapId) : Request → Bool
  | .answered m stats => m == mapId && playersOnline stats mapId == 0
  | _ => false

/-- The call is going to send `UnregisterMap`, if there is a runtime to take out. -/
def dooms (mapId : MapId) : Call → Bool
  | .deactivate m | .unregistering m _ => m == mapId
  | _ => false

/-- A deactivation of the map has read that nobody is there, and its `UnregisterMap` has not
been handled. -/
def Doomed (w : WorldService) (m : MapId) : Prop :=
  w.requests.HasValue (Request.dooms m) ∨ w.manager.calls.HasValue (dooms m) ∨
    .unregisterMap m ∈ w.manager.inbox

instance (w : WorldService) (m : MapId) : Decidable (Doomed w m) :=
  inferInstanceAs (Decidable (_ ∨ _ ∨ _))

/-- A counter at zero says that no tracked session is on the map. -/
def Reliable (c : WorldCoordinator) (m : MapId) : Prop :=
  FMap.count c.playersByMap m = 0 → FMap.fibre c.sessionMap m = ∅

instance (c : WorldCoordinator) (m : MapId) : Decidable (Reliable c m) :=
  inferInstanceAs (Decidable (_ → _))

lemma reliable_of_match {c : WorldCoordinator} (h : Counters.CountersMatch c) (m : MapId) :
    Reliable c m := by
  intro hz
  have hcard : (FMap.fibre c.sessionMap m).card = 0 := (h.1 m).symm.trans hz
  exact Finset.card_eq_zero.mp hcard

/-- The messages that leave doomed maps empty: a request is answered from a reliable counter,
and no session enters a doomed map. -/
def Careful (w : WorldService) : WorldMessage → Prop
  | .getStats id =>
    match w.requests.lookup id with
    | some (.waiting m) => Reliable w.manager.coordinator m
    | _ => True
  | .routeToMap m _ _ .enterWorld => ¬ Doomed w m
  | _ => True

/-- The steps at which the coordinator takes no message but a careful one. -/
def TakesCare (w : WorldService) : Action → Prop
  | .recv => ∀ msg ∈ w.manager.inbox.head?, Careful w msg
  | _ => True

/-- Nobody is tracked on a doomed map. -/
def Vacant (w : WorldService) : Prop :=
  ∀ m, Doomed w m → FMap.fibre w.manager.coordinator.sessionMap m = ∅

variable {w w' : WorldService}

lemma Vacant.of_imp (h : Vacant w) (hc : w'.manager.coordinator = w.manager.coordinator)
    (hd : ∀ m, Doomed w' m → Doomed w m) : Vacant w' :=
  fun m hm => hc ▸ h m (hd m hm)

lemma doomed_send {msg : WorldMessage} (hmsg : ∀ m, msg ≠ .unregisterMap m) {m : MapId}
    (hin : .unregisterMap m ∈ w.manager.inbox ++ [msg]) : Doomed w m := by
  rcases List.mem_append.mp hin with hin | hin
  · exact .inr (.inr hin)
  · exact absurd (List.mem_singleton.mp hin).symm (hmsg m)

lemma vacant_request (h : Vacant w) {id : CallId} {r : Request} (hr : ∀ m, r.dooms m = false) :
    Vacant (w.setRequest id r) := by
  refine h.of_imp rfl fun m hm => ?_
  rcases hm with hm | hm
  · rcases hm.of_insert with hm | hm
    · rw [hr m] at hm
      cases hm
    · exact .inl hm
  · exact .inr hm

lemma vacant_ask (h : Vacant w) {id : CallId} {m : MapId} {g : MapRuntimeManager}
    (hp : w.manager.post (.getStats id) = some g) :
    Vacant { w.setRequest id (.waiting m) with manager := g } := by
  obtain ⟨rfl, -, hu⟩ := MapRuntimeManager.post_cases hp
  refine h.of_imp rfl fun m' hm => ?_
  rcases hm with hm | hm | hm
  · rcases hm.of_insert with hm | hm
    · cases hm
    · exact .inl hm
  · exact .inr (.inl hm)
  · exact doomed_send hu hm

lemma vacant_decide (h : Vacant w) {id : CallId} (hd : w.decide id = some w') : Vacant w' := by
  unfold WorldService.decide at hd
  split at hd
  · next m stats hr =>
    split at hd
    · obtain rfl := Option.some.inj hd
      exact vacant_request h fun _ => rfl
    · next hzero =>
      obtain ⟨g, hg, rfl⟩ := Option.map_eq_some_iff.mp hd
      obtain ⟨-, rfl⟩ := MapRuntimeManager.spawn_cases hg
      refine h.of_imp rfl fun m' hm => ?_
      rcases hm with hm | hm | hm
      · rcases hm.of_insert with hm | hm
        · cases hm
        · exact .inl hm
      · rcases hm.of_insert with hm | hm
        · obtain rfl : m = m' := eq_of_beq hm
          refine .inl (FMap.hasValue_iff.mpr ⟨id, _, hr, ?_⟩)
          have hz : playersOnline stats m = 0 := by omega
          simp [Request.dooms, hz]
        · exact .inr (.inl hm)
      · exact .inr (.inr hm)
  · cases hd

lemma vacant_activate (h : Vacant w) {id : CallId} {m : MapId} {g : MapRuntimeManager}
    (hg : w.manager.spawn id (.activate m) = some g) : Vacant { w with manager := g } := by
  obtain ⟨-, rfl⟩ := MapRuntimeManager.spawn_cases hg
  refine h.of_imp rfl fun m' hm => ?_
  rcases hm with hm | hm | hm
  · exact .inl hm
  · rcases hm.of_insert with hm | hm
    · cases hm
    · exact .inr (.inl hm)
  · exact .inr (.inr hm)

lemma doomed_resume {id : CallId} {g : MapRuntimeManager} (hr : w.manager.resume id = some g)
    (m : MapId) (hm : Doomed { w with manager := g } m) : Doomed w m := by
  have hcall : ∀ {call : Call}, w.manager.calls.lookup id = some call → dooms m call = true →
      Doomed w m := fun hc hd => .inr (.inl (FMap.hasValue_iff.mpr ⟨id, _, hc, hd⟩))
  rcases hm with hm | hm | hm
  · exact .inl hm
  · cases MapRuntimeManager.resume_cases hr with
    | removed hc hl hrt =>
      rcases hm.of_insert with hm | hm
      · exact hcall hc hm
      · exact .inr (.inl hm)
    | refused hc hl hrt | locked hc hl hrt | registered hc | inserted hc | inactive hc hl hrt
    | unregistered hc | aborted hc =>
      rcases hm.of_insert with hm | hm
      · cases hm
      · exact .inr (.inl hm)
  · cases MapRuntimeManager.resume_cases hr with
    | registered hc => exact doomed_send (fun _ h => by cases h) hm
    | unregistered hc =>
      rcases List.mem_append.mp hm with hm | hm
      · exact .inr (.inr hm)
      · obtain rfl := WorldMessage.unregisterMap.inj (List.mem_singleton.mp hm)
        exact hcall hc (beq_self_eq_true _)
    | refused hc hl hrt | locked hc hl hrt | inserted hc | inactive hc hl hrt | removed hc hl hrt
    | aborted hc => exact .inr (.inr hm)

/-- After a message, nobody is on a map that nobody was on and that nobody enters. -/
lemma fibre_next {c : WorldCoordinator} {msg : WorldMessage} {m : MapId}
    (h : FMap.fibre c.sessionMap m = ∅) (hm : ∀ s cid, msg ≠ .routeToMap m s cid .enterWorld) :
    FMap.fibre (c.next msg).sessionMap m = ∅ := by
  rw [Finset.eq_empty_iff_forall_notMem] at h ⊢
  intro s hs
  rw [FMap.mem_fibre] at hs
  have hno : c.sessionMap.lookup s ≠ some m := fun hs' => h s (FMap.mem_fibre.mpr hs')
  cases msg with
  | registerMap m' tx => exact hno hs
  | unregisterMap m' =>
    have hl := FMap.lookup_retain (fun _ currentMap => currentMap != m') c.sessionMap s
    change (FMap.retain _ c.sessionMap).lookup s = _ at hs
    rw [hl, Option.filter_eq_some_iff] at hs
    exact hno hs.1
  | routeToMap m' s' cid cmd =>
    change (c.track m' s' cmd).sessionMap.lookup s = _ at hs
    rw [WorldCoordinator.track_sessionMap] at hs
    cases cmd
    case enterWorld =>
      dsimp only at hs
      rcases FMap.lookup_insert_cases hs with ⟨-, rfl⟩ | ⟨-, hs⟩
      · exact hm s' cid rfl
      · exact hno hs
    case logout =>
      dsimp only at hs
      obtain ⟨-, hs⟩ := FMap.lookup_of_erase hs
      exact hno hs
    all_goals exact hno hs
  | broadcast text => exact hno hs
  | getStats reply => exact hno hs

/-- The coordinator answers a question: the map is doomed only if it says nobody is there. -/
lemma doomed_deliver {w : WorldService} {msg : WorldMessage} {rest : List WorldMessage} {m : MapId}
    (hin : w.manager.inbox = msg :: rest)
    (hm : Doomed ⟨{ w.manager with
        inbox := rest
        coordinator := w.manager.coordinator.next msg },
      WorldService.deliver w.requests (w.manager.coordinator.handle msg).2⟩ m) :
    Doomed w m ∨ ∃ id, msg = .getStats id ∧ w.requests.lookup id = some (.waiting m) ∧
      FMap.count w.manager.coordinator.playersByMap m = 0 := by
  rcases hm with hm | hm | hm
  · cases msg with
    | getStats id =>
      rcases FMap.HasValue.of_modify hm with ⟨r, hr, hd⟩ | hm
      · cases r with
        | waiting m' =>
          simp only [Request.answer, Request.dooms, Bool.and_eq_true, beq_iff_eq] at hd
          obtain ⟨rfl, hz⟩ := hd
          exact .inr ⟨id, rfl, hr, hz⟩
        | answered m' stats =>
          exact .inl (.inl (FMap.hasValue_iff.mpr ⟨id, _, hr, hd⟩))
        | asking m' | refused m' n | deactivating m' => cases hd
      · exact .inl (.inl hm)
    | routeToMap m' s cid cmd =>
      left
      change FMap.HasValue (WorldService.deliver w.requests (Option.map _ _)) _ at hm
      rcases hl : (w.manager.coordinator.track m' s cmd).mapSenders.lookup m' with _ | tx
      · rw [hl] at hm
        exact .inl hm
      · rw [hl] at hm
        exact .inl hm
    | registerMap m' tx | unregisterMap m' | broadcast text => exact .inl (.inl hm)
  · exact .inl (.inr (.inl hm))
  · left
    refine .inr (.inr ?_)
    rw [hin]
    exact List.mem_cons_of_mem _ hm

lemma vacant_recv (h : Vacant w) {g : MapRuntimeManager} {eff : Option Effect}
    (hr : w.manager.recv = some (g, eff)) (hc : ∀ msg ∈ w.manager.inbox.head?, Careful w msg) :
    Vacant ⟨g, WorldService.deliver w.requests eff⟩ := by
  obtain ⟨msg, rest, hin, rfl, rfl⟩ := MapRuntimeManager.recv_cases hr
  have hcare : Careful w msg := hc msg (by rw [hin]; rfl)
  intro m hm
  change FMap.fibre (w.manager.coordinator.next msg).sessionMap m = ∅
  rcases doomed_deliver hin hm with hd | ⟨id, rfl, hw, hz⟩
  · refine fibre_next (h m hd) fun s cid hmsg => ?_
    subst hmsg
    exact hcare hd
  · -- the answer that dooms the map is right
    unfold Careful at hcare
    simp only [hw] at hcare
    exact hcare hz

theorem vacant_step {a : Action} (h : Vacant w) (hc : TakesCare w a) (hst : w.step a = some w') :
    Vacant w' := by
  cases a with
  | request id m =>
    simp only [WorldService.step] at hst
    split at hst
    · cases hst
    · obtain rfl := Option.some.inj hst
      exact vacant_request h fun _ => rfl
  | ask id =>
    simp only [WorldService.step] at hst
    split at hst
    · obtain ⟨g, hg, rfl⟩ := Option.map_eq_some_iff.mp hst
      exact vacant_ask h hg
    · cases hst
  | decide id => exact vacant_decide h hst
  | activate id m =>
    simp only [WorldService.step] at hst
    split at hst
    · cases hst
    · obtain ⟨g, hg, rfl⟩ := Option.map_eq_some_iff.mp hst
      exact vacant_activate h hg
  | resume id =>
    obtain ⟨g, hg, rfl⟩ := Option.map_eq_some_iff.mp hst
    have hco : g.coordinator = w.manager.coordinator := by
      cases MapRuntimeManager.resume_cases hg <;> rfl
    exact h.of_imp hco (doomed_resume hg)
  | post msg =>
    have hst : (w.manager.post msg).map (fun manager => { w with manager := manager }) =
        some w' := by
      cases msg
      case getStats id => cases hst
      all_goals exact hst
    obtain ⟨g, hg, rfl⟩ := Option.map_eq_some_iff.mp hst
    obtain ⟨rfl, -, hu⟩ := MapRuntimeManager.post_cases hg
    refine h.of_imp rfl fun m hm => ?_
    rcases hm with hm | hm | hm
    · exact .inl hm
    · exact .inr (.inl hm)
    · exact doomed_send hu hm
  | recv =>
    obtain ⟨⟨g, eff⟩, hr, rfl⟩ := Option.map_eq_some_iff.mp hst
    exact vacant_recv h hr hc

lemma vacant_start : Vacant start := by
  intro m hm
  rfl

/-- **No map is torn down under its players**: in a run in which no request is answered from
a counter that has drifted to zero, and nobody enters a map between the answer to a request
and the `UnregisterMap` it sends, nobody is tracked on a map when the coordinator takes the
`UnregisterMap` for it. -/
theorem unregister_vacant (h : system.ReachedBy TakesCare w) {m : MapId}
    {rest : List WorldMessage} (hin : w.manager.inbox = .unregisterMap m :: rest) (s : SessionId) :
    w.manager.coordinator.sessionMap.lookup s ≠ some m := by
  have hv : Vacant w :=
    h.invariant Vacant (fun _ h0 => Eq.symm h0 ▸ vacant_start)
      fun _ _ _ hs hc hst => vacant_step hs hc hst
  have hd : Doomed w m := .inr (.inr (by rw [hin]; exact List.mem_cons_self))
  intro hs
  have hmem : s ∈ FMap.fibre w.manager.coordinator.sessionMap m := FMap.mem_fibre.mpr hs
  rw [hv m hd] at hmem
  exact absurd hmem (Finset.notMem_empty s)

instance (w : WorldService) : ∀ a, Decidable (TakesCare w a)
  | .recv => by
    have : ∀ msg, Decidable (Careful w msg)
      | .getStats id => by unfold Careful; dsimp only; split <;> infer_instance
      | .routeToMap m s cid cmd => by unfold Careful; cases cmd <;> dsimp only <;> infer_instance
      | .registerMap .. | .unregisterMap _ | .broadcast _ => .isTrue trivial
    exact inferInstanceAs (Decidable (∀ msg ∈ w.manager.inbox.head?, Careful w msg))
  | .request .. | .ask _ | .decide _ | .activate .. | .resume _ | .post _ => .isTrue trivial

/-- Map 1 is activated, a session enters it and logs out, and then it is asked about and
deactivated. -/
theorem unregister_vacant_quiet :
    ∃ w rest, system.ReachedBy TakesCare w ∧ w.manager.inbox = .unregisterMap 1 :: rest ∧
      w.manager.coordinator.sessionMap.lookup (.fill 7) ≠ some 1 := by
  obtain ⟨w, hw, hp⟩ := system.exists_reachedBy TakesCare rfl
    [.activate 0 1, .resume 0, .resume 0, .resume 0, .recv,
      .post (.routeToMap 1 (.fill 7) none .enterWorld), .recv,
      .post (.routeToMap 1 (.fill 7) none .logout), .recv,
      .request 5 1, .ask 5, .recv, .decide 5, .resume 5, .resume 5]
    (fun w => w.manager.inbox = [.unregisterMap 1]) (by decide +kernel)
  have hin := of_decide_eq_true hp
  exact ⟨w, [], hw, hin, unregister_vacant hw hin (.fill 7)⟩

/-- A session enters map 1 after a request has read that nobody is there. -/
theorem unregister_under_player :
    ∃ w rest, system.Reached w ∧ w.manager.inbox = .unregisterMap 1 :: rest ∧
      w.manager.coordinator.sessionMap.lookup (.fill 7) = some 1 := by
  obtain ⟨w, hw, hp⟩ := system.exists_reachedBy (fun _ _ => True) rfl
    [.activate 0 1, .resume 0, .resume 0, .resume 0, .recv, .request 5 1, .ask 5, .recv,
      .post (.routeToMap 1 (.fill 7) none .enterWorld), .decide 5, .resume 5, .resume 5, .recv]
    (fun w => w.manager.inbox = [.unregisterMap 1] ∧
      w.manager.coordinator.sessionMap.lookup (.fill 7) = some 1) (by decide +kernel)
  obtain ⟨hin, hs⟩ := of_decide_eq_true hp
  exact ⟨w, [], hw, hin, hs⟩

end HelbreathBackend.Teardown
