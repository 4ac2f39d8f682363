import HelbreathBackend.MapManager

/-!
The runtimes the manager has against the senders the coordinator has.

What the coordinator will have once its inbox is handled follows the table of runtimes at
every step, with two delays: an activation registers before it inserts, and a deactivation
unregisters after it has removed. The first delay is covered by the lock. The second is not:
an `UnregisterMap` that is sent late, when its map has been activated again, takes the new
registration away. Nothing else can.
-/

namespace HelbreathBackend.Registration

open HelbreathBackend.Lib HelbreathBackend.Domain HelbreathBackend.Application
open HelbreathBackend.World HelbreathBackend.MapManager
open HelbreathBackend.MapManager.MapRuntimeManager

/-- The sender of a map once the inbox is handled. -/
def settled (g : MapRuntimeManager) (m : MapId) : Option ChannelId :=
  (g.inbox.foldl WorldCoordinator.next g.coordinator).mapSenders.lookup m

/-- The runtime of a map: in the table, or about to be inserted. -/
def Owned (g : MapRuntimeManager) (m : MapId) (tx : ChannelId) : Prop :=
  g.runtimes.lookup m = some tx ∨ ∃ id, g.calls.lookup id = some (.inserting m tx)

/-- The holder of the lock is about to insert a runtime of map `m`. -/
def aboutToInsert (g : MapRuntimeManager) (m : MapId) : Bool :=
  match g.lock.bind g.calls.lookup with
  | some (.inserting m' _) => m' == m
  | _ => false

/-- The steps at which no `UnregisterMap` is sent for a map that is active again. -/
def Orderly (g : MapRuntimeManager) : Action → Prop
  | .resume id =>
    match g.calls.lookup id with
    | some (.unregistering m _) => m ∉ g.runtimes ∧ aboutToInsert g m = false
    | _ => True
  | _ => True

structure Consistent (g : MapRuntimeManager) : Prop where
  registering_holds : ∀ id m tx, g.calls.lookup id = some (.registering m tx) →
    g.lock = some id ∧ g.runtimes.lookup m = none
  inserting_holds : ∀ id m tx, g.calls.lookup id = some (.inserting m tx) →
    g.lock = some id ∧ g.runtimes.lookup m = none
  owned : ∀ m tx, Owned g m tx → settled g m = some tx
  unowned : ∀ m, (∀ tx, ¬ Owned g m tx) →
    settled g m = none ∨ ∃ id tx, g.calls.lookup id = some (.unregistering m tx)

variable {g g' : MapRuntimeManager}

lemma settled_send (g : MapRuntimeManager) (msg : WorldMessage) (m : MapId) :
    settled { g with inbox := g.inbox ++ [msg] } m =
      WorldCoordinator.senderAfter msg m (settled g m) := by
  unfold settled
  rw [List.foldl_append]
  exact WorldCoordinator.next_mapSenders _ msg m

lemma consistent_start : Consistent start where
  registering_holds _ _ _ h := by simp [start] at h
  inserting_holds _ _ _ h := by simp [start] at h
  owned _ _ h := by simp [Owned, start] at h
  unowned _ _ := .inl rfl

/-- A step that changes neither the table, the lock nor what will be registered, and moves
one call between stages at which it owns and owes nothing. -/
lemma Consistent.idle (h : Consistent g) {id : CallId} {call : Call}
    (hold : ∀ old, g.calls.lookup id = some old →
      (∀ m tx, old ≠ .inserting m tx) ∧ ∀ m tx, old ≠ .unregistering m tx)
    (hnew : (∀ m tx, call ≠ .registering m tx) ∧ ∀ m tx, call ≠ .inserting m tx) :
    Consistent (g.setCall id call) := by
  have hkeep : ∀ x c, g.calls.lookup x = some c → (∀ old, g.calls.lookup id = some old → old ≠ c) →
      (g.setCall id call).calls.lookup x = some c := by
    intro x c hx hne
    rw [lookup_setCall, if_neg ?_]
    · exact hx
    · rintro rfl
      exact hne c hx rfl
  have hown : ∀ m tx, Owned (g.setCall id call) m tx ↔ Owned g m tx := by
    intro m tx
    refine or_congr Iff.rfl ⟨fun ⟨x, hx⟩ => ⟨x, ?_⟩, fun ⟨x, hx⟩ => ⟨x, ?_⟩⟩
    · rcases lookup_setCall_cases hx with ⟨-, hcall⟩ | ⟨-, hx⟩
      · exact absurd hcall (hnew.2 m tx)
      · exact hx
    · exact hkeep x _ hx fun old ho => (hold old ho).1 m tx
  refine ⟨fun x m tx hx => ?_, fun x m tx hx => ?_, fun m tx hx => ?_, fun m hx => ?_⟩
  · rcases lookup_setCall_cases hx with ⟨-, hcall⟩ | ⟨-, hx⟩
    · exact absurd hcall (hnew.1 m tx)
    · exact h.registering_holds x m tx hx
  · rcases lookup_setCall_cases hx with ⟨-, hcall⟩ | ⟨-, hx⟩
    · exact absurd hcall (hnew.2 m tx)
    · exact h.inserting_holds x m tx hx
  · exact h.owned m tx ((hown m tx).mp hx)
  · rcases h.unowned m fun tx ho => hx tx ((hown m tx).mpr ho) with hs | ⟨x, tx, hu⟩
    · exact .inl hs
    · exact .inr ⟨x, tx, hkeep x _ hu fun old ho => (hold old ho).2 m tx⟩

lemma Consistent.unowned_setCall (h : Consistent g) {id : CallId} {old call : Call} {m : MapId}
    (hc : g.calls.lookup id = some old) (hold : ∀ tx, old ≠ .unregistering m tx)
    (hno : ∀ tx, ¬ Owned g m tx) :
    settled g m = none ∨
      ∃ x tx, (g.setCall id call).calls.lookup x = some (.unregistering m tx) := by
  rcases h.unowned m hno with hs | ⟨x, tx, hu⟩
  · exact .inl hs
  · exact .inr ⟨x, tx, lookup_setCall_keep hc hu (hold tx)⟩

lemma Consistent.of_settled (h : Consistent g) (hcalls : g'.calls = g.calls)
    (hruntimes : g'.runtimes = g.runtimes) (hlock : g'.lock = g.lock)
    (hset : ∀ m, settled g' m = settled g m) : Consistent g' where
  registering_holds id m tx hc := by
    rw [hlock, hruntimes]
    exact h.registering_holds id m tx (hcalls ▸ hc)
  inserting_holds id m tx hc := by
    rw [hlock, hruntimes]
    exact h.inserting_holds id m tx (hcalls ▸ hc)
  owned m tx ho := by
    rw [Owned, hcalls, hruntimes] at ho
    rw [hset]
    exact h.owned m tx ho
  unowned m hno := by
    simp only [Owned, hcalls, hruntimes] at hno
    rw [hset, hcalls]
    exact h.unowned m hno

lemma Consistent.free (h : Consistent g) (hl : g.lock = none) (x : CallId) (m : MapId)
    (tx : ChannelId) :
    g.calls.lookup x ≠ some (.registering m tx) ∧ g.calls.lookup x ≠ some (.inserting m tx) := by
  refine ⟨fun hx => ?_, fun hx => ?_⟩
  · have := (h.registering_holds x m tx hx).1
    rw [hl] at this
    cases this
  · have := (h.inserting_holds x m tx hx).1
    rw [hl] at this
    cases this

lemma Consistent.locked (h : Consistent g) {id : CallId} {m : MapId}
    (hc : g.calls.lookup id = some (.activate m)) (hl : g.lock = none) (hm : m ∉ g.runtimes) :
    Consistent { g.setCall id (.registering m g.nextChannel) with
      lock := some id
      nextChannel := g.nextChannel + 1 } := by
  have hfree := h.free hl
  refine ⟨fun x m' tx hx => ?_, fun x m' tx hx => ?_, fun m' tx hx => ?_, fun m' hx => ?_⟩
  · rcases lookup_setCall_cases hx with ⟨rfl, hcall⟩ | ⟨-, hx⟩
    · obtain ⟨rfl, -⟩ := Call.registering.inj hcall
      exact ⟨rfl, Finmap.lookup_eq_none.mpr hm⟩
    · exact absurd hx (hfree x m' tx).1
  · obtain ⟨-, hx⟩ := lookup_of_setCall hx fun h => by cases h
    exact absurd hx (hfree x m' tx).2
  · refine h.owned m' tx (hx.imp_right fun ⟨x, hx⟩ => ?_)
    obtain ⟨-, hx⟩ := lookup_of_setCall hx fun h => by cases h
    exact ⟨x, hx⟩
  · have hno : ∀ tx, ¬ Owned g m' tx := fun tx ho =>
      hx tx (ho.imp_right fun ⟨x, hx⟩ => absurd hx (hfree x m' tx).2)
    exact h.unowned_setCall hc (fun _ h => by cases h) hno

/-- `RegisterMap` is sent under the lock: it is the last word on its map. -/
lemma Consistent.registered (h : Consistent g) {id : CallId} {m : MapId} {tx : ChannelId}
    (hc : g.calls.lookup id = some (.registering m tx)) :
    Consistent { g.setCall id (.inserting m tx) with
      inbox := g.inbox ++ [.registerMap m tx] } := by
  obtain ⟨hlock, hrun⟩ := h.registering_holds id m tx hc
  have hset : ∀ x, settled { g.setCall id (.inserting m tx) with
      inbox := g.inbox ++ [.registerMap m tx] } x = if x = m then some tx else settled g x :=
    settled_send g (.registerMap m tx)
  -- the lock is held by this call, so no other is about to insert
  have hnone : ∀ x m' tx', g.calls.lookup x ≠ some (.inserting m' tx') := by
    intro x m' tx' hx
    have hx' := (h.inserting_holds x m' tx' hx).1
    rw [hlock] at hx'
    obtain rfl := Option.some.inj hx'
    rw [hc] at hx
    cases hx
  refine ⟨fun x m' tx' hx => ?_, fun x m' tx' hx => ?_, fun m' tx' hx => ?_, fun m' hx => ?_⟩
  · obtain ⟨-, hx⟩ := lookup_of_setCall hx fun h => by cases h
    exact h.registering_holds x m' tx' hx
  · rcases lookup_setCall_cases hx with ⟨rfl, hcall⟩ | ⟨-, hx⟩
    · obtain ⟨rfl, rfl⟩ := Call.inserting.inj hcall
      exact ⟨hlock, hrun⟩
    · exact absurd hx (hnone x m' tx')
  · rw [hset]
    rcases hx with hx | ⟨x, hx⟩
    · have hne : m' ≠ m := by
        rintro rfl
        change g.runtimes.lookup m' = _ at hx
        rw [hrun] at hx
        cases hx
      rw [if_neg hne]
      exact h.owned m' tx' (.inl hx)
    · rcases lookup_setCall_cases hx with ⟨-, hcall⟩ | ⟨-, hx⟩
      · obtain ⟨rfl, rfl⟩ := Call.inserting.inj hcall
        rw [if_pos rfl]
      · exact absurd hx (hnone x m' tx')
  · have hne : m' ≠ m := by
      rintro rfl
      exact hx tx (.inr ⟨id, lookup_setCall_self id _⟩)
    rw [hset, if_neg hne]
    have hno : ∀ tx', ¬ Owned g m' tx' := fun tx' ho =>
      hx tx' (ho.imp_right fun ⟨x, hx⟩ => absurd hx (hnone x m' tx'))
    exact h.unowned_setCall hc (fun _ h => by cases h) hno

lemma Consistent.inserted (h : Consistent g) {id : CallId} {m : MapId} {tx : ChannelId}
    (hc : g.calls.lookup id = some (.inserting m tx)) :
    Consistent { g.setCall id (.returned m true) with
      runtimes := g.runtimes.insert m tx
      lock := none } := by
  have hrt := fun x => FMap.lookup_insert_eq g.runtimes m x tx
  obtain ⟨hlock, hrun⟩ := h.inserting_holds id m tx hc
  have honly : ∀ x m' tx', (g.calls.lookup x = some (.registering m' tx') ∨
      g.calls.lookup x = some (.inserting m' tx')) → x = id := by
    rintro x m' tx' (hx | hx)
    · have hx' := (h.registering_holds x m' tx' hx).1
      exact (Option.some.inj (hlock.symm.trans hx')).symm
    · have hx' := (h.inserting_holds x m' tx' hx).1
      exact (Option.some.inj (hlock.symm.trans hx')).symm
  have hown : ∀ m' tx', Owned { g.setCall id (.returned m true) with
      runtimes := g.runtimes.insert m tx
      lock := none } m' tx' ↔ Owned g m' tx' := by
    intro m' tx'
    constructor
    · rintro (hx | ⟨x, hx⟩)
      · change (g.runtimes.insert m tx).lookup m' = _ at hx
        rw [hrt] at hx
        split at hx
        · next hm =>
          obtain rfl := Option.some.inj hx
          exact .inr ⟨id, hm ▸ hc⟩
        · exact .inl hx
      · obtain ⟨-, hx⟩ := lookup_of_setCall hx fun h => by cases h
        exact .inr ⟨x, hx⟩
    · rintro (hx | ⟨x, hx⟩)
      · left
        change (g.runtimes.insert m tx).lookup m' = _
        rw [hrt, if_neg ?_]
        · exact hx
        · rintro rfl
          rw [hrun] at hx
          cases hx
      · obtain rfl := honly x m' tx' (.inr hx)
        obtain ⟨rfl, rfl⟩ := Call.inserting.inj (Option.some.inj (hc.symm.trans hx))
        left
        change (g.runtimes.insert m tx).lookup m = _
        rw [hrt, if_pos rfl]
  refine ⟨fun x m' tx' hx => ?_, fun x m' tx' hx => ?_, fun m' tx' hx => ?_, fun m' hx => ?_⟩
  · obtain ⟨hne, hx⟩ := lookup_of_setCall hx fun h => by cases h
    exact absurd (honly x m' tx' (.inl hx)) hne
  · obtain ⟨hne, hx⟩ := lookup_of_setCall hx fun h => by cases h
    exact absurd (honly x m' tx' (.inr hx)) hne
  · exact h.owned m' tx' ((hown m' tx').mp hx)
  · exact h.unowned_setCall hc (fun _ h => by cases h) fun tx' ho => hx tx' ((hown m' tx').mpr ho)

lemma Consistent.removed (h : Consistent g) {id : CallId} {m : MapId} {tx : ChannelId}
    (hc : g.calls.lookup id = some (.deactivate m)) (hl : g.lock = none) :
    Consistent { g.setCall id (.unregistering m tx) with runtimes := g.runtimes.erase m } := by
  have hrt := fun x => FMap.lookup_erase_eq g.runtimes m x
  have hfree := h.free hl
  refine ⟨fun x m' tx' hx => ?_, fun x m' tx' hx => ?_, fun m' tx' hx => ?_, fun m' hx => ?_⟩
  · obtain ⟨-, hx⟩ := lookup_of_setCall hx fun h => by cases h
    exact absurd hx (hfree x m' tx').1
  · obtain ⟨-, hx⟩ := lookup_of_setCall hx fun h => by cases h
    exact absurd hx (hfree x m' tx').2
  · rcases hx with hx | ⟨x, hx⟩
    · change (g.runtimes.erase m).lookup m' = _ at hx
      rw [hrt] at hx
      split at hx
      · cases hx
      · exact h.owned m' tx' (.inl hx)
    · obtain ⟨-, hx⟩ := lookup_of_setCall hx fun h => by cases h
      exact absurd hx (hfree x m' tx').2
  · by_cases hm : m' = m
    · rw [hm]
      exact .inr ⟨id, tx, lookup_setCall_self id _⟩
    · have hno : ∀ tx', ¬ Owned g m' tx' := by
        rintro tx' (ho | ⟨x, ho⟩)
        · refine hx tx' (.inl ?_)
          change (g.runtimes.erase m).lookup m' = _
          rw [hrt, if_neg hm]
          exact ho
        · exact (hfree x m' tx').2 ho
      exact h.unowned_setCall hc (fun _ h => by cases h) hno

/-- An `UnregisterMap` for a map that nobody owns is the last word on it. -/
lemma Consistent.unregistered (h : Consistent g) {id : CallId} {m : MapId} {tx : ChannelId}
    (hc : g.calls.lookup id = some (.unregistering m tx)) (hm : ∀ tx', ¬ Owned g m tx') :
    Consistent { g.setCall id (.aborting m tx) with inbox := g.inbox ++ [.unregisterMap m] } := by
  have hset : ∀ x, settled { g.setCall id (.aborting m tx) with
      inbox := g.inbox ++ [.unregisterMap m] } x = if x = m then none else settled g x :=
    settled_send g (.unregisterMap m)
  have hown : ∀ m' tx', Owned { g.setCall id (.aborting m tx) with
      inbox := g.inbox ++ [.unregisterMap m] } m' tx' ↔ Owned g m' tx' := by
    intro m' tx'
    refine or_congr Iff.rfl ⟨fun ⟨x, hx⟩ => ?_, fun ⟨x, hx⟩ => ?_⟩
    · obtain ⟨-, hx⟩ := lookup_of_setCall hx fun h => by cases h
      exact ⟨x, hx⟩
    · exact ⟨x, lookup_setCall_keep hc hx nofun⟩
  refine ⟨fun x m' tx' hx => ?_, fun x m' tx' hx => ?_, fun m' tx' hx => ?_, fun m' hx => ?_⟩
  · obtain ⟨-, hx⟩ := lookup_of_setCall hx fun h => by cases h
    exact h.registering_holds x m' tx' hx
  · obtain ⟨-, hx⟩ := lookup_of_setCall hx fun h => by cases h
    exact h.inserting_holds x m' tx' hx
  · have ho := (hown m' tx').mp hx
    rw [hset, if_neg ?_]
    · exact h.owned m' tx' ho
    · rintro rfl
      exact hm tx' ho
  · by_cases hmm : m' = m
    · left
      rw [hset, if_pos hmm]
    · rw [hset, if_neg hmm]
      refine h.unowned_setCall hc (fun _ hcall => ?_) fun tx' ho => hx tx' ((hown m' tx').mpr ho)
      exact hmm (Call.unregistering.inj hcall).1.symm

lemma Consistent.post (h : Consistent g) {msg : WorldMessage} (hp : g.post msg = some g') :
    Consistent g' := by
  obtain ⟨rfl, hr, hu⟩ := post_cases hp
  have hset : ∀ m, settled { g with inbox := g.inbox ++ [msg] } m = settled g m := by
    intro m
    rw [settled_send]
    cases msg
    case registerMap m tx => exact absurd rfl (hr m tx)
    case unregisterMap m => exact absurd rfl (hu m)
    all_goals rfl
  exact h.of_settled rfl rfl rfl hset

lemma Consistent.recv (h : Consistent g) {eff : Option Effect} (hr : g.recv = some (g', eff)) :
    Consistent g' := by
  obtain ⟨msg, rest, hin, -, rfl⟩ := recv_cases hr
  have hset : ∀ m, settled { g with
      inbox := rest
      coordinator := g.coordinator.next msg } m = settled g m := by
    intro m
    unfold settled
    rw [hin]
    rfl
  exact h.of_settled rfl rfl rfl hset

lemma Consistent.not_owned (h : Consistent g) {m : MapId} (hm : m ∉ g.runtimes)
    (ha : aboutToInsert g m = false) (tx : ChannelId) : ¬ Owned g m tx := by
  rintro (ho | ⟨x, ho⟩)
  · exact hm (Finmap.mem_of_lookup_eq_some ho)
  · unfold aboutToInsert at ha
    rw [(h.inserting_holds x m tx ho).1, Option.bind_some, ho] at ha
    simp at ha

lemma Consistent.resume (h : Consistent g) {id : CallId} (hc : Orderly g (.resume id))
    (hr : g.resume id = some g') : Consistent g' := by
  cases resume_cases hr with
  | refused hcall hl hm =>
    exact h.idle (fun old ho => by simp_all) ⟨nofun, nofun⟩
  | locked hcall hl hm => exact h.locked hcall hl hm
  | registered hcall => exact h.registered hcall
  | inserted hcall => exact h.inserted hcall
  | inactive hcall hl hm => exact h.idle (fun old ho => by simp_all) ⟨nofun, nofun⟩
  | removed hcall hl hm => exact h.removed hcall hl
  | unregistered hcall =>
    unfold Orderly at hc
    simp only [hcall] at hc
    exact h.unregistered hcall (h.not_owned hc.1 hc.2)
  | aborted hcall => exact h.idle (fun old ho => by simp_all) ⟨nofun, nofun⟩

lemma Consistent.spawned (h : Consistent g) {id : CallId} {call : Call}
    (hst : g.spawn id call = some g')
    (hnew : (∀ m tx, call ≠ .registering m tx) ∧ ∀ m tx, call ≠ .inserting m tx) :
    Consistent g' := by
  obtain ⟨hid, rfl⟩ := spawn_cases hst
  refine h.idle (fun old ho => ?_) hnew
  rw [Finmap.lookup_eq_none.mpr hid] at ho
  cases ho

theorem consistent_step {a : Action} (h : Consistent g) (hc : Orderly g a)
    (hst : g.step a = some g') : Consistent g' := by
  cases a with
  | activate id m => exact h.spawned hst ⟨fun _ _ h => (by cases h), fun _ _ h => (by cases h)⟩
  | deactivate id m => exact h.spawned hst ⟨fun _ _ h => (by cases h), fun _ _ h => (by cases h)⟩
  | resume id => exact h.resume hc hst
  | post msg => exact h.post hst
  | recv =>
    obtain ⟨⟨g', eff⟩, hr, rfl⟩ := Option.map_eq_some_iff.mp hst
    exact h.recv hr

/-- **Activation and registration**: in a run that sends no `UnregisterMap` for a map that is
active again, once every call has returned and the coordinator has handled everything, the
maps that are active are the maps that are registered, each with the sender of its runtime. -/
theorem runtimes_registered (h : system.ReachedBy Orderly g) (hq : g.Quiet) (m : MapId) :
    g.runtimes.lookup m = g.coordinator.mapSenders.lookup m ∧
      (g.isActive m = true ↔ m ∈ g.coordinator.mapSenders) := by
  have hcon : Consistent g :=
    h.invariant Consistent (fun _ h0 => Eq.symm h0 ▸ consistent_start)
      fun _ _ _ hs hc hst => consistent_step hs hc hst
  obtain ⟨hin, hcalls⟩ := hq
  have hret : ∀ id call, g.calls.lookup id = some call → call.hasReturned = true :=
    fun id call hid =>
      hcalls id (Finmap.mem_keys.mpr (Finmap.mem_of_lookup_eq_some hid)) call hid
  have hset : settled g m = g.coordinator.mapSenders.lookup m := by
    unfold settled
    rw [hin]
    rfl
  have hsame : g.runtimes.lookup m = g.coordinator.mapSenders.lookup m := by
    rw [← hset]
    rcases hrt : g.runtimes.lookup m with _ | tx
    · have hno : ∀ tx, ¬ Owned g m tx := by
        rintro tx (ho | ⟨id, ho⟩)
        · rw [hrt] at ho
          cases ho
        · exact absurd (hret id _ ho) nofun
      rcases hcon.unowned m hno with hs | ⟨id, tx, hu⟩
      · exact hs.symm
      · exact absurd (hret id _ hu) nofun
    · exact (hcon.owned m tx (.inl hrt)).symm
  refine ⟨hsame, ?_⟩
  unfold isActive
  rw [decide_eq_true_iff, ← Finmap.lookup_isSome, ← Finmap.lookup_isSome, hsame]

/-! ### Two runs -/

instance (g : MapRuntimeManager) : ∀ a, Decidable (Orderly g a)
  | .resume id => by
    unfold Orderly
    dsimp only
    split <;> infer_instance
  | .activate .. | .deactivate .. | .post _ | .recv => .isTrue trivial

/-- Map 1 is activated, deactivated and activated again, one call after the other. -/
theorem runtimes_registered_again :
    ∃ g, system.ReachedBy Orderly g ∧ g.Quiet ∧ g.runtimes.lookup 1 = some 1 ∧
      g.coordinator.mapSenders.lookup 1 = some 1 := by
  obtain ⟨g, hg, hp⟩ := system.exists_reachedBy Orderly rfl
    [.activate 0 1, .resume 0, .resume 0, .resume 0, .deactivate 1 1, .resume 1, .resume 1,
      .resume 1, .activate 2 1, .resume 2, .resume 2, .resume 2, .recv, .recv, .recv]
    (fun g => g.Quiet ∧ g.runtimes.lookup 1 = some 1) (by decide +kernel)
  obtain ⟨hq, hr⟩ := of_decide_eq_true hp
  exact ⟨g, hg, hq, hr, (runtimes_registered hg hq 1).1.symm.trans hr⟩

/-- The deactivation of map 1 lets go of the lock, an activation runs to its end, and the
`UnregisterMap` comes after: the map is active and not registered. -/
theorem active_unregistered :
    ∃ g, system.Reached g ∧ g.Quiet ∧ g.isActive 1 = true ∧ 1 ∉ g.coordinator.mapSenders := by
  obtain ⟨g, hg, hp⟩ := system.exists_reachedBy (fun _ _ => True) rfl
    [.activate 0 1, .resume 0, .resume 0, .resume 0, .deactivate 1 1, .resume 1, .activate 2 1,
      .resume 2, .resume 2, .resume 2, .resume 1, .resume 1, .recv, .recv, .recv]
    (fun g => g.Quiet ∧ g.isActive 1 = true ∧ 1 ∉ g.coordinator.mapSenders) (by decide +kernel)
  exact ⟨g, hg, of_decide_eq_true hp⟩

end HelbreathBackend.Registration
