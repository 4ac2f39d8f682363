import HelbreathBackend.AdminHandlers

/-!
Runs of the map control of the administration service.

A request works on two things that are apart: the runtimes of the world service, and the registry
in the database. Each step it takes is refused, or done, or done without the handler hearing of
it. A handler that fails after a step that was done would have to undo it; that is attempted only
where the registry finds no such map, and there it cannot work.
-/

namespace HelbreathBackend.AdminApi

open HelbreathBackend.Lib HelbreathBackend.Domain HelbreathBackend.Infrastructure

/-! ### Requests -/

inductive MapAction
  | activate
  | deactivate
  | restart
  deriving DecidableEq

/-- A request with all that comes with it: the failures of its own statements and calls too. -/
structure MapRequest where
  action : MapAction
  mapId : MapId
  auth : Option HeaderValue
  outside : Outside
  dbFates : List DbFate
  worldFates : List WorldFate

namespace MapRequest

def handler (r : MapRequest) : Api Json :=
  match r.action with
  | .activate => activateMap r.auth r.mapId
  | .deactivate => deactivateMap r.auth r.mapId
  | .restart => restartMapInstance r.auth r.mapId

/-- The backend as a request meets it. -/
def meets (r : MapRequest) (b : Backend) : Backend :=
  { b with dbFates := r.dbFates, worldFates := r.worldFates }

def serve (r : MapRequest) (b : Backend) : Except Failure Json × Backend :=
  r.handler r.outside (r.meets b)

end MapRequest

def serveMaps (b : Backend) (reqs : List MapRequest) : Backend :=
  reqs.foldl (fun b r => (r.serve b).2) b

/-- The runtime and the flag of a map are as before. -/
def Unchanged (mapId : MapId) (b b' : Backend) : Prop :=
  (mapId ∈ b'.runtimes ↔ mapId ∈ b.runtimes) ∧
    b'.db.isRegistered mapId = b.db.isRegistered mapId

/-- The runtimes are those of the registry. -/
def Agree (b : Backend) : Prop := ∀ mapId, mapId ∈ b.runtimes ↔ b.db.isRegistered mapId = true

/-- Requests that fail change nothing, and agreement lasts. -/
def AllOrNothing (b : Backend) (reqs : List MapRequest) : Prop :=
  (∀ p r, p ++ [r] <+: reqs → ∀ err, (r.serve (serveMaps b p)).1 = .error err →
    Unchanged r.mapId (serveMaps b p) (serveMaps b (p ++ [r]))) ∧
  (Agree b → ∀ p, p <+: reqs → Agree (serveMaps b p))

/-! ### What becomes of a step -/

inductive Outcome
  | refused
  /-- carried out, but the handler does not hear of it -/
  | unheard
  | done
  deriving DecidableEq

/-- The world service does what it is asked. -/
def Serves (b : Backend) (mapId : MapId) (w : WorldWeather) : MapControl → Prop
  | .activate => w.catalog ∧ b.db.mapExists mapId ∧ (mapId ∈ b.runtimes ∨ w.coordinator)
  | .deactivate => w.playersOnline = 0

instance (b : Backend) (mapId : MapId) (w : WorldWeather) (action : MapControl) :
    Decidable (Serves b mapId w action) := by
  cases action <;> unfold Serves <;> infer_instance

/-- What becomes of the next call to the world service. -/
def callOutcome (b : Backend) (mapId : MapId) (action : MapControl) : Outcome :=
  match b.worldFates.headD (.served ⟨true, true, 0⟩) with
  | .unreachable | .rejected _ => .refused
  | .served w => if Serves b mapId w action then .done else .refused
  | .lost w | .garbled w => if Serves b mapId w action then .unheard else .refused

/-- What becomes of a statement after a query, if the database would accept it. -/
def statementOutcome (b : Backend) (accepted : Prop) [Decidable accepted] : Outcome :=
  if b.dbFates.headD .fine = .fine ∧ accepted then
    match b.dbFates.tail.headD .fine with
    | .fine => .done
    | .failed => .refused
    | .lost => .unheard
  else .refused

/-- The registry has a row for the map, or the identifier of a new one is free. -/
def Registrable (o : Outside) (b : Backend) (mapId : MapId) : Prop :=
  (∃ i ∈ b.db.mapInstances.rows, i.mapId = mapId ∧ i.shardCode = "default") ∨
    ∀ i ∈ b.db.mapInstances.rows, i.id ≠ o.instanceId

instance (o : Outside) (b : Backend) (mapId : MapId) : Decidable (Registrable o b mapId) := by
  unfold Registrable
  infer_instance

/-- When `activate_map`, and `restart_map_instance` once it has stopped the map, leave a map as it
was, should they fail. -/
def ActivationHarmless (o : Outside) (mapId : MapId) (before b : Backend) : Prop :=
  match callOutcome b mapId .activate, statementOutcome b (Registrable o b mapId) with
  | .refused, _ => mapId ∈ b.runtimes ↔ mapId ∈ before.runtimes
  | .unheard, _ => mapId ∈ before.runtimes
  | .done, .refused => mapId ∈ before.runtimes
  | .done, .unheard => mapId ∈ before.runtimes ∧ before.db.isRegistered mapId = true
  | .done, .done => True

def DeactivationHarmless (mapId : MapId) (b : Backend) : Prop :=
  match callOutcome b mapId .deactivate, statementOutcome b (b.db.mapExists mapId) with
  | .refused, _ => True
  | .unheard, _ => mapId ∉ b.runtimes
  | .done, .refused => mapId ∉ b.runtimes
  | .done, .unheard => mapId ∉ b.runtimes ∧ b.db.isRegistered mapId = false
  | .done, .done => True

def RestartHarmless (o : Outside) (mapId : MapId) (b : Backend) : Prop :=
  match callOutcome b mapId .deactivate with
  | .refused => True
  | .unheard => mapId ∉ b.runtimes
  | .done => ActivationHarmless o mapId b
      { b with runtimes := b.runtimes.erase mapId, worldFates := b.worldFates.tail }

namespace MapRequest

/-- The request is refused at the door, or no step that is done is left behind by a failure: either
every step is done, or those that are done find the map as they would leave it. -/
def Harmless (r : MapRequest) (b : Backend) : Prop :=
  (∃ principal, (authenticate r.auth .worldWrite r.outside (r.meets b)).1 = .ok principal) →
    match r.action with
    | .activate => ActivationHarmless r.outside r.mapId (r.meets b) (r.meets b)
    | .deactivate => DeactivationHarmless r.mapId (r.meets b)
    | .restart => RestartHarmless r.outside r.mapId (r.meets b)

end MapRequest

/-! ### The calls and the statements -/

variable {o : Outside} {b : Backend} {mapId : MapId}

/-- The runtimes when a call is carried out. -/
def MapControl.apply (mapId : MapId) (runtimes : Finset MapId) : MapControl → Finset MapId
  | .activate => insert mapId runtimes
  | .deactivate => runtimes.erase mapId

lemma serveMapControl_spec (b : Backend) (mapId : MapId) (w : WorldWeather) (action : MapControl) :
    (serveMapControl b.db b.runtimes mapId w action).1.ok = decide (Serves b mapId w action) ∧
      (serveMapControl b.db b.runtimes mapId w action).2 =
        if Serves b mapId w action then action.apply mapId b.runtimes else b.runtimes := by
  cases action with
  | activate =>
    simp only [serveMapControl, Serves, MapControl.apply]
    by_cases hmem : mapId ∈ b.runtimes
    · have hins := Finset.insert_eq_of_mem hmem
      by_cases hc : w.catalog = true <;> by_cases he : b.db.mapExists mapId = true <;>
        simp [hc, he, hmem, hins]
    · by_cases hc : w.catalog = true <;> by_cases he : b.db.mapExists mapId = true <;>
        by_cases hw : w.coordinator = true <;> simp [hc, he, hw, hmem]
  | deactivate =>
    simp only [serveMapControl, Serves, MapControl.apply]
    by_cases hn : w.playersOnline = 0
    · simp [hn]
    · have hpos : 0 < w.playersOnline := by
        rw [UInt64.lt_iff_toNat_lt]
        exact Nat.pos_of_ne_zero fun h => hn (UInt64.toNat.inj h)
      simp [hn, hpos]

/-- What becomes of a call, what it does and whether it returns. -/
lemma invokeWorldMapControl_cases (mapId : MapId) (action : MapControl) (o : Outside)
    (b : Backend) :
    (callOutcome b mapId action = .refused ∧ ∃ e, invokeWorldMapControl mapId action o b =
      (.error e, { b with worldFates := b.worldFates.tail })) ∨
    (callOutcome b mapId action = .unheard ∧ ∃ e, invokeWorldMapControl mapId action o b =
      (.error e, { b with
        runtimes := action.apply mapId b.runtimes, worldFates := b.worldFates.tail })) ∨
    (callOutcome b mapId action = .done ∧ ∃ body, invokeWorldMapControl mapId action o b =
      (.ok body, { b with
        runtimes := action.apply mapId b.runtimes, worldFates := b.worldFates.tail })) := by
  have hread (body : WorldMapControlWire) (hbody : body.ok = false) :
      ∃ e, readMapControl action body = .error e := by
    unfold readMapControl
    rw [if_neg (by rw [hbody]; exact Bool.false_ne_true)]
    exact ⟨_, rfl⟩
  set unsent : Failure := .api (.internal s!"world map {action.text} failed: {o.worldUnreachable}")
  unfold invokeWorldMapControl callOutcome
  cases b.worldFates.headD (.served ⟨true, true, 0⟩) with
  | unreachable => exact .inl ⟨rfl, _, rfl⟩
  | rejected status => exact .inl ⟨rfl, _, rfl⟩
  | served w =>
    obtain ⟨hok, hruntimes⟩ := serveMapControl_spec b mapId w action
    by_cases hs : Serves b mapId w action
    · have hbody :
          readMapControl action (serveMapControl b.db b.runtimes mapId w action).1 = .ok _ :=
        if_pos (by rw [hok, decide_eq_true hs])
      refine .inr (.inr ⟨if_pos hs, (serveMapControl b.db b.runtimes mapId w action).1, ?_⟩)
      simp only [hruntimes, if_pos hs, hbody]
    · obtain ⟨e, he⟩ := hread (serveMapControl b.db b.runtimes mapId w action).1
        (by rw [hok, decide_eq_false hs])
      refine .inl ⟨if_neg hs, e, ?_⟩
      simp only [hruntimes, if_neg hs, he]
  | lost w =>
    have hruntimes := (serveMapControl_spec b mapId w action).2
    by_cases hs : Serves b mapId w action
    · refine .inr (.inl ⟨if_pos hs, unsent, ?_⟩)
      simp only [hruntimes, if_pos hs, unsent]
    · refine .inl ⟨if_neg hs, unsent, ?_⟩
      simp only [hruntimes, if_neg hs, unsent]
  | garbled w =>
    have hruntimes := (serveMapControl_spec b mapId w action).2
    obtain ⟨e, he⟩ := hread ⟨false, none, none, none⟩ rfl
    by_cases hs : Serves b mapId w action
    · refine .inr (.inl ⟨if_pos hs, e, ?_⟩)
      simp only [hruntimes, if_pos hs, he]
    · refine .inl ⟨if_neg hs, e, ?_⟩
      simp only [hruntimes, if_neg hs, he]

/-- The flag of one map is set to `active`. -/
def Marked (mapId : MapId) (active : Bool) (db db' : Database) : Prop :=
  ∀ m, db'.isRegistered m = if m = mapId then active else db.isRegistered m

lemma isRegistered_eq_true_iff {db : Database} {m : MapId} :
    db.isRegistered m = true ↔
      ∃ i ∈ db.mapInstances.rows, i.mapId = m ∧ i.status = "active" ∧ i.stoppedAt = none := by
  simp [Database.isRegistered, Database.activeInstance, and_assoc]

lemma marked_of_iff {active : Bool} {db db' : Database}
    (h : ∀ m, db'.isRegistered m = true ↔
      if m = mapId then active = true else db.isRegistered m = true) :
    Marked mapId active db db' := by
  intro m
  rw [Bool.eq_iff_iff, h m]
  split <;> rfl

lemma marked_update {f : MapInstanceRow → MapInstanceRow} {db db' : Database}
    (hid : ∀ i, (f i).mapId = i.mapId) (hf : ∀ i, (f i).status = "active" ∧ (f i).stoppedAt = none)
    (hrow : ∃ i ∈ db.mapInstances.rows, i.mapId = mapId ∧ i.shardCode = "default")
    (hrows : db'.mapInstances.rows = db.mapInstances.rows.map fun i =>
      if i.mapId == mapId && i.shardCode == "default" then f i else i) :
    Marked mapId true db db' := by
  refine marked_of_iff fun m => ?_
  rw [isRegistered_eq_true_iff, hrows, Table.exists_updated_iff]
  by_cases hm : m = mapId
  · subst hm
    obtain ⟨i, hi, him, hshard⟩ := hrow
    rw [if_pos rfl]
    exact iff_of_true ⟨i, hi, .inl ⟨by simp [him, hshard], (hid i).trans him, hf i⟩⟩ rfl
  · rw [if_neg hm, isRegistered_eq_true_iff]
    refine exists_congr fun i => and_congr_right fun _ => ?_
    by_cases hi : i.mapId = m
    · simp [hi, hm]
    · simp [hi, hid]

lemma marked_insert {newId : Uuid} {now : Time} {db : Database} {instances : MapInstances}
    (hins : db.mapInstances.insert ⟨newId, mapId, "default", "active", now, none⟩ =
      some instances) :
    Marked mapId true db { db with mapInstances := instances } := by
  refine marked_of_iff fun m => ?_
  rw [isRegistered_eq_true_iff, isRegistered_eq_true_iff]
  show (∃ i ∈ instances.rows, _) ↔ _
  rw [(Table.insert_eq_some_iff.mp hins).2]
  by_cases hm : m = mapId
  · subst hm
    rw [if_pos rfl]
    exact iff_of_true
      ⟨_, List.mem_append_right _ (List.mem_singleton_self _), rfl, rfl, rfl⟩ rfl
  · rw [if_neg hm]
    constructor
    · rintro ⟨i, hi, him, h⟩
      rcases List.mem_append.mp hi with hi | hi
      · exact ⟨i, hi, him, h⟩
      · obtain rfl := List.mem_singleton.mp hi
        exact absurd him.symm hm
    · rintro ⟨i, hi, h⟩
      exact ⟨i, List.mem_append_left _ hi, h⟩

/-- The statement of `activate_map`: when it is accepted, and what it does then. -/
lemma activateInstance_spec (hexists : b.db.mapExists mapId = true) :
    (Registrable o b mapId → ∃ db, b.db.activateInstance o.now o.instanceId mapId = .ok db ∧
      Marked mapId true b.db db) ∧
    (¬ Registrable o b mapId →
      ∃ err, b.db.activateInstance o.now o.instanceId mapId = .error err) := by
  unfold Database.activateInstance
  by_cases hrow : ∃ i ∈ b.db.mapInstances.rows, i.mapId = mapId ∧ i.shardCode = "default"
  · rw [if_pos hrow]
    refine ⟨fun _ => ⟨_, rfl, ?_⟩, fun h => absurd (.inl hrow) h⟩
    refine marked_update ?_ ?_ hrow rfl
    · exact fun i => rfl
    · exact fun i => ⟨rfl, rfl⟩
  rw [if_neg hrow]
  -- without a row for the map, only the identifier of the new one can clash
  have hfree : (b.db.mapInstances.insert
      ⟨o.instanceId, mapId, "default", "active", o.now, none⟩).isSome ↔
        ∀ i ∈ b.db.mapInstances.rows, i.id ≠ o.instanceId := by
    rw [Table.insert_isSome_iff]
    refine forall₂_congr fun i hi => ?_
    rw [not_or, and_iff_left]
    exact fun h => hrow ⟨i, hi, (Prod.mk.inj h).1, (Prod.mk.inj h).2⟩
  have hreg : Registrable o b mapId ↔ ∀ i ∈ b.db.mapInstances.rows, i.id ≠ o.instanceId :=
    or_iff_right hrow
  rw [hreg, ← hfree]
  cases hins : b.db.mapInstances.insert
      ⟨o.instanceId, mapId, "default", "active", o.now, none⟩ with
  | none => exact ⟨fun h => absurd h Bool.false_ne_true, fun _ => ⟨_, rfl⟩⟩
  | some instances =>
    exact ⟨fun _ => ⟨_, if_pos hexists, marked_insert hins⟩, fun h => absurd rfl h⟩

lemma marked_stopInstances (now : Time) (mapId : MapId) (db : Database) :
    Marked mapId false db (db.stopInstances now mapId) := by
  refine marked_of_iff fun m => ?_
  rw [isRegistered_eq_true_iff, isRegistered_eq_true_iff]
  show (∃ i ∈ db.mapInstances.rows.map _, _) ↔ _
  rw [Table.exists_updated_iff]
  by_cases hm : m = mapId
  · subst hm
    rw [if_pos rfl]
    refine iff_of_false ?_ Bool.false_ne_true
    rintro ⟨i, _, h | ⟨hp, hid, hs, _⟩⟩
    · exact absurd h.2.2.1 (by simp)
    · simp [hid, hs] at hp
  · rw [if_neg hm]
    refine exists_congr fun i => and_congr_right fun _ => ?_
    by_cases hi : i.mapId = m
    · simp [hi, hm]
    · simp [hi]

/-- A change of the registry as a handler: what it does, and when it returns that it is made. -/
structure Writes (mapId : MapId) (active : Bool) (outcome : Outcome) (b : Backend)
    (out : Except RepoError Bool × Backend) : Prop where
  reply : out.1 = .ok true ↔ outcome = .done
  runtimes : out.2.runtimes = b.runtimes
  refused : outcome = .refused → out.2.db = b.db
  marked : outcome ≠ .refused → Marked mapId active b.db out.2.db

lemma query_apply {α : Type} (f : Database → α) (o : Outside) (b : Backend) :
    query f o b = (if b.dbFates.headD .fine = .fine then .ok (f b.db)
      else .error (.database .unavailable), { b with dbFates := b.dbFates.tail }) := by
  unfold query statement
  cases b.dbFates.headD .fine <;> rfl

lemma writes_statement {active : Bool} {accepted : Prop} [Decidable accepted]
    {f : Database → Except DbError (Bool × Database)}
    (haccept : accepted → ∃ db, f b.db = .ok (true, db) ∧ Marked mapId active b.db db)
    (hreject : ¬ accepted → ∃ err, f b.db = .error err) (hquery : b.dbFates.headD .fine = .fine) :
    Writes mapId active (statementOutcome b accepted) b
      (statement f o { b with dbFates := b.dbFates.tail }) := by
  unfold statementOutcome statement
  by_cases hacc : accepted
  · obtain ⟨db, hrun, hmarked⟩ := haccept hacc
    rw [if_pos ⟨hquery, hacc⟩, hrun]
    cases b.dbFates.tail.headD .fine with
    | fine => exact ⟨by simp, rfl, nofun, fun _ => hmarked⟩
    | failed => exact ⟨by simp, rfl, fun _ => rfl, fun h => absurd rfl h⟩
    | lost => exact ⟨by simp, rfl, nofun, fun _ => hmarked⟩
  · obtain ⟨err, hrun⟩ := hreject hacc
    rw [if_neg fun h => hacc h.2, hrun]
    cases b.dbFates.tail.headD .fine <;>
      exact ⟨by simp, rfl, fun _ => rfl, fun h => absurd rfl h⟩

/-- A statement that the query before it keeps from being made. -/
lemma writes_refused {active : Bool} {accepted : Prop} [Decidable accepted]
    {x : Except RepoError Bool} (hx : x ≠ .ok true)
    (hno : ¬ (b.dbFates.headD .fine = .fine ∧ accepted)) :
    Writes mapId active (statementOutcome b accepted) b
      (x, { b with dbFates := b.dbFates.tail }) := by
  rw [statementOutcome, if_neg hno]
  exact ⟨iff_of_false hx nofun, rfl, fun _ => rfl, fun h => absurd rfl h⟩

lemma activateMapRow_spec (hexists : b.db.mapExists mapId = true) :
    Writes mapId true (statementOutcome b (Registrable o b mapId)) b
      (activateMapRow mapId o b) := by
  obtain ⟨haccept, hreject⟩ := activateInstance_spec (o := o) hexists
  have hstart : activateMapRow mapId o b = (query (fun db => db.mapExists mapId) >>= fun e =>
      if e then statement fun db => (db.activateInstance o.now o.instanceId mapId).map fun db =>
        (true, db) else pure false) o b := rfl
  rw [hstart]
  by_cases hquery : b.dbFates.headD .fine = .fine
  · rw [Handler.bind_of_ok (by rw [query_apply, if_pos hquery]), if_pos hexists]
    refine writes_statement (fun h => ?_) (fun h => ?_) hquery
    · obtain ⟨db, hrun, hmarked⟩ := haccept h
      exact ⟨db, by rw [hrun]; rfl, hmarked⟩
    · obtain ⟨err, hrun⟩ := hreject h
      exact ⟨err, by rw [hrun]; rfl⟩
  · rw [Handler.bind_of_error (by rw [query_apply, if_neg hquery])]
    exact writes_refused nofun fun h => hquery h.1

lemma deactivateMapRow_spec (mapId : MapId) (o : Outside) (b : Backend) :
    Writes mapId false (statementOutcome b (b.db.mapExists mapId = true)) b
      (deactivateMapRow mapId o b) := by
  have hstart : deactivateMapRow mapId o b = (query (fun db => db.mapExists mapId) >>= fun e =>
      if e then statement fun db => .ok (true, db.stopInstances o.now mapId)
      else pure false) o b := rfl
  rw [hstart]
  by_cases hquery : b.dbFates.headD .fine = .fine
  · rw [Handler.bind_of_ok (by rw [query_apply, if_pos hquery])]
    by_cases hexists : b.db.mapExists mapId = true
    · rw [if_pos hexists]
      exact writes_statement (fun _ => ⟨_, rfl, marked_stopInstances o.now mapId b.db⟩)
        (fun h => absurd hexists h) hquery
    · rw [if_neg hexists]
      exact writes_refused nofun fun h => hexists h.2
  · rw [Handler.bind_of_error (by rw [query_apply, if_neg hquery])]
    exact writes_refused nofun fun h => hquery h.1

/-- What makes a change of the registry return that there is no such map. -/
lemma mapExists_of_row_false {f : Database → Except DbError (Bool × Database)} {b' : Backend}
    (hf : ∀ db a db', f db = .ok (a, db') → a = true)
    (h : (query (fun db => db.mapExists mapId) >>= fun e =>
      if e then statement f else pure false) o b = (.ok false, b')) :
    b.db.mapExists mapId = false ∧ b'.db = b.db ∧ b'.runtimes = b.runtimes := by
  obtain ⟨e, b₁, hquery, hrest⟩ := Handler.bind_eq_ok_iff.mp h
  obtain ⟨-, he, rfl⟩ := query_eq_ok_iff.mp hquery
  cases e with
  | true =>
    rw [if_pos rfl] at hrest
    obtain ⟨-, db, hrun, -⟩ := statement_eq_ok_iff.mp hrest
    exact absurd (hf _ _ _ hrun) Bool.false_ne_true
  | false =>
    rw [if_neg Bool.false_ne_true] at hrest
    obtain ⟨-, rfl⟩ := Handler.pure_eq_ok_iff.mp hrest
    exact ⟨he, rfl, rfl⟩

lemma activateMapRow_ne_false {b' : Backend} (hexists : b.db.mapExists mapId = true) :
    activateMapRow mapId o b ≠ (.ok false, b') := by
  intro h
  have hno := mapExists_of_row_false (f := fun db => (db.activateInstance o.now o.instanceId
    mapId).map fun db => (true, db)) (fun _ _ _ hrun => (of_map_answer hrun).1.symm) h
  rw [hno.1] at hexists
  cases hexists

lemma of_deactivateMapRow_false {b' : Backend} (h : deactivateMapRow mapId o b = (.ok false, b')) :
    b.db.mapExists mapId = false ∧ b'.db = b.db ∧ b'.runtimes = b.runtimes :=
  mapExists_of_row_false (f := fun db => .ok (true, db.stopInstances o.now mapId))
    (fun db a db' hrun => by cases hrun; rfl) h

/-! ### The end of a handler -/

/-- A handler that ends here returns, and changes neither runtimes nor registry. -/
def EndsWell (h : Api Json) : Prop :=
  ∀ o b, (h o b).1.isOk = true ∧ (h o b).2.runtimes = b.runtimes ∧
    ∀ m, (h o b).2.db.isRegistered m = b.db.isRegistered m

lemma endsWell_audit (principal : AdminPrincipal) (actionType targetType target : String)
    (payload json : Json) :
    EndsWell (auditAction principal actionType targetType target payload none >>= fun _ =>
      pure json) := by
  intro o b
  obtain ⟨logs, fates, hrun⟩ :=
    auditAction_run principal actionType targetType target payload none o b
  rw [Handler.bind_of_ok hrun]
  exact ⟨rfl, rfl, fun m => rfl⟩

/-! ### One request -/

/-- What a request about a map comes to, if `harmless` is what a failure of it has to be. -/
structure Settled (mapId : MapId) (harmless : Prop) (before : Backend)
    (out : Except Failure Json × Backend) : Prop where
  elsewhere : ∀ m, m ≠ mapId → Unchanged m before out.2
  failed : out.1.isOk = false → (Unchanged mapId before out.2 ↔ harmless)
  returned : out.1.isOk = true → harmless ∧
    (mapId ∈ out.2.runtimes ↔ out.2.db.isRegistered mapId = true)

lemma settled_of_registry {harmless : Prop} {before b' : Backend} {err : Failure}
    (hregistry : ∀ m, b'.db.isRegistered m = before.db.isRegistered m)
    (helse : ∀ m, m ≠ mapId → (m ∈ b'.runtimes ↔ m ∈ before.runtimes))
    (hharmless : (mapId ∈ b'.runtimes ↔ mapId ∈ before.runtimes) ↔ harmless) :
    Settled mapId harmless before (.error err, b') where
  elsewhere m hm := ⟨helse m hm, hregistry m⟩
  failed _ := by rw [Unchanged, hregistry, ← hharmless, and_iff_left rfl]
  returned h := absurd h Bool.false_ne_true

lemma settled_of_marked {harmless : Prop} {active : Bool} {before b' : Backend}
    {x : Except Failure Json} (hmarked : Marked mapId active before.db b'.db)
    (helse : ∀ m, m ≠ mapId → (m ∈ b'.runtimes ↔ m ∈ before.runtimes))
    (hmap : mapId ∈ b'.runtimes ↔ active = true)
    (hfail : x.isOk = false → (((active = true ↔ mapId ∈ before.runtimes) ∧
      active = before.db.isRegistered mapId) ↔ harmless))
    (hret : x.isOk = true → harmless) : Settled mapId harmless before (x, b') where
  elsewhere m hm := ⟨helse m hm, by rw [hmarked m, if_neg hm]⟩
  failed h := by rw [← hfail h, Unchanged, hmap, hmarked mapId, if_pos rfl]
  returned h := ⟨hret h, by rw [hmap, hmarked mapId, if_pos rfl]⟩

lemma mapExists_of_callOutcome (h : callOutcome b mapId .activate ≠ .refused) :
    b.db.mapExists mapId = true := by
  have hserves : ∀ {w : WorldWeather} {x : Outcome},
      (if Serves b mapId w .activate then x else .refused) ≠ .refused →
        b.db.mapExists mapId = true := by
    intro w x hx
    by_cases hs : Serves b mapId w .activate
    · exact hs.2.1
    · exact absurd (if_neg hs) hx
  unfold callOutcome at h
  split at h
  · exact absurd rfl h
  · exact absurd rfl h
  all_goals exact hserves h

/-- What comes after a call that is done: the registry is written, and unless that says there is no
such map, the handler ends. -/
lemma settled_row {harmless : Prop} {active : Bool} {outcome : Outcome} {before : Backend}
    {row : Repo Bool} {undo k : Api Json} (hk : EndsWell k) (hdb : b.db = before.db)
    (helse : ∀ m, m ≠ mapId → (m ∈ b.runtimes ↔ m ∈ before.runtimes))
    (hmap : mapId ∈ b.runtimes ↔ active = true) (hwrites : Writes mapId active outcome b (row o b))
    (hrefused : outcome = .refused → ((active = true ↔ mapId ∈ before.runtimes) ↔ harmless))
    (hunheard : outcome = .unheard → (((active = true ↔ mapId ∈ before.runtimes) ∧
      active = before.db.isRegistered mapId) ↔ harmless))
    (hdone : outcome = .done → harmless)
    (hundo : ∀ b', row o b = (.ok false, b') → Settled mapId harmless before (undo o b')) :
    Settled mapId harmless before ((orDbError row >>= fun persisted =>
      if ¬ persisted then undo else k) o b) := by
  rcases hrow : row o b with ⟨e | persisted, b'⟩
  · -- the row is not written, as far as the handler knows
    rw [hrow] at hwrites
    obtain ⟨err, herr⟩ := orDbError_of_error hrow
    rw [Handler.bind_of_error herr]
    have hruntimes : b'.runtimes = b.runtimes := hwrites.runtimes
    cases outcome with
    | done => exact absurd (hwrites.reply.mpr rfl) nofun
    | refused =>
      have hsame : b'.db = before.db := (hwrites.refused rfl).trans hdb
      refine settled_of_registry (fun m => by rw [hsame]) (by rwa [hruntimes]) ?_
      rw [hruntimes, hmap, hrefused rfl]
    | unheard =>
      have hmarked : Marked mapId active before.db b'.db := hdb ▸ hwrites.marked nofun
      exact settled_of_marked hmarked (by rwa [hruntimes]) (by rwa [hruntimes])
        (fun _ => hunheard rfl) nofun
  · cases persisted with
    | false =>
      rw [Handler.bind_of_ok (orDbError_of_ok hrow), if_pos (by simp)]
      exact hundo b' hrow
    | true =>
      rw [hrow] at hwrites
      have hout := hwrites.reply.mp rfl
      have hmarked : Marked mapId active before.db b'.db :=
        hdb ▸ hwrites.marked (by rw [hout]; exact nofun)
      rw [Handler.bind_of_ok (orDbError_of_ok hrow), if_neg (by simp)]
      obtain ⟨hret, hruntimes, hregistry⟩ := hk o b'
      have hruntimes' : (k o b').2.runtimes = b.runtimes := hruntimes.trans hwrites.runtimes
      refine settled_of_marked (fun m => ?_) (by rwa [hruntimes']) (by rwa [hruntimes'])
        (fun h => ?_) fun _ => hdone hout
      · rw [hregistry, hmarked m]
      · rw [hret] at h
        cases h

lemma settled_activation {before : Backend} {k : WorldMapControlWire → Api Json} {undo : Api Json}
    (hk : ∀ w, EndsWell (k w)) (hdb : b.db = before.db)
    (helse : ∀ m, m ≠ mapId → (m ∈ b.runtimes ↔ m ∈ before.runtimes)) :
    Settled mapId (ActivationHarmless o mapId before b) before
      ((invokeWorldMapControl mapId .activate >>= fun w => orDbError (activateMapRow mapId) >>=
        fun persisted => if ¬ persisted then undo else k w) o b) := by
  have helse' : ∀ m, m ≠ mapId → (m ∈ insert mapId b.runtimes ↔ m ∈ before.runtimes) := by
    intro m hm
    rw [Finset.mem_insert, or_iff_right hm]
    exact helse m hm
  have hmap : mapId ∈ insert mapId b.runtimes := Finset.mem_insert_self _ _
  unfold ActivationHarmless
  rcases invokeWorldMapControl_cases mapId .activate o b with
    ⟨hcall, e, hrun⟩ | ⟨hcall, e, hrun⟩ | ⟨hcall, w, hrun⟩
  · rw [Handler.bind_of_error hrun, hcall]
    exact settled_of_registry (fun m => by rw [← hdb]) helse Iff.rfl
  · rw [Handler.bind_of_error hrun, hcall]
    exact settled_of_registry (fun m => by rw [← hdb]) helse' (iff_true_left hmap)
  · have hexists : b.db.mapExists mapId = true :=
      mapExists_of_callOutcome (by rw [hcall]; exact nofun)
    rw [Handler.bind_of_ok hrun, hcall]
    refine settled_row (hk w) hdb helse' (iff_of_true hmap rfl)
      (activateMapRow_spec (b := { b with
        runtimes := insert mapId b.runtimes, worldFates := b.worldFates.tail }) hexists)
      (fun h => ?_) (fun h => ?_) (fun h => ?_) fun b' hrow => absurd hrow ?_
    · rw [show statementOutcome b (Registrable o b mapId) = .refused from h, iff_true_left rfl]
    · rw [show statementOutcome b (Registrable o b mapId) = .unheard from h, iff_true_left rfl,
        eq_comm (a := true)]
    · rw [show statementOutcome b (Registrable o b mapId) = .done from h]
      trivial
    · exact activateMapRow_ne_false hexists

lemma ignore_activate_of_missing {err : ApiError} (hno : b.db.mapExists mapId = false) :
    (Handler.ignore (invokeWorldMapControl mapId .activate) >>= fun _ => (apiFail err : Api Json))
      o b = (.error (.api err), { b with worldFates := b.worldFates.tail }) := by
  have hrefused : callOutcome b mapId .activate = .refused := by
    by_contra hne
    rw [mapExists_of_callOutcome hne] at hno
    cases hno
  rcases invokeWorldMapControl_cases mapId .activate o b with
    ⟨-, e, hundo⟩ | ⟨hcall, -⟩ | ⟨hcall, -⟩
  · rw [Handler.bind_of_ok (a := ()) (t := { b with worldFates := b.worldFates.tail })]
    · rfl
    · unfold Handler.ignore
      rw [hundo]
  all_goals
    rw [hrefused] at hcall
    cases hcall

lemma settled_stopping {harmless : Prop} {k : WorldMapControlWire → Api Json}
    (hrefused : callOutcome b mapId .deactivate = .refused → harmless)
    (hunheard : callOutcome b mapId .deactivate = .unheard → (mapId ∉ b.runtimes ↔ harmless))
    (hdone : callOutcome b mapId .deactivate = .done →
      (∀ m, m ≠ mapId → (m ∈ b.runtimes.erase mapId ↔ m ∈ b.runtimes)) → ∀ w,
        Settled mapId harmless b (k w o { b with
          runtimes := b.runtimes.erase mapId, worldFates := b.worldFates.tail })) :
    Settled mapId harmless b ((invokeWorldMapControl mapId .deactivate >>= k) o b) := by
  have helse : ∀ m, m ≠ mapId → (m ∈ b.runtimes.erase mapId ↔ m ∈ b.runtimes) := by
    intro m hm
    rw [Finset.mem_erase, and_iff_right hm]
  rcases invokeWorldMapControl_cases mapId .deactivate o b with
    ⟨hcall, e, hrun⟩ | ⟨hcall, e, hrun⟩ | ⟨hcall, w, hrun⟩
  · rw [Handler.bind_of_error hrun]
    refine settled_of_registry (fun _ => rfl) (fun _ _ => Iff.rfl) ?_
    exact iff_of_true Iff.rfl (hrefused hcall)
  · rw [Handler.bind_of_error hrun]
    refine settled_of_registry (fun _ => rfl) helse ((iff_false_left ?_).trans (hunheard hcall))
    exact Finset.notMem_erase _ _
  · rw [Handler.bind_of_ok hrun]
    exact hdone hcall helse w

lemma settled_deactivation {k : WorldMapControlWire → Api Json} {err : ApiError}
    (hk : ∀ w, EndsWell (k w)) :
    Settled mapId (DeactivationHarmless mapId b) b
      ((invokeWorldMapControl mapId .deactivate >>= fun w => orDbError (deactivateMapRow mapId) >>=
        fun persisted => if ¬ persisted then
          Handler.ignore (invokeWorldMapControl mapId .activate) >>= fun _ => apiFail err
        else k w) o b) := by
  have hmap : mapId ∉ b.runtimes.erase mapId := Finset.notMem_erase _ _
  unfold DeactivationHarmless
  refine settled_stopping (fun hcall => ?_) (fun hcall => ?_) fun hcall helse w => ?_
  · rw [hcall]
    trivial
  · rw [hcall]
  · rw [hcall]
    refine settled_row (hk w) rfl helse (iff_of_false hmap Bool.false_ne_true)
      (deactivateMapRow_spec mapId o { b with
        runtimes := b.runtimes.erase mapId, worldFates := b.worldFates.tail })
      (fun h => ?_) (fun h => ?_) (fun h => ?_) fun b' hrow => ?_
    · rw [show statementOutcome b (b.db.mapExists mapId = true) = .refused from h,
        iff_false_left Bool.false_ne_true]
    · rw [show statementOutcome b (b.db.mapExists mapId = true) = .unheard from h,
        iff_false_left Bool.false_ne_true, eq_comm (a := false)]
    · rw [show statementOutcome b (b.db.mapExists mapId = true) = .done from h]
      trivial
    · -- the only failure that is undone, of a map that cannot be activated
      obtain ⟨hno, hsame, hruntimes⟩ := of_deactivateMapRow_false hrow
      have hno₁ : b.db.mapExists mapId = false := hno
      have hsame' : b'.db = b.db := hsame
      have hruntimes : b'.runtimes = b.runtimes.erase mapId := hruntimes
      have hout : statementOutcome b (b.db.mapExists mapId = true) = .refused :=
        if_neg fun h => absurd h.2 (by rw [hno₁]; exact Bool.false_ne_true)
      rw [hout, ignore_activate_of_missing (by rw [hsame', hno₁])]
      refine settled_of_registry (fun m => by rw [hsame']) (by rwa [hruntimes]) ?_
      rw [hruntimes]
      exact iff_false_left hmap

lemma settled_restart {k : WorldMapControlWire → WorldMapControlWire → Api Json} {undo : Api Json}
    (hk : ∀ w w', EndsWell (k w w')) :
    Settled mapId (RestartHarmless o mapId b) b
      ((invokeWorldMapControl mapId .deactivate >>= fun w =>
        invokeWorldMapControl mapId .activate >>= fun w' => orDbError (activateMapRow mapId) >>=
          fun persisted => if ¬ persisted then undo else k w w') o b) := by
  unfold RestartHarmless
  refine settled_stopping (fun hcall => ?_) (fun hcall => ?_) fun hcall helse w => ?_
  · rw [hcall]
    trivial
  · rw [hcall]
  · rw [hcall]
    exact settled_activation (hk w) rfl helse

lemma settled_authenticate {auth : Option HeaderValue} {harmless : Prop}
    {k : AdminPrincipal → Api Json}
    (hk : ∀ principal s, Settled mapId harmless { b with sessions := s }
      (k principal o { b with sessions := s })) :
    Settled mapId
      ((∃ principal, (authenticate auth .worldWrite o b).1 = .ok principal) → harmless) b
      ((authenticate auth .worldWrite >>= k) o b) := by
  obtain ⟨s, hs⟩ := authenticate_sessions auth .worldWrite o b
  rcases hauth : authenticate auth .worldWrite o b with ⟨e | principal, b'⟩
  · obtain rfl : b' = { b with sessions := s } := by rw [← hs, hauth]
    rw [Handler.bind_of_error hauth]
    refine settled_of_registry (fun _ => rfl) (fun _ _ => Iff.rfl) (iff_of_true Iff.rfl ?_)
    exact fun ⟨_, h⟩ => absurd h nofun
  · obtain rfl : b' = { b with sessions := s } := by rw [← hs, hauth]
    rw [Handler.bind_of_ok hauth]
    rw [forall_prop_of_true ⟨principal, rfl⟩]
    exact ⟨(hk principal s).elsewhere, (hk principal s).failed, (hk principal s).returned⟩

lemma settled_activateMap (auth : Option HeaderValue) (mapId : MapId) (o : Outside) (b : Backend) :
    Settled mapId ((∃ principal, (authenticate auth .worldWrite o b).1 = .ok principal) →
      ActivationHarmless o mapId b b) b (activateMap auth mapId o b) := by
  refine settled_authenticate fun p s => ?_
  refine settled_activation (b := { b with sessions := s }) ?_ rfl fun _ _ => Iff.rfl
  exact fun w => endsWell_audit _ _ _ _ _ _

lemma settled_deactivateMap (auth : Option HeaderValue) (mapId : MapId) (o : Outside)
    (b : Backend) :
    Settled mapId ((∃ principal, (authenticate auth .worldWrite o b).1 = .ok principal) →
      DeactivationHarmless mapId b) b (deactivateMap auth mapId o b) := by
  refine settled_authenticate fun p s => ?_
  refine settled_deactivation (b := { b with sessions := s }) ?_
  exact fun w => endsWell_audit _ _ _ _ _ _

lemma settled_restartMapInstance (auth : Option HeaderValue) (mapId : MapId) (o : Outside)
    (b : Backend) :
    Settled mapId ((∃ principal, (authenticate auth .worldWrite o b).1 = .ok principal) →
      RestartHarmless o mapId b) b (restartMapInstance auth mapId o b) := by
  refine settled_authenticate fun p s => ?_
  refine settled_restart (b := { b with sessions := s }) ?_
  exact fun w w' => endsWell_audit _ _ _ _ _ _

/-- **One request**: what it leaves elsewhere, and what its failure and its success leave. -/
theorem settled_serve (r : MapRequest) (b : Backend) :
    Settled r.mapId (r.Harmless b) b (r.serve b) := by
  suffices h : Settled r.mapId (r.Harmless b) (r.meets b) (r.serve b) from
    ⟨h.elsewhere, h.failed, h.returned⟩
  obtain ⟨action, mapId, auth, o, dbFates, worldFates⟩ := r
  cases action with
  | activate => exact settled_activateMap auth mapId o _
  | deactivate => exact settled_deactivateMap auth mapId o _
  | restart => exact settled_restartMapInstance auth mapId o _

/-! ### Runs -/

lemma serveMaps_snoc (b : Backend) (p : List MapRequest) (r : MapRequest) :
    serveMaps b (p ++ [r]) = (r.serve (serveMaps b p)).2 := by
  rw [serveMaps, List.foldl_append]
  rfl

lemma Settled.agree {harmless : Prop} {out : Except Failure Json × Backend}
    (h : Settled mapId harmless b out) (hharmless : harmless) (hagree : Agree b) : Agree out.2 := by
  have hunchanged {m : MapId} (hm : Unchanged m b out.2) :
      m ∈ out.2.runtimes ↔ out.2.db.isRegistered m = true := by rw [hm.1, hm.2, hagree m]
  intro m
  by_cases hm : m = mapId
  · subst hm
    cases hret : out.1.isOk with
    | false => exact hunchanged ((h.failed hret).mpr hharmless)
    | true => exact (h.returned hret).2
  · exact hunchanged (h.elsewhere m hm)

/-- **Map control**: a run is all-or-nothing exactly when each of its requests is harmless where it
comes. -/
theorem allOrNothing_iff (b : Backend) (reqs : List MapRequest) :
    AllOrNothing b reqs ↔ ∀ p r, p ++ [r] <+: reqs → r.Harmless (serveMaps b p) := by
  constructor
  · rintro ⟨hfailed, -⟩ p r hp
    have hsettled := settled_serve r (serveMaps b p)
    rcases hserve : (r.serve (serveMaps b p)).1 with err | json
    · refine (hsettled.failed (by rw [hserve]; rfl)).mp ?_
      rw [← serveMaps_snoc]
      exact hfailed p r hp err hserve
    · exact (hsettled.returned (by rw [hserve]; rfl)).1
  · intro h
    refine ⟨fun p r hp err herr => ?_, fun hagree p hp => ?_⟩
    · rw [serveMaps_snoc]
      exact ((settled_serve r (serveMaps b p)).failed (by rw [herr]; rfl)).mpr (h p r hp)
    · induction p using List.reverseRecOn with
      | nil => exact hagree
      | append_singleton p r ih =>
        rw [serveMaps_snoc]
        have hbefore := ih ((List.prefix_append p [r]).trans hp)
        exact (settled_serve r (serveMaps b p)).agree (h p r hp) hbefore

/-- A map is activated, and then the database cannot be reached. -/
theorem activated_but_not_registered :
    let b : Backend := { Backend.fixture with
      sessions := (∅ : FMap String AdminSession).insert "token"
        ⟨⟨.fill 20, "gm@localhost", [.gm]⟩, 100⟩ }
    ¬ AllOrNothing b [⟨.activate, 1, some (.text "Bearer token"), .fixture, [.failed], []⟩] := by
  intro b h
  have hserve : ∃ err, (MapRequest.serve ⟨.activate, 1, some (.text "Bearer token"), .fixture,
      [.failed], []⟩ b).1 = .error err := ⟨.api (.internal "db error: error"), by rfl⟩
  obtain ⟨err, herr⟩ := hserve
  have hsame := (h.1 [] _ (List.prefix_refl _) err herr).1
  exact absurd hsame (by decide +kernel)

end HelbreathBackend.AdminApi
