import HelbreathBackend.OutboundFeed
import HelbreathBackend.Persistence
import HelbreathBackend.Lib.Progress

/-!
The process of the world service.

The tasks of all maps send what they tell into one channel and what they persist into another. The
outbound task numbers the events for the feed; the persist task carries the operations out, one
after the other, and counts those it is told have failed. In between, other services change the
database.
-/

namespace HelbreathBackend.SaveFeed

open HelbreathBackend.Lib HelbreathBackend.Domain HelbreathBackend.Infrastructure
open HelbreathBackend.MapServer HelbreathBackend.MapServer.MapInstance
open HelbreathBackend.OutboundFeed HelbreathBackend.Persistence
open HelbreathBackend.AdminApi (DbFate)

/-- One round of the persist task. -/
structure Attempt where
  op : Tagged PersistOp
  fate : DbFate
  now : Time
  /-- the database it finds -/
  before : GameStore

namespace Attempt

/-- What the task is told, and the database that it leaves. -/
def outcome (a : Attempt) : Except PersistError Unit × GameStore :=
  persistMapOp a.fate a.now a.op.value a.before

/-- The operation takes effect. -/
def Committed (a : Attempt) : Prop := a.fate ≠ .failed ∧ Storable a.op.value a.before

instance : DecidablePred Committed := fun a =>
  inferInstanceAs (Decidable (a.fate ≠ .failed ∧ Storable a.op.value a.before))

/-- `persist_map_op(..).await` is an error. -/
def reported (a : Attempt) : Bool :=
  match a.outcome.1 with
  | .ok _ => false
  | .error _ => true

end Attempt

structure WorldProcess where
  world : WorldService
  /-- how many of the operations of its instance each task has sent -/
  saved : MapId → ℕ
  persistRx : List (Tagged PersistOp)
  store : GameStore
  persistenceErrorsTotal : UInt64
  /-- history: the instances that were taken out, and how many operations of each were sent -/
  retired : MapId → List (MapInstance × ℕ)
  /-- history: the operations that were sent -/
  persisted : List (Tagged PersistOp)
  /-- history: the rounds of the persist task -/
  attempts : List Attempt

inductive WorldAction
  /-- what the process does without the database -/
  | service (a : FeedAction)
  | save (mapId : MapId)
  | persist (fate : DbFate) (now : Time)
  /-- other services change the database -/
  | elsewhere (db : Database)

namespace WorldProcess

variable (w : WorldProcess)

/-- A tick begins when the task has sent all that it persists. -/
def ready : FeedAction → Bool
  | .tick mapId _ => (w.world.runtimes.lookup mapId).all fun task =>
    w.saved mapId == task.mapInstance.persistTx.length
  | _ => true

/-- A new task has sent nothing. -/
def savedAfter : FeedAction → MapId → ℕ
  | .activate mapId =>
    if (w.world.runtimes.lookup mapId).isSome then w.saved else Function.update w.saved mapId 0
  | _ => w.saved

/-- The instance of the map is taken out, if there is one. -/
def takesOut (mapId : MapId) : FeedAction → Bool
  | .deactivate m => m == mapId
  | _ => false

def retiredAfter (a : FeedAction) (mapId : MapId) : List (MapInstance × ℕ) :=
  if takesOut mapId a then
    w.retired mapId ++ ((w.world.runtimes.lookup mapId).map fun task =>
      (task.mapInstance, w.saved mapId)).toList
  else w.retired mapId

def service (commandBudget : ℕ) (a : FeedAction) : Option WorldProcess :=
  if w.ready a then
    ((feedSystem commandBudget).step w.world a).map fun world =>
      { w with world := world, saved := w.savedAfter a, retired := w.retiredAfter a }
  else none

/-- A task sends its next operation, unless the channel is full. -/
def save (mapId : MapId) : Option WorldProcess :=
  (w.world.runtimes.lookup mapId).bind fun task =>
    (task.mapInstance.persistTx[w.saved mapId]?).bind fun op =>
      if w.persistRx.length < 8192 then
        some { w with
          saved := Function.update w.saved mapId (w.saved mapId + 1)
          persistRx := w.persistRx ++ [⟨mapId, op⟩]
          persisted := w.persisted ++ [⟨mapId, op⟩] }
      else none

/-- One round of the persist task. -/
def persist (fate : DbFate) (now : Time) : Option WorldProcess :=
  match w.persistRx with
  | [] => none
  | op :: rest =>
    let attempt : Attempt := ⟨op, fate, now, w.store⟩
    some { w with
      persistRx := rest
      store := attempt.outcome.2
      persistenceErrorsTotal := w.persistenceErrorsTotal + if attempt.reported then 1 else 0
      attempts := w.attempts ++ [attempt] }

def elsewhere (db : Database) : WorldProcess := { w with store := { w.store with db := db } }

/-- The process as it starts. -/
def started (store : GameStore) : WorldProcess :=
  ⟨⟨∅, [], 0, [], []⟩, fun _ => 0, [], store, 0, fun _ => [], [], []⟩

end WorldProcess

def worldProcess (commandBudget : ℕ) (store₀ : GameStore) : System WorldProcess WorldAction where
  init w := w = .started store₀
  step w
    | .service a => w.service commandBudget a
    | .save mapId => w.save mapId
    | .persist fate now => w.persist fate now
    | .elsewhere db => some (w.elsewhere db)

variable {commandBudget : ℕ} {store₀ : GameStore} {w w' : WorldProcess}

/-! ### What a step can do -/

lemma service_cases {a : FeedAction} (hst : w.service commandBudget a = some w') :
    w.ready a = true ∧ ∃ world, (feedSystem commandBudget).step w.world a = some world ∧
      w' = { w with world := world, saved := w.savedAfter a, retired := w.retiredAfter a } := by
  unfold WorldProcess.service at hst
  split at hst
  · next hready =>
    obtain ⟨world, hworld, rfl⟩ := Option.map_eq_some_iff.mp hst
    exact ⟨hready, world, hworld, rfl⟩
  · cases hst

lemma step_eq_none {a : FeedAction} (hready : w.ready a = true)
    (h : w.service commandBudget a = none) : (feedSystem commandBudget).step w.world a = none := by
  rwa [WorldProcess.service, if_pos hready, Option.map_eq_none_iff] at h

lemma save_cases {mapId : MapId} (hst : w.save mapId = some w') :
    ∃ task op, w.world.runtimes.lookup mapId = some task ∧
      task.mapInstance.persistTx[w.saved mapId]? = some op ∧ w.persistRx.length < 8192 ∧
      w' = { w with
        saved := Function.update w.saved mapId (w.saved mapId + 1)
        persistRx := w.persistRx ++ [⟨mapId, op⟩]
        persisted := w.persisted ++ [⟨mapId, op⟩] } := by
  obtain ⟨task, htask, hop⟩ := Option.bind_eq_some_iff.mp hst
  obtain ⟨op, hnext, hsend⟩ := Option.bind_eq_some_iff.mp hop
  split at hsend
  · next hroom => exact ⟨task, op, htask, hnext, hroom, (Option.some.inj hsend).symm⟩
  · cases hsend

lemma persist_cases {fate : DbFate} {now : Time} (hst : w.persist fate now = some w') :
    ∃ op rest, w.persistRx = op :: rest ∧ ∃ attempt : Attempt,
      attempt = ⟨op, fate, now, w.store⟩ ∧
      w' = { w with
        persistRx := rest
        store := attempt.outcome.2
        persistenceErrorsTotal := w.persistenceErrorsTotal + if attempt.reported then 1 else 0
        attempts := w.attempts ++ [attempt] } := by
  unfold WorldProcess.persist at hst
  split at hst
  · cases hst
  · next op rest hrx => exact ⟨op, rest, hrx, _, rfl, (Option.some.inj hst).symm⟩

/-- **The process refines the feed**: what it tells is a run of the feed alone. -/
theorem feed_reached (h : (worldProcess commandBudget store₀).Reached w) :
    (feedSystem commandBudget).Reached w.world := by
  refine h.projected WorldProcess.world ?_ ?_
  · rintro w rfl
    rfl
  · intro w a w' hst
    cases a with
    | service a =>
      obtain ⟨-, world, hworld, rfl⟩ := service_cases hst
      exact .inr ⟨a, hworld⟩
    | save mapId =>
      obtain ⟨task, op, -, -, -, rfl⟩ := save_cases hst
      exact .inl rfl
    | persist fate now =>
      obtain ⟨op, rest, -, attempt, -, rfl⟩ := persist_cases hst
      exact .inl rfl
    | elsewhere db =>
      obtain rfl := Option.some.inj hst
      exact .inl rfl

/-! ### What the persist task makes of the operations -/

/-- The operations that took effect. -/
def committed (attempts : List Attempt) : List PersistOp :=
  (attempts.filter fun a => a.Committed).map (·.op.value)

/-- The versions of the inventories. -/
def versions (rows : List InventoryRow) : List (Uuid × CharacterId × ℤ) :=
  rows.map fun i => (i.id, i.characterId, i.version.toInt)

/-- How many of the operations change the inventory of a character. -/
def changesOf (characterId : CharacterId) (ops : List PersistOp) : ℕ :=
  ops.countP fun op => inventoryOf op = some characterId

/-- The database is what the operations that took effect make of the one at the start, as far as
nobody else writes to it. -/
structure Replayed (store₀ : GameStore) (w : WorldProcess) : Prop where
  fifo : w.persisted = w.attempts.map (·.op) ++ w.persistRx
  gameEvents : w.store.gameEvents = store₀.gameEvents ++ (committed w.attempts).map eventOf
  combatLogs :
    w.store.combatLogs = store₀.combatLogs ++ (committed w.attempts).filterMap combatLogOf
  inventories : versions w.store.inventories.rows = (versions store₀.inventories.rows).map
    fun i => (i.1, i.2.1, i.2.2 + (changesOf i.2.1 (committed w.attempts) : ℤ))
  errors : w.persistenceErrorsTotal = UInt64.ofNat (w.attempts.countP (·.reported))

lemma committed_snoc (attempts : List Attempt) (a : Attempt) :
    committed (attempts ++ [a]) =
      committed attempts ++ if a.Committed then [a.op.value] else [] := by
  unfold committed
  rw [List.filter_append, List.map_append]
  by_cases h : a.Committed
  · rw [if_pos h, List.filter_cons_of_pos (by simpa using h)]
    rfl
  · rw [if_neg h, List.filter_cons_of_neg (by simpa using h)]
    rfl

lemma outcome_cases (a : Attempt) :
    (a.Committed ∧ Stored a.now a.op.value a.before a.outcome.2) ∨
      (¬ a.Committed ∧ a.outcome.2 = a.before) := by
  rcases persistMapOp_cases a.fate a.now a.op.value a.before with
    ⟨hfate, hstorable, hstored, -⟩ | ⟨hnot, hsame, -⟩
  · exact .inl ⟨⟨hfate, hstorable⟩, hstored⟩
  · refine .inr ⟨fun hc => ?_, hsame⟩
    rcases hnot with hfailed | hnot
    · exact hc.1 hfailed
    · exact hnot hc.2

lemma toInt_add_one {v : Int64} (h : v ≠ Int64.maxValue) : (v + 1).toInt = v.toInt + 1 := by
  have hlt : v.toInt < 2 ^ 63 - 1 := by
    have hle := Int64.toInt_lt v
    have hne : v.toInt ≠ Int64.maxValue.toInt := fun he => h (Int64.toInt_inj.mp he)
    have hmax : Int64.maxValue.toInt = 2 ^ 63 - 1 := by decide
    omega
  have hge := Int64.le_toInt v
  have hone : (1 : Int64).toInt = 1 := rfl
  rw [Int64.toInt_add, hone, Int.bmod_eq_of_le] <;> omega

/-- The versions after an operation that the database can take: none of them overflows. -/
lemma versions_changed {op : PersistOp} {store : GameStore} (h : Storable op store) (now : Time) :
    versions (store.inventories.rows.map (changedRow now op)) =
      (versions store.inventories.rows).map
        fun i => (i.1, i.2.1, i.2.2 + (changesOf i.2.1 [op] : ℤ)) := by
  unfold versions
  rw [List.map_map, List.map_map]
  refine List.map_congr_left fun i hi => ?_
  simp only [Function.comp_apply, changedRow, changesOf, List.countP_singleton, decide_eq_true_eq]
  by_cases hown : inventoryOf op = some i.characterId
  · rw [if_pos hown, if_pos hown]
    dsimp only
    rw [toInt_add_one (h.inventory _ hown i hi rfl)]
    rfl
  · rw [if_neg hown, if_neg hown, Nat.cast_zero, add_zero]

lemma Replayed.persist (h : Replayed store₀ w) {fate : DbFate} {now : Time}
    (hst : w.persist fate now = some w') : Replayed store₀ w' := by
  obtain ⟨op, rest, hrx, attempt, hattempt, rfl⟩ := persist_cases hst
  have hfifo : w.persisted = (w.attempts ++ [attempt]).map (·.op) ++ rest := by
    rw [h.fifo, hrx, List.map_append, List.append_assoc, hattempt]
    rfl
  have herrors : w.persistenceErrorsTotal + (if attempt.reported then 1 else 0) =
      UInt64.ofNat ((w.attempts ++ [attempt]).countP (·.reported)) := by
    rw [h.errors, List.countP_append, List.countP_singleton, UInt64.ofNat_add]
    cases attempt.reported <;> rfl
  have hbefore : attempt.before = w.store := by rw [hattempt]
  rcases outcome_cases attempt with ⟨hc, hstored⟩ | ⟨hc, hsame⟩
  · have hall : committed (w.attempts ++ [attempt]) =
        committed w.attempts ++ [attempt.op.value] := by rw [committed_snoc, if_pos hc]
    refine ⟨hfifo, ?_, ?_, ?_, herrors⟩ <;> dsimp only
    · rw [hstored.gameEvents, hbefore, h.gameEvents, hall, List.map_append, List.append_assoc]
      rfl
    · rw [hstored.combatLogs, hbefore, h.combatLogs, hall, List.filterMap_append,
        List.append_assoc]
      congr 2
    · rw [hstored.inventories, versions_changed hc.2, hbefore, h.inventories, hall, List.map_map]
      refine List.map_congr_left fun i _ => ?_
      simp only [Function.comp_apply, changesOf, List.countP_append, Nat.cast_add, add_assoc]
  · have hall : committed (w.attempts ++ [attempt]) = committed w.attempts := by
      rw [committed_snoc, if_neg hc, List.append_nil]
    refine ⟨hfifo, ?_, ?_, ?_, herrors⟩ <;> dsimp only
    · rw [hsame, hbefore, hall]
      exact h.gameEvents
    · rw [hsame, hbefore, hall]
      exact h.combatLogs
    · rw [hsame, hbefore, hall]
      exact h.inventories

/-- **The log is replayed**: every operation that was sent waits or was tried, once and in order,
and the events, the combat logs and the inventories are what those that took effect make of them. -/
theorem replayed_of_reached (h : (worldProcess commandBudget store₀).Reached w) :
    Replayed store₀ w := by
  refine h.invariant (Replayed store₀) ?_ ?_
  · rintro w rfl
    refine ⟨rfl, (List.append_nil _).symm, (List.append_nil _).symm, ?_, rfl⟩
    simp [WorldProcess.started, committed, changesOf]
  · intro w a w' hw _ hst
    cases a with
    | service a =>
      obtain ⟨-, world, -, rfl⟩ := service_cases hst
      exact ⟨hw.fifo, hw.gameEvents, hw.combatLogs, hw.inventories, hw.errors⟩
    | save mapId =>
      obtain ⟨task, op, -, -, -, rfl⟩ := save_cases hst
      refine ⟨?_, hw.gameEvents, hw.combatLogs, hw.inventories, hw.errors⟩
      dsimp only
      rw [hw.fifo, List.append_assoc]
    | persist fate now => exact hw.persist hst
    | elsewhere db =>
      obtain rfl := Option.some.inj hst
      exact ⟨hw.fifo, hw.gameEvents, hw.combatLogs, hw.inventories, hw.errors⟩

/-! ### Where the operations come from -/

/-- The operations that a map has sent. -/
def opsOf (mapId : MapId) (persisted : List (Tagged PersistOp)) : List PersistOp :=
  (persisted.filter fun op => op.origin = mapId).map (·.value)

/-- What the earlier instances of a map had sent, one after the other, when they were taken out. -/
def earlier (retired : List (MapInstance × ℕ)) : List PersistOp :=
  retired.flatMap fun r => r.1.persistTx.take r.2

/-- What a map has sent is what its earlier instances have sent, and after that, if it is active,
what its task has sent of the operations of its instance. -/
inductive SavesFrom (ops : List PersistOp) (retired : List (MapInstance × ℕ)) (saved : ℕ) :
    Option MapTask → Prop
  | inactive (hops : ops = earlier retired) : SavesFrom ops retired saved none
  | active {task : MapTask} (hle : saved ≤ task.mapInstance.persistTx.length)
    (hops : ops = earlier retired ++ task.mapInstance.persistTx.take saved) :
    SavesFrom ops retired saved (some task)

def AllSave (w : WorldProcess) : Prop :=
  ∀ mapId, SavesFrom (opsOf mapId w.persisted) (w.retired mapId) (w.saved mapId)
    (w.world.runtimes.lookup mapId)

lemma opsOf_snoc (mapId mapId' : MapId) (persisted : List (Tagged PersistOp)) (op : PersistOp) :
    opsOf mapId (persisted ++ [⟨mapId', op⟩]) =
      opsOf mapId persisted ++ if mapId' = mapId then [op] else [] := by
  unfold opsOf
  rw [List.filter_append, List.map_append]
  congr 1
  by_cases he : mapId' = mapId
  · rw [if_pos he, List.filter_cons_of_pos (by simpa using he)]
    rfl
  · rw [if_neg he, List.filter_cons_of_neg (by simpa using he)]
    rfl

/-- A step of the feed, seen from the task of a map: it is still there, and its instance has gone on
at most; or it is new; or it has been taken out; or there is none before or after. -/
inductive TaskStep (a : FeedAction) (mapId : MapId) : Option MapTask → Option MapTask → Prop
  | stays {old task : MapTask} (ha : WorldProcess.takesOut mapId a = false)
    (hpre : old.mapInstance.persistTx <+: task.mapInstance.persistTx) :
    TaskStep a mapId (some old) (some task)
  | new {task : MapTask} (ha : a = .activate mapId) (hnew : task.mapInstance.persistTx = []) :
    TaskStep a mapId none (some task)
  | gone {old : MapTask} (ha : WorldProcess.takesOut mapId a = true) :
    TaskStep a mapId (some old) none
  | absent : TaskStep a mapId none none

lemma TaskStep.same {a : FeedAction} {mapId : MapId} (ha : WorldProcess.takesOut mapId a = false)
    (entry : Option MapTask) : TaskStep a mapId entry entry := by
  cases entry with
  | none => exact .absent
  | some old => exact .stays ha List.prefix_rfl

/-- A task is put in the place of an older one. -/
lemma TaskStep.setTask {world : WorldService} {a : FeedAction} {mapId mapId' : MapId}
    {old task : MapTask} (ha : ∀ m, WorldProcess.takesOut m a = false)
    (hold : world.runtimes.lookup mapId' = some old)
    (hpre : old.mapInstance.persistTx <+: task.mapInstance.persistTx) :
    TaskStep a mapId (world.runtimes.lookup mapId)
      ((world.runtimes.insert mapId' task).lookup mapId) := by
  rw [FMap.lookup_insert_eq]
  split
  · next he =>
    rw [he, hold]
    exact .stays (ha mapId') hpre
  · exact .same (ha mapId) _

lemma taskStep_of_step {world world' : WorldService} {a : FeedAction}
    (h : (feedSystem commandBudget).Reached world)
    (hst : (feedSystem commandBudget).step world a = some world') (mapId : MapId) :
    TaskStep a mapId (world.runtimes.lookup mapId) (world'.runtimes.lookup mapId) := by
  cases a with
  | activate mapId' =>
    obtain rfl := Option.some.inj hst
    simp only [WorldService.activate]
    split
    · exact .same rfl _
    · next hnone =>
      rw [WorldService.setTask, FMap.lookup_insert_eq]
      split
      · next he =>
        rw [he, hnone]
        exact .new rfl rfl
      · exact .same rfl _
  | deactivate mapId' =>
    obtain rfl := Option.some.inj hst
    rw [WorldService.deactivate, FMap.lookup_erase_eq]
    split
    · next he =>
      rcases world.runtimes.lookup mapId with _ | old
      · exact .absent
      · exact .gone (beq_iff_eq.mpr he.symm)
    · next hne =>
      have hother : WorldProcess.takesOut mapId (.deactivate mapId') = false :=
        beq_false_of_ne (Ne.symm hne)
      exact .same hother _
  | incoming mapId' command =>
    obtain ⟨old, hold, rfl⟩ := Option.map_eq_some_iff.mp hst
    exact .setTask (fun _ => rfl) hold List.prefix_rfl
  | tick mapId' iter =>
    obtain ⟨old, hold, htick⟩ := Option.bind_eq_some_iff.mp hst
    split at htick
    · obtain rfl := Option.some.inj htick
      have hreached := (allOriginate_of_reached h mapId' old hold).reached
      exact .setTask (fun _ => rfl) hold ((sound_of_reached hreached).tick_extends iter).2
    · cases htick
  | emit mapId' =>
    obtain ⟨old, hold, hevent⟩ := Option.bind_eq_some_iff.mp hst
    obtain ⟨event, -, hemit⟩ := Option.bind_eq_some_iff.mp hevent
    split at hemit
    · obtain rfl := Option.some.inj hemit
      exact .setTask (fun _ => rfl) hold List.prefix_rfl
    · cases hemit
  | recv =>
    change world.recv = some world' at hst
    unfold WorldService.recv at hst
    split at hst
    · cases hst
    · obtain rfl := Option.some.inj hst
      exact .same rfl _

lemma savedAfter_of_some {a : FeedAction} {mapId : MapId} {old : MapTask}
    (hold : w.world.runtimes.lookup mapId = some old) : w.savedAfter a mapId = w.saved mapId := by
  unfold WorldProcess.savedAfter
  split
  · next mapId' =>
    split
    · rfl
    · next hfresh =>
      refine Function.update_of_ne (fun he => hfresh ?_) _ _
      rw [← he, hold]
      rfl
  · rfl

lemma AllSave.service (h : AllSave w) (hreached : (feedSystem commandBudget).Reached w.world)
    {a : FeedAction} (hst : w.service commandBudget a = some w') : AllSave w' := by
  obtain ⟨-, world, hworld, rfl⟩ := service_cases hst
  intro mapId
  have hmap := h mapId
  have hstep := taskStep_of_step hreached hworld mapId
  show SavesFrom (opsOf mapId w.persisted) (w.retiredAfter a mapId) (w.savedAfter a mapId)
    (world.runtimes.lookup mapId)
  generalize hbefore : w.world.runtimes.lookup mapId = before at hmap hstep
  generalize world.runtimes.lookup mapId = after at hstep
  cases hstep with
  | stays ha hpre =>
    obtain ⟨rest, hrest⟩ := hpre
    rw [WorldProcess.retiredAfter, if_neg (by simp [ha]), savedAfter_of_some hbefore]
    cases hmap with
    | active hle hops =>
      refine .active (hle.trans (by simp [← hrest])) ?_
      rw [← hrest, List.take_append_of_le_length hle]
      exact hops
  | new ha hnew =>
    subst ha
    have hsaved : w.savedAfter (.activate mapId) mapId = 0 := by
      rw [WorldProcess.savedAfter, hbefore, if_neg (by simp), Function.update_self]
    rw [WorldProcess.retiredAfter, if_neg (by simp [WorldProcess.takesOut]), hsaved]
    cases hmap with
    | inactive hops => exact .active (Nat.zero_le _) (hops.trans (List.append_nil _).symm)
  | @gone old ha =>
    have hretired : w.retiredAfter a mapId =
        w.retired mapId ++ [(old.mapInstance, w.saved mapId)] := by
      rw [WorldProcess.retiredAfter, if_pos ha, hbefore]
      rfl
    rw [hretired]
    cases hmap with
    | active hle hops =>
      refine .inactive ?_
      rw [earlier, List.flatMap_append, List.flatMap_singleton]
      exact hops
  | absent =>
    have hretired : w.retiredAfter a mapId = w.retired mapId := by
      rw [WorldProcess.retiredAfter, hbefore, Option.map_none, Option.toList_none,
        List.append_nil, ite_self]
    rw [hretired]
    cases hmap with
    | inactive hops => exact .inactive hops

lemma AllSave.save (h : AllSave w) {mapId : MapId} (hst : w.save mapId = some w') :
    AllSave w' := by
  obtain ⟨task, op, htask, hnext, -, rfl⟩ := save_cases hst
  obtain ⟨hlt, -⟩ := List.getElem?_eq_some_iff.mp hnext
  intro mapId'
  have hmap := h mapId'
  show SavesFrom (opsOf mapId' (w.persisted ++ [⟨mapId, op⟩])) (w.retired mapId')
    (Function.update w.saved mapId (w.saved mapId + 1) mapId') (w.world.runtimes.lookup mapId')
  rw [opsOf_snoc]
  by_cases he : mapId = mapId'
  · subst he
    rw [htask] at hmap ⊢
    rw [if_pos rfl, Function.update_self]
    cases hmap with
    | active hle hops =>
      refine .active hlt ?_
      rw [hops, List.take_add_one, hnext, List.append_assoc]
      rfl
  · rwa [if_neg he, List.append_nil, Function.update_of_ne (Ne.symm he)]

/-- **Where operations come from**: what a map has sent are operations of its instances, in their
order. -/
theorem allSave_of_reached (h : (worldProcess commandBudget store₀).Reached w) : AllSave w := by
  refine h.invariant_of AllSave (J := fun w => (feedSystem commandBudget).Reached w.world)
    (fun hw => feed_reached hw) ?_ ?_
  · rintro w rfl mapId
    exact .inactive rfl
  · intro w a w' hreached _ hw _ hst
    cases a with
    | service a => exact hw.service hreached hst
    | save mapId => exact hw.save hst
    | persist fate now =>
      obtain ⟨op, rest, -, attempt, -, rfl⟩ := persist_cases hst
      exact hw
    | elsewhere db =>
      obtain rfl := Option.some.inj hst
      exact hw

/-! ### What is persisted -/

abbrev StoredPlace := MapId × Int32 × Int32

/-- Where the database has a character. -/
def storedPlace (characterId : CharacterId) (db : Database) : Option StoredPlace :=
  (db.characters.rows.find? fun c => c.id = characterId).map fun c => (c.mapId, c.posX, c.posY)

/-- Where an operation puts the character, if it is about its position. -/
def placeFor (characterId : CharacterId) (op : PersistOp) : Option StoredPlace :=
  (placedBy op).bind fun placed => if placed.1 = characterId then some placed.2 else none

/-- Where the last of the operations puts the character. -/
def lastPlace (characterId : CharacterId) (ops : List PersistOp) : Option StoredPlace :=
  (ops.filterMap (placeFor characterId)).getLast?

lemma lastPlace_snoc (characterId : CharacterId) (ops : List PersistOp) (op : PersistOp) :
    lastPlace characterId (ops ++ [op]) =
      (placeFor characterId op).or (lastPlace characterId ops) := by
  unfold lastPlace
  rw [List.filterMap_append]
  cases h : placeFor characterId op with
  | none => simp [h]
  | some place => simp [h]

lemma movedRow_id (now : Time) (op : PersistOp) (c : CharacterRow) :
    (movedRow now op c).id = c.id := by
  unfold movedRow
  split
  · split <;> rfl
  · rfl

/-- An operation puts its character where it says, and leaves the others where they are. -/
lemma storedPlace_stored {now : Time} {op : PersistOp} {store store' : GameStore}
    (hstorable : Storable op store) (h : Stored now op store store') (characterId : CharacterId) :
    storedPlace characterId store'.db =
      (placeFor characterId op).or (storedPlace characterId store.db) := by
  have hfind : (store'.db.characters.rows.find? fun c => c.id = characterId) =
      (store.db.characters.rows.find? fun c => c.id = characterId).map (movedRow now op) := by
    rw [h.characters, List.find?_map]
    congr 2
    funext c
    simp only [Function.comp_apply, movedRow_id]
  unfold storedPlace
  rw [hfind, Option.map_map]
  rcases hplaced : placedBy op with _ | ⟨moved, place⟩
  · rw [placeFor, hplaced, movedRow_of_not_placed hplaced]
    rfl
  · by_cases he : moved = characterId
    · have hactor : actor op = characterId := by
        cases op <;> cases hplaced
        exact he
      obtain ⟨row, hrow, hid⟩ := hstorable.actor
      obtain ⟨c, hc⟩ : ∃ c,
          (store.db.characters.rows.find? fun c => c.id = characterId) = some c := by
        refine Option.isSome_iff_exists.mp (List.find?_isSome.mpr ⟨row, hrow, ?_⟩)
        rw [hid, hactor]
        exact decide_eq_true rfl
      have hcid : c.id = characterId := by simpa using List.find?_some hc
      rw [placeFor, hplaced, hc, Option.bind_some, if_pos he, Option.map_some]
      simp only [Function.comp_apply, movedRow, hplaced, hcid, he]
      rfl
    · rw [placeFor, hplaced, Option.bind_some, if_neg he, Option.none_or]
      refine Option.map_congr fun c hc => ?_
      have hcid : c.id = characterId := by simpa using List.find?_some hc
      have hne : ¬ c.id = moved := fun heq => he (heq.symm.trans hcid)
      simp only [Function.comp_apply, movedRow, hplaced, if_neg hne]

/-- The other services leave the character where it is. -/
def LeavesInPlace (characterId : CharacterId) (w : WorldProcess) (a : WorldAction) : Prop :=
  ∀ db, a = .elsewhere db → storedPlace characterId db = storedPlace characterId w.store.db

/-- **The stored position.** In every run in which no other service moves a character, the database
has the character where the last of its moves that took effect has put it, whichever maps the
moves are from, and without one where it was at the start. -/
theorem stored_position {characterId : CharacterId}
    (h : (worldProcess commandBudget store₀).ReachedBy (LeavesInPlace characterId) w) :
    storedPlace characterId w.store.db =
      (lastPlace characterId (committed w.attempts)).or (storedPlace characterId store₀.db) := by
  refine h.invariant (fun w => storedPlace characterId w.store.db =
    (lastPlace characterId (committed w.attempts)).or (storedPlace characterId store₀.db)) ?_ ?_
  · rintro w rfl
    rfl
  · intro w a w' hw hplace hst
    cases a with
    | service a =>
      obtain ⟨-, world, -, rfl⟩ := service_cases hst
      exact hw
    | save mapId =>
      obtain ⟨task, op, -, -, -, rfl⟩ := save_cases hst
      exact hw
    | persist fate now =>
      obtain ⟨op, rest, -, attempt, hattempt, rfl⟩ := persist_cases hst
      have hbefore : attempt.before = w.store := by rw [hattempt]
      dsimp only
      rw [committed_snoc]
      rcases outcome_cases attempt with ⟨hc, hstored⟩ | ⟨hc, hsame⟩
      · rw [if_pos hc, lastPlace_snoc, storedPlace_stored hc.2 hstored, hbefore, hw,
          Option.or_assoc]
      · rw [if_neg hc, List.append_nil, hsame, hbefore, hw]
    | elsewhere db =>
      obtain rfl := Option.some.inj hst
      exact (hplace db rfl).trans hw

instance (characterId : CharacterId) (w : WorldProcess) :
    ∀ a, Decidable (LeavesInPlace characterId w a)
  | .elsewhere db =>
    decidable_of_iff (storedPlace characterId db = storedPlace characterId w.store.db)
      ⟨fun h _ he => by cases he; exact h, fun h => h db rfl⟩
  | .service _ | .save _ | .persist .. => .isTrue fun _ he => by cases he

/-! ### A walk over two maps -/

/-- A character at a place, in a world of two maps. -/
def heroAt (status : String) (mapId : MapId) (x y : Int32) : Database :=
  { Database.fixture with
    accounts := ⟨[⟨.fill 1, "smoke", none, "plain:testpass", status⟩], List.pairwise_singleton _ _⟩
    maps := ⟨[⟨1, "default", "Default Map", 100, 100, 50⟩, ⟨2, "farm", "Farm", 100, 100, 50⟩],
      by decide⟩
    characters := ⟨[⟨.fill 7, .fill 1, "hero", 0, "warrior", 0, 0, 0, 0, 0, 1, 0, mapId, x, y, 100,
      50, 50, (10, 10, 10, 10, 10, 10), false, 0, 0⟩], List.pairwise_singleton _ _⟩ }

def oneCharacter : GameStore := ⟨heroAt "active" 1 50 60, Table.empty, [], []⟩

/-- The character moves twice on map 1 and once on map 2. Of what is persisted of it the first
is fine and the answer to the second is lost; then the account is blocked, and the third fails. -/
noncomputable def walk : List WorldAction :=
  [.service (.activate 1), .service (.activate 2),
    .service (.incoming 1 ⟨.fill 1, some (.fill 7), .enterWorld⟩),
    .service (.incoming 1 ⟨.fill 1, none, .move 3 4 true⟩),
    .service (.incoming 1 ⟨.fill 1, none, .move 7 8 true⟩),
    .service (.incoming 2 ⟨.fill 2, some (.fill 7), .enterWorld⟩),
    .service (.incoming 2 ⟨.fill 2, none, .move 5 6 true⟩),
    .service (.tick 1 default), .service (.tick 2 default), .save 1, .save 2, .save 1,
    .persist .fine 0, .persist .lost 1, .elsewhere (heroAt "banned" 2 5 6), .persist .failed 2]

lemma exists_walked : ∃ w,
    (worldProcess 16 oneCharacter).ReachedBy (LeavesInPlace (.fill 7)) w ∧
      committed w.attempts =
        [.saveCharacterPosition (.fill 7) 1 3 4, .saveCharacterPosition (.fill 7) 2 5 6] ∧
      w.attempts.map (·.fate) = [.fine, .lost, .failed] ∧
      w.attempts.countP (·.reported) = 2 := by
  obtain ⟨w, hw, hshape⟩ := (worldProcess 16 oneCharacter).exists_reachedBy
    (LeavesInPlace (.fill 7)) (s := .started oneCharacter) rfl walk
    (fun w => decide (committed w.attempts =
        [.saveCharacterPosition (.fill 7) 1 3 4, .saveCharacterPosition (.fill 7) 2 5 6]) &&
      decide (w.attempts.map (·.fate) = [.fine, .lost, .failed]) &&
      w.attempts.countP (·.reported) == 2) (by decide +kernel)
  simp only [Bool.and_eq_true, decide_eq_true_eq, beq_iff_eq] at hshape
  exact ⟨w, hw, hshape.1.1, hshape.1.2, hshape.2⟩

/-- The database has the character where map 2 has put it. -/
theorem stored_position_walked : ∃ w,
    (worldProcess 16 oneCharacter).ReachedBy (LeavesInPlace (.fill 7)) w ∧
      w.attempts.map (·.fate) = [.fine, .lost, .failed] ∧
      storedPlace (.fill 7) w.store.db = some (2, 5, 6) := by
  obtain ⟨w, hw, hcommitted, hfates, -⟩ := exists_walked
  have hplace := stored_position hw
  rw [hcommitted] at hplace
  exact ⟨w, hw, hfates, hplace⟩

/-! ### Coming to rest -/

/-- What the process does when no tick begins and nobody asks for anything. -/
def WorldAction.own : WorldAction → Bool
  | .service (.emit _) | .service .recv | .save _ | .persist .. => true
  | .service _ | .elsewhere _ => false

/-- What the task of a map has not sent yet. -/
def unsent (w : WorldProcess) (mapId : MapId) : ℕ :=
  match w.world.runtimes.lookup mapId with
  | some task => (task.mapInstance.outboundTx.length - task.sent) +
    (task.mapInstance.persistTx.length - w.saved mapId)
  | none => 0

/-- The work that is left: what is not sent yet has to be sent and to be received. -/
def WorldProcess.left (w : WorldProcess) : ℕ :=
  2 * ∑ mapId ∈ w.world.runtimes.keys, unsent w mapId + w.world.outboundRx.length +
    w.persistRx.length

lemma unsent_of_lookup {mapId : MapId} {task : MapTask}
    (h : w.world.runtimes.lookup mapId = some task) :
    unsent w mapId = (task.mapInstance.outboundTx.length - task.sent) +
      (task.mapInstance.persistTx.length - w.saved mapId) := by
  rw [unsent, h]

/-- A task that sends has one less to send, and the other tasks as much as before. -/
lemma sum_unsent {mapId : MapId} (hkeys : w'.world.runtimes.keys = w.world.runtimes.keys)
    (hin : mapId ∈ w.world.runtimes.keys) (hself : unsent w' mapId + 1 = unsent w mapId)
    (hothers : ∀ j, j ≠ mapId → unsent w' j = unsent w j) :
    ∑ j ∈ w'.world.runtimes.keys, unsent w' j + 1 = ∑ j ∈ w.world.runtimes.keys, unsent w j := by
  rw [hkeys]
  exact sum_add_one_eq hin hself fun j _ hne => hothers j hne

lemma left_emit {mapId : MapId} (hst : w.service commandBudget (.emit mapId) = some w') :
    w'.left < w.left := by
  obtain ⟨-, world, hemit, hw'⟩ := service_cases hst
  obtain ⟨task, htask, hevent⟩ := Option.bind_eq_some_iff.mp hemit
  obtain ⟨event, hnext, hsend⟩ := Option.bind_eq_some_iff.mp hevent
  obtain ⟨hlt, -⟩ := List.getElem?_eq_some_iff.mp hnext
  split at hsend
  · obtain rfl := Option.some.inj hsend
    have hruntimes : w'.world.runtimes =
        w.world.runtimes.insert mapId { task with sent := task.sent + 1 } := by
      rw [hw']
      rfl
    have hsaved : w'.saved = w.saved := by
      rw [hw']
      rfl
    have hrx : w'.world.outboundRx.length = w.world.outboundRx.length + 1 ∧
        w'.persistRx = w.persistRx := by
      rw [hw']
      exact ⟨List.length_append, rfl⟩
    have hkeys : w'.world.runtimes.keys = w.world.runtimes.keys := by
      rw [hruntimes]
      exact FMap.keys_insert_present htask _
    have hin : mapId ∈ w.world.runtimes.keys :=
      Finmap.mem_keys.mpr (Finmap.mem_of_lookup_eq_some htask)
    have hsum := sum_unsent hkeys hin
      (by
        have hlookup : w'.world.runtimes.lookup mapId =
            some { task with sent := task.sent + 1 } := by
          rw [hruntimes]
          exact Finmap.lookup_insert _
        rw [unsent_of_lookup hlookup, unsent_of_lookup htask, hsaved]
        dsimp only
        omega)
      (fun j hne => by
        rw [unsent, unsent, hruntimes, hsaved, FMap.lookup_insert_eq, if_neg hne])
    unfold WorldProcess.left
    rw [hrx.1, hrx.2]
    omega
  · cases hsend

lemma left_save {mapId : MapId} (hst : w.save mapId = some w') : w'.left < w.left := by
  obtain ⟨task, op, htask, hnext, -, hw'⟩ := save_cases hst
  obtain ⟨hlt, -⟩ := List.getElem?_eq_some_iff.mp hnext
  have hworld : w'.world = w.world := by rw [hw']
  have hsaved : w'.saved = Function.update w.saved mapId (w.saved mapId + 1) := by rw [hw']
  have hrx : w'.persistRx.length = w.persistRx.length + 1 := by
    rw [hw']
    exact List.length_append
  have hin : mapId ∈ w.world.runtimes.keys :=
    Finmap.mem_keys.mpr (Finmap.mem_of_lookup_eq_some htask)
  have hkeys : w'.world.runtimes.keys = w.world.runtimes.keys := by rw [hworld]
  have hsum := sum_unsent hkeys hin
    (by
      have hlookup : w'.world.runtimes.lookup mapId = some task := by rw [hworld, htask]
      rw [unsent_of_lookup hlookup, unsent_of_lookup htask, hsaved, Function.update_self]
      omega)
    (fun j hne => by rw [unsent, unsent, hworld, hsaved, Function.update_of_ne hne])
  unfold WorldProcess.left
  rw [hrx, hworld]
  rw [hworld] at hsum
  omega

lemma left_recv (hst : w.service commandBudget .recv = some w') : w'.left < w.left := by
  obtain ⟨-, world, hrecv, rfl⟩ := service_cases hst
  change w.world.recv = some world at hrecv
  unfold WorldService.recv at hrecv
  split at hrecv
  · cases hrecv
  · next event rest hrx =>
    obtain rfl := Option.some.inj hrecv
    have hsame : ∀ mapId, unsent { w with
        world := { w.world with
          outboundRx := rest
          seq := w.world.seq + 1
          recentOutbound := WorldService.popFront 256 (w.world.recentOutbound ++
            [⟨event.origin, outboundToRecord (w.world.seq + 1) event.value⟩]) }
        saved := w.savedAfter .recv
        retired := w.retiredAfter .recv } mapId = unsent w mapId := fun _ => rfl
    simp only [WorldProcess.left, hsame, hrx, List.length_cons]
    omega

lemma left_persist {fate : DbFate} {now : Time} (hst : w.persist fate now = some w') :
    w'.left < w.left := by
  obtain ⟨op, rest, hrx, attempt, -, rfl⟩ := persist_cases hst
  have hsame : ∀ mapId, unsent { w with
      persistRx := rest
      store := attempt.outcome.2
      persistenceErrorsTotal := w.persistenceErrorsTotal + if attempt.reported then 1 else 0
      attempts := w.attempts ++ [attempt] } mapId = unsent w mapId := fun _ => rfl
  simp only [WorldProcess.left, hsame, hrx, List.length_cons]
  omega

/-- All that the instances have told and persisted has arrived. -/
structure Arrived (w : WorldProcess) : Prop where
  sent : ∀ mapId task, w.world.runtimes.lookup mapId = some task →
    task.sent = task.mapInstance.outboundTx.length ∧
      w.saved mapId = task.mapInstance.persistTx.length
  rows : ∀ limit, collected w.world limit = (numbered w.world.emitted).rtake (clampLimit limit)
  tried : w.persisted = w.attempts.map (·.op)

/-- Where nothing is possible, everything has arrived: the receiving tasks wait for nothing but
their channels, whatever the database does, and so there is room to send. -/
lemma arrived_of_atRest (h : (worldProcess commandBudget store₀).Reached w)
    (hrest : (worldProcess commandBudget store₀).AtRest (fun a => a.own = true) w) :
    Arrived w := by
  have hpersistRx : w.persistRx = [] := by
    have hpersist : w.persist .fine 0 = none := hrest (.persist .fine 0) rfl
    unfold WorldProcess.persist at hpersist
    split at hpersist
    · next hrx => exact hrx
    · cases hpersist
  have houtboundRx : w.world.outboundRx = [] := by
    have hservice : w.service commandBudget .recv = none := hrest (.service .recv) rfl
    have hrecv : w.world.recv = none := step_eq_none rfl hservice
    unfold WorldService.recv at hrecv
    split at hrecv
    · next hrx => exact hrx
    · cases hrecv
  refine ⟨fun mapId task htask => ⟨?_, ?_⟩, fun limit => ?_, ?_⟩
  · have hservice : w.service commandBudget (.emit mapId) = none :=
      hrest (.service (.emit mapId)) rfl
    have hemit : w.world.emit mapId = none := step_eq_none rfl hservice
    have hle := (allOriginate_of_reached (feed_reached h) mapId task htask).sent_le
    by_contra hne
    have hnext := List.getElem?_eq_getElem (Nat.lt_of_le_of_ne hle hne)
    rw [WorldService.emit, htask, Option.bind_some, hnext, Option.bind_some, houtboundRx,
      if_pos (by decide)] at hemit
    cases hemit
  · have hsave : w.save mapId = none := hrest (.save mapId) rfl
    have hle : w.saved mapId ≤ task.mapInstance.persistTx.length := by
      have hmap := allSave_of_reached h mapId
      rw [htask] at hmap
      cases hmap with
      | active hle => exact hle
    by_contra hne
    have hnext := List.getElem?_eq_getElem (Nat.lt_of_le_of_ne hle hne)
    rw [WorldProcess.save, htask, Option.bind_some, hnext, Option.bind_some, hpersistRx,
      if_pos (by decide)] at hsave
    cases hsave
  · obtain ⟨received, hfed⟩ := fed_of_reached (feed_reached h)
    rw [collected_eq hfed, hfed.emitted, houtboundRx, List.append_nil]
  · rw [(replayed_of_reached h).fifo, hpersistRx, List.append_nil]

/-- **The world service comes to rest.** From every state that it reaches, left to itself and
whatever the database does meanwhile, the process takes two steps at most for each event and each
operation that is not sent and one for each that is in a channel; and where it can take no more, all
the tasks have sent everything, the feed shows the end of all that was told, and every operation
was tried. So no full channel ever stops a map for good. -/
theorem world_settles (h : (worldProcess commandBudget store₀).Reached w) :
    (worldProcess commandBudget store₀).Settles (fun a => a.own = true) Arrived w w.left := by
  refine System.settles ((worldProcess commandBudget store₀).Reached) WorldProcess.left ?_
    (fun d hd hrest => arrived_of_atRest hd hrest) h
  intro d a d' hd ha hst
  refine ⟨hd.step trivial hst, ?_⟩
  cases a with
  | service a =>
    cases a with
    | emit mapId => exact left_emit hst
    | recv => exact left_recv hst
    | activate mapId => cases ha
    | deactivate mapId => cases ha
    | incoming mapId command => cases ha
    | tick mapId iter => cases ha
  | save mapId => exact left_save hst
  | persist fate now => exact left_persist hst
  | elsewhere db => cases ha

/-- After a walk, what the tick has told arrives too. -/
theorem world_settles_walked : ∃ w, (worldProcess 16 oneCharacter).Reached w ∧
    ∃ as d, (worldProcess 16 oneCharacter).exec (fun _ a => a.own = true) w as = some d ∧
      as.length ≤ w.left ∧ Arrived d := by
  obtain ⟨w, hw, -⟩ := exists_walked
  have hsettles := world_settles hw.reached
  obtain ⟨as, d, hexec, -, harrived⟩ := hsettles.exists_done
  exact ⟨w, hw.reached, as, d, hexec, hsettles.bounded as d hexec, harrived⟩

end HelbreathBackend.SaveFeed
