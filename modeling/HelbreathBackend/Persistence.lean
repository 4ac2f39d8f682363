import HelbreathBackend.AdminPortal
import HelbreathBackend.AdminRepository
import HelbreathBackend.MapServer

/-!
What the map tasks persist.

Each operation is a transaction of two statements, the second of which records the operation among
the game events. The foreign keys of that record decide: an operation takes effect exactly when its
actor is a row of `characters` and its map one of `maps`, and otherwise nothing of it does.
-/

namespace HelbreathBackend.Persistence

open HelbreathBackend.Lib HelbreathBackend.Domain HelbreathBackend.Infrastructure
open HelbreathBackend.MapServer
open HelbreathBackend.AdminApi (DbFate)

structure InventoryRow where
  id : Uuid
  characterId : CharacterId
  version : Int64
  updatedAt : Time
  deriving DecidableEq

abbrev Inventories := Table InventoryRow (fun i => (i.id, i.characterId))
  fun k k' => k.1 = k'.1 ∨ k.2 = k'.2

structure GameEventRow where
  eventType : String
  actorCharacterId : CharacterId
  mapId : MapId
  payload : Json

structure CombatLogRow where
  attackerEntityId : Uuid
  defenderEntityId : Uuid
  damage : Int32
  payload : Json

/-- The database, with the tables that only the map tasks write to. -/
structure GameStore where
  db : Database
  inventories : Inventories
  gameEvents : List GameEventRow
  combatLogs : List CombatLogRow

inductive PersistError
  | database (err : DbError)
  /-- `version + 1` is no `BIGINT` -/
  | outOfRange
  deriving DecidableEq

namespace GameStore

variable (store : GameStore)

/-! ### Statements -/

def HasCharacter (characterId : CharacterId) : Prop :=
  ∃ c ∈ store.db.characters.rows, c.id = characterId

def HasMap (mapId : MapId) : Prop := ∃ m ∈ store.db.maps.rows, m.id = mapId

instance (characterId : CharacterId) : Decidable (store.HasCharacter characterId) :=
  inferInstanceAs (Decidable (∃ c ∈ store.db.characters.rows, c.id = characterId))

instance (mapId : MapId) : Decidable (store.HasMap mapId) :=
  inferInstanceAs (Decidable (∃ m ∈ store.db.maps.rows, m.id = mapId))

/-- `INSERT INTO game_events`: the actor references `characters` and the map `maps`. -/
def insertGameEvent (row : GameEventRow) : Except PersistError GameStore :=
  if store.HasCharacter row.actorCharacterId ∧ store.HasMap row.mapId then
    .ok { store with gameEvents := store.gameEvents ++ [row] }
  else .error (.database .foreignKeyViolation)

/-- `UPDATE characters SET map_id, pos_x, pos_y`: the map references `maps`. -/
def updatePosition (now : Time) (characterId : CharacterId) (mapId : MapId) (x y : Int32) :
    Except PersistError GameStore :=
  match store.db.moveCharacter now characterId mapId x y with
  | .ok db => .ok { store with db := db }
  | .error err => .error (.database err)

/-- The inventory of the character, which can not take another version. -/
def fullInventory (characterId : CharacterId) (i : InventoryRow) : Bool :=
  i.characterId == characterId && i.version == Int64.maxValue

/-- `UPDATE inventories SET version = version + 1` -/
def updateInventory (now : Time) (characterId : CharacterId) : Except PersistError GameStore :=
  if store.inventories.rows.any (fullInventory characterId) then .error .outOfRange
  else .ok { store with
    inventories := store.inventories.update (fun i => i.characterId == characterId)
      (fun i => { i with version := i.version + 1, updatedAt := now }) fun _ => rfl }

/-- `INSERT INTO combat_logs`: nothing is referenced. -/
def insertCombatLog (row : CombatLogRow) : GameStore :=
  { store with combatLogs := store.combatLogs ++ [row] }

end GameStore

/-! ### Transactions -/

def persistPositionSnapshot (now : Time) (characterId : CharacterId) (mapId : MapId) (x y : Int32)
    (store : GameStore) : Except PersistError GameStore := do
  let store ← store.updatePosition now characterId mapId x y
  store.insertGameEvent ⟨"character.position", characterId, mapId,
    .obj [("x", .num x.toInt), ("y", .num y.toInt), ("source", .str "map_tick")]⟩

def persistInventoryEvent (now : Time) (characterId : CharacterId) (mapId : MapId)
    (reason : String) (store : GameStore) : Except PersistError GameStore := do
  let store ← store.updateInventory now characterId
  store.insertGameEvent ⟨"inventory.change", characterId, mapId,
    .obj [("reason", .str reason), ("source", .str "map_tick")]⟩

def persistCombatEvent (attackerCharacterId defenderCharacterId : CharacterId) (mapId : MapId)
    (damage : Int32) (store : GameStore) : Except PersistError GameStore :=
  let store := store.insertCombatLog ⟨attackerCharacterId, defenderCharacterId, damage,
    .obj [("source", .str "map_tick")]⟩
  store.insertGameEvent ⟨"combat.hit", attackerCharacterId, mapId,
    .obj [("defender_character_id", .str defenderCharacterId.format),
      ("damage", .num damage.toInt)]⟩

/-- The statements of `persist_map_op`, which are one transaction. -/
def statements (now : Time) : PersistOp → GameStore → Except PersistError GameStore
  | .saveCharacterPosition characterId mapId x y =>
    persistPositionSnapshot now characterId mapId x y
  | .saveInventoryChange characterId mapId reason =>
    persistInventoryEvent now characterId mapId reason
  | .saveCombatLog attacker defender mapId damage =>
    persistCombatEvent attacker defender mapId damage

/-- What the caller is told, and the database afterwards: a statement that fails, or a database
that can not be reached, takes the transaction back. -/
def persistMapOp (fate : DbFate) (now : Time) (op : PersistOp) (store : GameStore) :
    Except PersistError Unit × GameStore :=
  match statements now op store with
  | .error err => (.error (if fate = .failed then .database .unavailable else err), store)
  | .ok store' =>
    match fate with
    | .fine => (.ok (), store')
    | .failed => (.error (.database .unavailable), store)
    | .lost => (.error (.database .unavailable), store')

/-! ### What an operation comes to -/

/-- The character whose operation it is. -/
def actor : PersistOp → CharacterId
  | .saveCharacterPosition characterId .. | .saveInventoryChange characterId .. => characterId
  | .saveCombatLog attacker .. => attacker

def mapOf : PersistOp → MapId
  | .saveCharacterPosition _ mapId .. | .saveInventoryChange _ mapId _
  | .saveCombatLog _ _ mapId _ => mapId

/-- The record of an operation among the game events. -/
def eventOf (op : PersistOp) : GameEventRow :=
  match op with
  | .saveCharacterPosition _ _ x y => ⟨"character.position", actor op, mapOf op,
    .obj [("x", .num x.toInt), ("y", .num y.toInt), ("source", .str "map_tick")]⟩
  | .saveInventoryChange _ _ reason => ⟨"inventory.change", actor op, mapOf op,
    .obj [("reason", .str reason), ("source", .str "map_tick")]⟩
  | .saveCombatLog _ defender _ damage => ⟨"combat.hit", actor op, mapOf op,
    .obj [("defender_character_id", .str defender.format), ("damage", .num damage.toInt)]⟩

/-- The combat log of a hit. -/
def combatLogOf : PersistOp → Option CombatLogRow
  | .saveCombatLog attacker defender _ damage =>
    some ⟨attacker, defender, damage, .obj [("source", .str "map_tick")]⟩
  | _ => none

/-- The character whose inventory an operation changes. -/
def inventoryOf : PersistOp → Option CharacterId
  | .saveInventoryChange characterId .. => some characterId
  | _ => none

/-- The database can take the operation. -/
structure Storable (op : PersistOp) (store : GameStore) : Prop where
  actor : store.HasCharacter (actor op)
  map : store.HasMap (mapOf op)
  inventory : ∀ characterId ∈ inventoryOf op, ∀ i ∈ store.inventories.rows,
    i.characterId = characterId → i.version ≠ Int64.maxValue

lemma storable_iff {op : PersistOp} {store : GameStore} : Storable op store ↔
    store.HasCharacter (actor op) ∧ store.HasMap (mapOf op) ∧
      ∀ characterId ∈ inventoryOf op, ∀ i ∈ store.inventories.rows,
        i.characterId = characterId → i.version ≠ Int64.maxValue :=
  ⟨fun h => ⟨h.actor, h.map, h.inventory⟩, fun h => ⟨h.1, h.2.1, h.2.2⟩⟩

instance (op : PersistOp) (store : GameStore) : Decidable (Storable op store) :=
  decidable_of_iff' _ storable_iff

/-- Where a position operation puts its character. -/
def placedBy : PersistOp → Option (CharacterId × MapId × Int32 × Int32)
  | .saveCharacterPosition characterId mapId x y => some (characterId, mapId, x, y)
  | _ => none

/-- The rows of the characters after an operation. -/
def movedRow (now : Time) (op : PersistOp) (c : CharacterRow) : CharacterRow :=
  match placedBy op with
  | some (characterId, mapId, x, y) =>
    if c.id = characterId then { c with mapId := mapId, posX := x, posY := y, updatedAt := now }
    else c
  | none => c

/-- The rows of the inventories after an operation. -/
def changedRow (now : Time) (op : PersistOp) (i : InventoryRow) : InventoryRow :=
  if inventoryOf op = some i.characterId then
    { i with version := i.version + 1, updatedAt := now }
  else i

/-- All that an operation does. -/
structure Stored (now : Time) (op : PersistOp) (store store' : GameStore) : Prop where
  characters : store'.db.characters.rows = store.db.characters.rows.map (movedRow now op)
  otherTables : { store'.db with characters := store.db.characters } = store.db
  inventories : store'.inventories.rows = store.inventories.rows.map (changedRow now op)
  gameEvents : store'.gameEvents = store.gameEvents ++ [eventOf op]
  combatLogs : store'.combatLogs = store.combatLogs ++ (combatLogOf op).toList

/-- The record decides: without its actor or its map there is none. -/
lemma insertGameEvent_error {store : GameStore} {row : GameEventRow}
    (h : ¬ (store.HasCharacter row.actorCharacterId ∧ store.HasMap row.mapId)) :
    store.insertGameEvent row = .error (.database .foreignKeyViolation) := if_neg h

lemma insertGameEvent_ok {store : GameStore} {row : GameEventRow}
    (hactor : store.HasCharacter row.actorCharacterId) (hmap : store.HasMap row.mapId) :
    store.insertGameEvent row = .ok { store with gameEvents := store.gameEvents ++ [row] } :=
  if_pos ⟨hactor, hmap⟩

/-- An update of the characters leaves all of them there. -/
lemma hasCharacter_of_updatePosition {store store' : GameStore} {now : Time}
    {characterId : CharacterId} {mapId : MapId} {x y : Int32}
    (h : store.updatePosition now characterId mapId x y = .ok store') :
    (∀ c, store'.HasCharacter c ↔ store.HasCharacter c) ∧
      ∀ m, store'.HasMap m ↔ store.HasMap m := by
  unfold GameStore.updatePosition Database.moveCharacter at h
  split at h
  · next db hmove =>
    split at hmove
    · cases hmove
    · obtain rfl := Except.ok.inj hmove
      obtain rfl := Except.ok.inj h
      refine ⟨fun c => ?_, fun m => Iff.rfl⟩
      refine Table.exists_updated_iff.trans (exists_congr fun row => and_congr_right fun _ => ?_)
      cases row.id == characterId <;> simp
  · cases h

lemma updatePosition_of_hasMap {store : GameStore} {mapId : MapId} (hmap : store.HasMap mapId)
    (now : Time) (characterId : CharacterId) (x y : Int32) :
    store.updatePosition now characterId mapId x y = .ok { store with db := { store.db with
      characters := store.db.characters.update (fun c => c.id == characterId)
        (fun c => { c with mapId := mapId, posX := x, posY := y, updatedAt := now })
        fun _ => rfl } } := by
  unfold GameStore.updatePosition Database.moveCharacter
  rw [if_neg fun h => h.2 hmap]

lemma movedRow_saveCharacterPosition (now : Time) (characterId : CharacterId) (mapId : MapId)
    (x y : Int32) : (fun c : CharacterRow => if (c.id == characterId) = true then
        { c with mapId := mapId, posX := x, posY := y, updatedAt := now } else c) =
      movedRow now (.saveCharacterPosition characterId mapId x y) := by
  funext c
  simp [movedRow, placedBy]

lemma changedRow_saveInventoryChange (now : Time) (characterId : CharacterId) (mapId : MapId)
    (reason : String) : (fun i : InventoryRow => if (i.characterId == characterId) = true then
        { i with version := i.version + 1, updatedAt := now } else i) =
      changedRow now (.saveInventoryChange characterId mapId reason) := by
  funext i
  simp only [changedRow, inventoryOf, Option.some.injEq, beq_iff_eq]
  simp only [eq_comm]

lemma movedRow_of_not_placed {op : PersistOp} (h : placedBy op = none) (now : Time) :
    movedRow now op = id := by
  funext c
  rw [movedRow, h]
  rfl

lemma changedRow_of_no_inventory {op : PersistOp} (h : inventoryOf op = none) (now : Time) :
    changedRow now op = id := by
  funext i
  rw [changedRow, h, if_neg nofun]
  rfl

/-- **An operation takes effect as a whole**, if the database can take it. -/
theorem statements_of_storable {op : PersistOp} {store : GameStore} (h : Storable op store)
    (now : Time) : ∃ store', statements now op store = .ok store' ∧ Stored now op store store' := by
  cases op with
  | saveCharacterPosition characterId mapId x y =>
    let moved : GameStore := { store with db := { store.db with
      characters := store.db.characters.update (fun c => c.id == characterId)
        (fun c => { c with mapId := mapId, posX := x, posY := y, updatedAt := now })
        fun _ => rfl } }
    have hupdate : store.updatePosition now characterId mapId x y = .ok moved :=
      updatePosition_of_hasMap h.map now characterId x y
    obtain ⟨hcharacters, hmaps⟩ := hasCharacter_of_updatePosition hupdate
    refine ⟨{ moved with gameEvents := store.gameEvents ++
      [eventOf (.saveCharacterPosition characterId mapId x y)] }, ?_, ?_⟩
    · rw [statements, persistPositionSnapshot, hupdate]
      exact insertGameEvent_ok ((hcharacters _).mpr h.actor) ((hmaps _).mpr h.map)
    · exact ⟨congrArg (fun f => store.db.characters.rows.map f)
        (movedRow_saveCharacterPosition now characterId mapId x y), rfl,
        by rw [changedRow_of_no_inventory rfl, List.map_id], rfl, (List.append_nil _).symm⟩
  | saveInventoryChange characterId mapId reason =>
    let changed : GameStore := { store with
      inventories := store.inventories.update (fun i => i.characterId == characterId)
        (fun i => { i with version := i.version + 1, updatedAt := now }) fun _ => rfl }
    have hupdate : store.updateInventory now characterId = .ok changed := by
      refine if_neg fun hfull => ?_
      obtain ⟨i, hi, hfull⟩ := List.any_eq_true.mp hfull
      rw [GameStore.fullInventory, Bool.and_eq_true, beq_iff_eq, beq_iff_eq] at hfull
      exact h.inventory characterId rfl i hi hfull.1 hfull.2
    refine ⟨{ changed with gameEvents := store.gameEvents ++
      [eventOf (.saveInventoryChange characterId mapId reason)] }, ?_, ?_⟩
    · rw [statements, persistInventoryEvent, hupdate]
      exact insertGameEvent_ok h.actor h.map
    · exact ⟨by rw [movedRow_of_not_placed rfl, List.map_id], rfl,
        congrArg (fun f => store.inventories.rows.map f)
          (changedRow_saveInventoryChange now characterId mapId reason), rfl,
        (List.append_nil _).symm⟩
  | saveCombatLog attacker defender mapId damage =>
    refine ⟨_, insertGameEvent_ok h.actor h.map, ?_⟩
    exact ⟨by rw [movedRow_of_not_placed rfl, List.map_id]; rfl, rfl,
      by rw [changedRow_of_no_inventory rfl, List.map_id]; rfl, rfl, rfl⟩

/-- An operation that the database can not take fails. -/
lemma statements_of_not_storable {op : PersistOp} {store : GameStore} (h : ¬ Storable op store)
    (now : Time) : ∃ err, statements now op store = .error err := by
  cases op with
  | saveCharacterPosition characterId mapId x y =>
    rcases hupdate : store.updatePosition now characterId mapId x y with err | store'
    · exact ⟨err, by rw [statements, persistPositionSnapshot, hupdate]; rfl⟩
    · obtain ⟨hcharacters, hmaps⟩ := hasCharacter_of_updatePosition hupdate
      refine ⟨.database .foreignKeyViolation, ?_⟩
      rw [statements, persistPositionSnapshot, hupdate]
      refine insertGameEvent_error fun hboth => h ⟨?_, ?_, fun c hc => by cases hc⟩
      · exact (hcharacters characterId).mp hboth.1
      · exact (hmaps mapId).mp hboth.2
  | saveInventoryChange characterId mapId reason =>
    by_cases hfull : store.inventories.rows.any (GameStore.fullInventory characterId) = true
    · refine ⟨.outOfRange, ?_⟩
      rw [statements, persistInventoryEvent, GameStore.updateInventory, if_pos hfull]
      rfl
    · refine ⟨.database .foreignKeyViolation, ?_⟩
      rw [statements, persistInventoryEvent, GameStore.updateInventory, if_neg hfull]
      refine insertGameEvent_error fun hboth => h ⟨hboth.1, hboth.2, fun c hc i hi hown => ?_⟩
      obtain rfl : characterId = c := Option.some.inj hc
      intro hmax
      refine hfull (List.any_eq_true.mpr ⟨i, hi, ?_⟩)
      rw [GameStore.fullInventory, hown, hmax]
      simp
  | saveCombatLog attacker defender mapId damage =>
    refine ⟨.database .foreignKeyViolation, insertGameEvent_error fun hboth => h ?_⟩
    exact ⟨hboth.1, hboth.2, fun c hc => by cases hc⟩

/-- **What becomes of an operation**: it takes effect exactly when the database can take it and does
not fail; and who asked for it is told of an error exactly when it does not take effect or the
answer is lost. -/
theorem persistMapOp_cases (fate : DbFate) (now : Time) (op : PersistOp) (store : GameStore) :
    (fate ≠ .failed ∧ Storable op store ∧
      Stored now op store (persistMapOp fate now op store).2 ∧
      ((persistMapOp fate now op store).1 = .ok () ↔ fate = .fine)) ∨
    ((fate = .failed ∨ ¬ Storable op store) ∧ (persistMapOp fate now op store).2 = store ∧
      (persistMapOp fate now op store).1 ≠ .ok ()) := by
  by_cases h : Storable op store
  · obtain ⟨store', hok, hstored⟩ := statements_of_storable h now
    unfold persistMapOp
    rw [hok]
    cases fate with
    | fine => exact .inl ⟨by simp, h, hstored, by simp⟩
    | failed => exact .inr ⟨.inl rfl, rfl, by simp⟩
    | lost => exact .inl ⟨by simp, h, hstored, by simp⟩
  · obtain ⟨err, herr⟩ := statements_of_not_storable h now
    refine .inr ⟨.inr h, ?_, ?_⟩
    · unfold persistMapOp
      rw [herr]
    · unfold persistMapOp
      rw [herr]
      simp

end HelbreathBackend.Persistence
