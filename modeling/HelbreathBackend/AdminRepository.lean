import HelbreathBackend.Infrastructure

/-!
The statements of the administration repository.
-/

namespace HelbreathBackend.Infrastructure

open HelbreathBackend.Lib HelbreathBackend.Domain

structure AdminAuditInsert where
  adminUserId : Uuid
  actionType : String
  targetType : String
  targetId : String
  payload : Json
  requestId : Option String
  ipAddress : Option String

structure CreateSanctionInput where
  accountId : Option AccountId
  characterId : Option CharacterId
  sanctionType : String
  reason : String
  startsAt : Time
  endsAt : Option Time
  issuedByAdminId : Option Uuid

namespace Database

variable (db : Database)

/-! ### Audit -/

section Inet

-- `::inet`
variable (inet : String → Option String)

/-- The values of the columns of a row of the audit log. Its texts are held against the lengths of
the columns only. -/
def auditRow (now : Time) (newId : Uuid) (record : AdminAuditInsert) :
    Except DbError AdminAuditRow := do
  let actionType ← fitLength 64 record.actionType
  let targetType ← fitLength 64 record.targetType
  let targetId ← fitLength 128 record.targetId
  let requestId ← match record.requestId with
    | none => .ok none
    | some text => (fitLength 64 text).map some
  let ipAddress ← match record.ipAddress with
    | none => .ok none
    | some text => match inet text with
      | some ip => .ok (some ip)
      | none => .error .invalidText
  .ok ⟨newId, some record.adminUserId, actionType, targetType, targetId, requestId, record.payload,
    ipAddress, now⟩

def insertAdminAudit (now : Time) (newId : Uuid) (record : AdminAuditInsert) :
    Except DbError Database := do
  let row ← auditRow inet now newId record
  let some logs := db.adminAuditLogs.insert row | .error .uniqueViolation
  if ¬ ∃ u ∈ db.adminUsers.rows, u.id = record.adminUserId then .error .foreignKeyViolation
  else .ok { db with adminAuditLogs := logs }

/-- An insertion into the log changes nothing else. -/
lemma others_insertAdminAudit {db db' : Database} {now : Time} {newId : Uuid}
    {record : AdminAuditInsert} (h : db.insertAdminAudit inet now newId record = .ok db') :
    ∃ logs, db' = { db with adminAuditLogs := logs } := by
  simp only [insertAdminAudit, bind, Except.bind] at h
  split at h
  · cases h
  · split at h
    · split at h
      · cases h
      · cases h
        exact ⟨_, rfl⟩
    · cases h

end Inet

/-! ### Sanctions -/

/-- A new row has the column default `'active'`. -/
def sanctionRow (now : Time) (newId : Uuid) (input : CreateSanctionInput) :
    Except DbError SanctionRow := do
  let sanctionType ← varchar 32 input.sanctionType
  let reason ← encoded input.reason
  .ok ⟨newId, input.accountId, input.characterId, sanctionType, reason, input.startsAt,
    input.endsAt, input.issuedByAdminId, "active", now⟩

lemma eq_of_sanctionRow {now : Time} {newId : Uuid} {input : CreateSanctionInput} {row : SanctionRow}
    (htype : varchar 32 input.sanctionType = .ok input.sanctionType)
    (h : sanctionRow now newId input = .ok row) :
    row = ⟨newId, input.accountId, input.characterId, input.sanctionType, input.reason,
      input.startsAt, input.endsAt, input.issuedByAdminId, "active", now⟩ := by
  rw [sanctionRow, htype] at h
  rcases hreason : encoded input.reason with err | reason
  · rw [hreason] at h
    cases h
  · rw [hreason] at h
    obtain ⟨-, rfl⟩ := encoded_eq_ok_iff.mp hreason
    cases h
    rfl

def createSanction (now : Time) (newId : Uuid) (input : CreateSanctionInput) :
    Except DbError Database := do
  let row ← sanctionRow now newId input
  let some sanctions := db.sanctions.insert row | .error .uniqueViolation
  if (∀ id ∈ input.accountId, ∃ a ∈ db.accounts.rows, a.id = id) ∧
      (∀ id ∈ input.characterId, ∃ c ∈ db.characters.rows, c.id = id) then
    .ok { db with sanctions := sanctions }
  else .error .foreignKeyViolation

/-- What creating a sanction changes. -/
lemma of_createSanction {db db' : Database} {now : Time} {newId : Uuid}
    {input : CreateSanctionInput} (h : db.createSanction now newId input = .ok db') :
    ∃ row sanctions, sanctionRow now newId input = .ok row ∧
      db.sanctions.insert row = some sanctions ∧ db' = { db with sanctions := sanctions } := by
  simp only [createSanction, bind, Except.bind] at h
  split at h
  · cases h
  · next row hrow =>
    split at h
    · next sanctions hins =>
      split at h
      · cases h
        exact ⟨row, sanctions, hrow, hins, rfl⟩
      · cases h
    · cases h

def listAccountSanctions (accountId : AccountId) (limit : ℕ) : List SanctionRow :=
  ((db.sanctions.rows.filter fun s => s.accountId == some accountId).mergeSort
    fun a b => b.createdAt ≤ a.createdAt).take limit

/-! ### Characters -/

def moveCharacter (now : Time) (characterId : CharacterId) (mapId : MapId) (x y : Int32) :
    Except DbError Database :=
  if (∃ c ∈ db.characters.rows, c.id = characterId) ∧ ¬ ∃ m ∈ db.maps.rows, m.id = mapId then
    .error .foreignKeyViolation
  else .ok { db with
    characters := db.characters.update (fun c => c.id == characterId)
      (fun c => { c with mapId := mapId, posX := x, posY := y, updatedAt := now }) fun _ => rfl }

/-! ### Maps -/

def listMaps : List MapRow := db.maps.rows.mergeSort fun a b => a.id ≤ b.id

/-- A row of `map_instances` that `list_active_map_ids` looks for. -/
def activeInstance (mapId : MapId) (i : MapInstanceRow) : Bool :=
  i.mapId == mapId && i.status == "active" && i.stoppedAt.isNone

/-- The active flag of a map in the registry. -/
def isRegistered (mapId : MapId) : Bool := db.mapInstances.rows.any (activeInstance mapId)

def listActiveMapIds : List MapId :=
  (((db.mapInstances.rows.filter fun i => activeInstance i.mapId i).map (·.mapId)).dedup).mergeSort
    fun a b => a ≤ b

/-- `SELECT EXISTS(..)`, with which `activate_map` and `deactivate_map` begin. -/
def mapExists (mapId : MapId) : Bool := db.maps.rows.any fun m => m.id == mapId

/-- The statement `activate_map` ends with. -/
def activateInstance (now : Time) (newId : Uuid) (mapId : MapId) : Except DbError Database :=
  if ∃ i ∈ db.mapInstances.rows, i.mapId = mapId ∧ i.shardCode = "default" then
    .ok { db with
      mapInstances := db.mapInstances.update (fun i => i.mapId == mapId && i.shardCode == "default")
        (fun i => { i with
          status := "active"
          startedAt := if i.status = "active" then i.startedAt else now
          stoppedAt := none }) fun _ => rfl }
  else
    match db.mapInstances.insert ⟨newId, mapId, "default", "active", now, none⟩ with
    | none => .error .uniqueViolation
    | some instances =>
      if db.mapExists mapId then .ok { db with mapInstances := instances }
      else .error .foreignKeyViolation

/-- The statement `deactivate_map` ends with. -/
def stopInstances (now : Time) (mapId : MapId) : Database :=
  { db with
    mapInstances := db.mapInstances.update (fun i => i.mapId == mapId && i.status == "active")
      (fun i => { i with status := "stopped", stoppedAt := some (i.stoppedAt.getD now) })
      fun _ => rfl }

end Database

end HelbreathBackend.Infrastructure
