import HelbreathBackend.Domain
import HelbreathBackend.Lib.Table
import Mathlib.Data.Int.Notation

/-!
The database, and the statements of the account repository.

Of the database the model has the rows and the constraints of the migrations: the uniqueness
constraints are carried by the tables, the foreign keys and the lengths of the columns are
checked by the statements that write, and so is that U+0000 is in no text. A statement is
atomic: one that fails leaves the database as it was. The clock and the generated identifiers
are arguments.

What `::inet` makes of a text is a parameter.
-/

namespace HelbreathBackend.Infrastructure

open HelbreathBackend.Lib HelbreathBackend.Domain

/-- Microseconds. -/
abbrev Time := ℤ

inductive DbError
  | unavailable
  | uniqueViolation
  | foreignKeyViolation
  | valueTooLong
  | invalidText
  deriving DecidableEq

inductive RepoError
  | database (err : DbError)
  | message (text : String)
  deriving DecidableEq

/-- What the server makes of a text that comes with a statement: U+0000 is in no text of its
encoding. -/
def encoded (text : String) : Except DbError String :=
  if Char.ofNat 0 ∈ text.toList then .error .invalidText else .ok text

/-- What the length of a column of type `VARCHAR(n)` makes of a text: one that is too long is
refused, unless all that is too much are blanks, which are cut off. -/
def fitLength (n : ℕ) (text : String) : Except DbError String :=
  if text.length ≤ n then .ok text
  else if (text.toList.drop n).all (· == ' ') then .ok (String.ofList (text.toList.take n))
  else .error .valueTooLong

/-- What a column of type `VARCHAR(n)` makes of a text that comes with a statement. -/
def varchar (n : ℕ) (text : String) : Except DbError String := do
  let text ← encoded text
  fitLength n text

lemma encoded_eq_ok_iff {text text' : String} :
    encoded text = .ok text' ↔ Char.ofNat 0 ∉ text.toList ∧ text = text' := by
  unfold encoded
  split
  · next h => exact iff_of_false (fun he => by cases he) fun he => he.1 h
  · next h => simp [h]

lemma varchar_eq_ok_iff {n : ℕ} {text cut : String} :
    varchar n text = .ok cut ↔ Char.ofNat 0 ∉ text.toList ∧ fitLength n text = .ok cut := by
  unfold varchar encoded
  split
  · next h => exact iff_of_false (fun he => by cases he) fun he => he.1 h
  · next h => exact (and_iff_right h).symm

lemma fitLength_of_le {n : ℕ} {text : String} (h : text.length ≤ n) :
    fitLength n text = .ok text :=
  if_pos h

lemma length_le_of_fitLength {n : ℕ} {text cut : String} (h : fitLength n text = .ok cut) :
    cut.length ≤ n := by
  unfold fitLength at h
  split at h
  · next hle =>
    cases h
    exact hle
  · split at h
    · cases h
      rw [String.length_ofList, List.length_take]
      exact Nat.min_le_left _ _
    · cases h

/-! ### Accounts -/

inductive AccountStatus
  | active
  | suspended
  | banned
  deriving DecidableEq

structure AccountRow where
  id : AccountId
  username : String
  email : Option String
  passwordHash : String
  status : String
  deriving DecidableEq

def AccountRow.key (a : AccountRow) : AccountId × String × Option String :=
  (a.id, a.username, a.email)

/-- `PRIMARY KEY`, `UNIQUE (username)`, `UNIQUE (email)`: two missing emails do not clash. -/
def accountClash (k k' : AccountId × String × Option String) : Prop :=
  k.1 = k'.1 ∨ k.2.1 = k'.2.1 ∨ (k.2.2.isSome ∧ k.2.2 = k'.2.2)

instance : DecidableRel accountClash := fun k k' =>
  inferInstanceAs (Decidable (k.1 = k'.1 ∨ k.2.1 = k'.2.1 ∨ (k.2.2.isSome ∧ k.2.2 = k'.2.2)))

abbrev Accounts := Table AccountRow AccountRow.key accountClash

/-! ### Characters -/

structure CharacterRow where
  id : CharacterId
  accountId : AccountId
  name : String
  slot : ℕ
  classCode : String
  gender : Int16
  skinColor : Int16
  hairStyle : Int16
  hairColor : Int16
  underwearColor : Int16
  level : Int32
  exp : Int64
  mapId : MapId
  posX : Int32
  posY : Int32
  hp : Int32
  mp : Int32
  sp : Int32
  stats : Int16 × Int16 × Int16 × Int16 × Int16 × Int16
  isDeleted : Bool
  createdAt : Time
  updatedAt : Time
  deriving DecidableEq

structure CharacterKey where
  id : CharacterId
  name : String
  accountId : AccountId
  slot : ℕ
  deriving DecidableEq

def CharacterRow.key (c : CharacterRow) : CharacterKey := ⟨c.id, c.name, c.accountId, c.slot⟩

/-- `PRIMARY KEY`, `UNIQUE (name)`, `UNIQUE (account_id, slot)`: whether a row is deleted does
not matter. -/
def characterClash (k k' : CharacterKey) : Prop :=
  k.id = k'.id ∨ k.name = k'.name ∨ (k.accountId = k'.accountId ∧ k.slot = k'.slot)

instance : DecidableRel characterClash := fun k k' => inferInstanceAs (Decidable
  (k.id = k'.id ∨ k.name = k'.name ∨ (k.accountId = k'.accountId ∧ k.slot = k'.slot)))

abbrev Characters := Table CharacterRow CharacterRow.key characterClash

/-! ### Sessions -/

structure SessionRow where
  id : SessionId
  accountId : Option AccountId
  characterId : Option CharacterId
  gatewayNode : String
  remoteIp : Option String
  state : String
  issuedAt : Time
  lastSeenAt : Option Time
  expiresAt : Time
  closedAt : Option Time
  deriving DecidableEq

abbrev Sessions := Table SessionRow SessionRow.id (· = ·)

/-! ### Maps and sanctions -/

structure MapRow where
  id : MapId
  code : String
  name : String
  defaultSpawnX : Int32
  defaultSpawnY : Int32
  tickMs : Int32
  deriving DecidableEq

abbrev Maps := Table MapRow (fun m => (m.id, m.code)) fun k k' => k.1 = k'.1 ∨ k.2 = k'.2

structure SanctionRow where
  id : Uuid
  accountId : Option AccountId
  characterId : Option CharacterId
  sanctionType : String
  reason : String
  startsAt : Time
  endsAt : Option Time
  issuedByAdminId : Option Uuid
  status : String
  createdAt : Time
  deriving DecidableEq

abbrev Sanctions := Table SanctionRow SanctionRow.id (· = ·)

structure MapInstanceRow where
  id : Uuid
  mapId : MapId
  shardCode : String
  status : String
  startedAt : Time
  stoppedAt : Option Time
  deriving DecidableEq

abbrev MapInstances := Table MapInstanceRow (fun i => (i.id, i.mapId, i.shardCode))
  fun k k' => k.1 = k'.1 ∨ k.2 = k'.2

/-! ### Administrators -/

/-- A `serde_json` value. -/
inductive Json
  | null
  | bool (b : Bool)
  | num (n : ℤ)
  | str (text : String)
  | arr (items : List Json)
  | obj (fields : List (String × Json))

structure AdminUserRow where
  id : Uuid
  email : String
  passwordHash : String
  status : String
  deriving DecidableEq

abbrev AdminUsers := Table AdminUserRow (fun u => (u.id, u.email))
  fun k k' => k.1 = k'.1 ∨ k.2 = k'.2

structure AdminRoleRow where
  id : Uuid
  code : String
  deriving DecidableEq

abbrev AdminRoles := Table AdminRoleRow (fun r => (r.id, r.code))
  fun k k' => k.1 = k'.1 ∨ k.2 = k'.2

structure AdminUserRoleRow where
  adminUserId : Uuid
  roleId : Uuid
  deriving DecidableEq

abbrev AdminUserRoles := Table AdminUserRoleRow id (· = ·)

structure AdminAuditRow where
  id : Uuid
  adminUserId : Option Uuid
  actionType : String
  targetType : String
  targetId : String
  requestId : Option String
  payload : Json
  ipAddress : Option String
  createdAt : Time

abbrev AdminAuditLogs := Table AdminAuditRow AdminAuditRow.id (· = ·)

structure Database where
  accounts : Accounts
  characters : Characters
  sessions : Sessions
  maps : Maps
  mapInstances : MapInstances
  sanctions : Sanctions
  adminUsers : AdminUsers
  adminRoles : AdminRoles
  adminUserRoles : AdminUserRoles
  adminAuditLogs : AdminAuditLogs

namespace Database

variable (db : Database)

/-! ### Statements on accounts -/

structure AccountAuthRecord where
  id : AccountId
  username : String
  passwordHash : String
  status : AccountStatus
  deriving DecidableEq

def accountStatusOf : String → AccountStatus
  | "active" => .active
  | "suspended" => .suspended
  | _ => .banned

def AccountStatus.code : AccountStatus → String
  | .active => "active"
  | .suspended => "suspended"
  | .banned => "banned"

def findAccountForLogin (username : String) : Option AccountAuthRecord :=
  (db.accounts.rows.find? fun a => a.username == username).map fun a =>
    ⟨a.id, a.username, a.passwordHash, accountStatusOf a.status⟩

def setAccountStatus (accountId : AccountId) (status : AccountStatus) : Database :=
  { db with
    accounts := db.accounts.update (fun a => a.id == accountId)
      (fun a => { a with status := AccountStatus.code status }) fun _ => rfl }

/-! ### Statements on sessions -/

section Inet

-- `::inet`
variable (inet : String → Option String)

/-- What `DO UPDATE` sets; `character_id` is not among it. -/
def authenticated (accountId : AccountId) (node ip : String) (expiresAt : Time) (s : SessionRow) :
    SessionRow :=
  { s with
    accountId := some accountId, gatewayNode := node, remoteIp := some ip
    state := "authenticated", expiresAt := expiresAt, closedAt := none }

/-- `INSERT .. ON CONFLICT (id) DO UPDATE`. -/
def upsertSession (now : Time) (sessionId : SessionId) (accountId : AccountId)
    (gatewayNode remoteIp : String) (expiresAt : Time) : Except DbError Database := do
  let some ip := inet remoteIp | .error .invalidText
  let node ← varchar 64 gatewayNode
  if ¬ ∃ a ∈ db.accounts.rows, a.id = accountId then .error .foreignKeyViolation
  else if ∃ s ∈ db.sessions.rows, s.id = sessionId then
    .ok { db with
      sessions := db.sessions.update (fun s => s.id == sessionId)
        (authenticated accountId node ip expiresAt) fun _ => rfl }
  else
    match db.sessions.insert ⟨sessionId, some accountId, none, node, some ip, "authenticated", now,
      none, expiresAt, none⟩ with
    | some sessions => .ok { db with sessions := sessions }
    | none => .error .uniqueViolation

variable {inet} {db} {now : Time} {sessionId : SessionId} {accountId : AccountId}
  {gatewayNode remoteIp : String} {expiresAt : Time} {db' : Database}

/-- What the sessions are after an upsert that succeeds. -/
structure Upserted (db : Database) (now : Time) (sessionId : SessionId) (accountId : AccountId)
    (node ip : String) (expiresAt : Time) (db' : Database) : Prop where
  others : ∃ sessions, db' = { db with sessions := sessions }
  known : (∃ s ∈ db.sessions.rows, s.id = sessionId) →
    db'.sessions.rows = db.sessions.rows.map fun s =>
      if s.id == sessionId then authenticated accountId node ip expiresAt s else s
  new : (¬ ∃ s ∈ db.sessions.rows, s.id = sessionId) →
    db'.sessions.rows = db.sessions.rows ++ [⟨sessionId, some accountId, none, node, some ip,
      "authenticated", now, none, expiresAt, none⟩]

lemma exists_upsertSession {ip node : String} (hip : inet remoteIp = some ip)
    (hnode : varchar 64 gatewayNode = .ok node) (hacc : ∃ a ∈ db.accounts.rows, a.id = accountId) :
    ∃ db', db.upsertSession inet now sessionId accountId gatewayNode remoteIp expiresAt = .ok db' ∧
      Upserted db now sessionId accountId node ip expiresAt db' := by
  by_cases hknown : ∃ s ∈ db.sessions.rows, s.id = sessionId
  · refine ⟨{ db with
        sessions := db.sessions.update (fun s => s.id == sessionId)
          (authenticated accountId node ip expiresAt) fun _ => rfl }, ?_,
      ⟨_, rfl⟩, fun _ => rfl, fun hno => absurd hknown hno⟩
    simp [upsertSession, hip, hnode, bind, Except.bind, hacc, hknown]
  · obtain ⟨sessions, hins⟩ := Option.isSome_iff_exists.mp
      (Table.insert_isSome_iff (t := db.sessions)
        (a := ⟨sessionId, some accountId, none, node, some ip, "authenticated", now, none,
          expiresAt, none⟩).mpr fun s hs he => hknown ⟨s, hs, he⟩)
    refine ⟨{ db with sessions := sessions }, ?_, ⟨_, rfl⟩, fun h => absurd h hknown, fun _ =>
      (Table.insert_eq_some_iff.mp hins).2⟩
    simp [upsertSession, hip, hnode, bind, Except.bind, hacc, hknown, hins]

lemma Upserted.unique {ip node : String} {db'' : Database}
    (h : Upserted db now sessionId accountId node ip expiresAt db')
    (h' : Upserted db now sessionId accountId node ip expiresAt db'') : db' = db'' := by
  obtain ⟨sessions, rfl⟩ := h.others
  obtain ⟨sessions', rfl⟩ := h'.others
  have he : sessions = sessions' := by
    by_cases hknown : ∃ s ∈ db.sessions.rows, s.id = sessionId
    · exact Table.ext ((h.known hknown).trans (h'.known hknown).symm)
    · exact Table.ext ((h.new hknown).trans (h'.new hknown).symm)
  rw [he]

/-- **What an upsert does**, and when. -/
theorem upsertSession_eq_ok_iff :
    db.upsertSession inet now sessionId accountId gatewayNode remoteIp expiresAt = .ok db' ↔
      ∃ ip node, inet remoteIp = some ip ∧ varchar 64 gatewayNode = .ok node ∧
        (∃ a ∈ db.accounts.rows, a.id = accountId) ∧
        Upserted db now sessionId accountId node ip expiresAt db' := by
  rcases hip : inet remoteIp with _ | ip
  · refine iff_of_false ?_ fun ⟨ip, node, h, _⟩ => by cases h
    simp [upsertSession, hip]
  rcases hnode : varchar 64 gatewayNode with err | node
  · refine iff_of_false ?_ fun ⟨ip, node, _, h, _⟩ => by cases h
    simp [upsertSession, hip, hnode, bind, Except.bind]
  by_cases hacc : ∃ a ∈ db.accounts.rows, a.id = accountId
  swap
  · refine iff_of_false ?_ fun ⟨ip, node, _, _, h, _⟩ => hacc h
    simp [upsertSession, hip, hnode, bind, Except.bind, hacc]
  obtain ⟨db'', hrun, hup⟩ : ∃ db'', db.upsertSession inet now sessionId accountId gatewayNode
      remoteIp expiresAt = .ok db'' ∧ Upserted db now sessionId accountId node ip expiresAt db'' :=
    exists_upsertSession hip hnode hacc
  rw [hrun]
  constructor
  · intro h
    cases h
    exact ⟨ip, node, rfl, rfl, hacc, hup⟩
  · rintro ⟨ip', node', hip', hnode', -, hup'⟩
    cases hip'
    cases hnode'
    rw [hup.unique hup']

end Inet

def closeSession (now : Time) (sessionId : SessionId) : Database :=
  { db with
    sessions := db.sessions.update (fun s => s.id == sessionId)
      (fun s => { s with state := "closed", closedAt := some now }) fun _ => rfl }

def getSessionAccount (sessionId : SessionId) : Option AccountId :=
  (db.sessions.rows.find? fun s => s.id == sessionId && s.state != "closed").bind (·.accountId)

/-! ### Statements on characters -/

structure Character where
  id : CharacterId
  accountId : AccountId
  name : String
  characterClass : CharacterClass
  mapId : MapId
  x : Int32
  y : Int32
  level : Int32
  exp : Int64
  hp : Int32
  mp : Int32
  sp : Int32
  stats : Int16 × Int16 × Int16 × Int16 × Int16 × Int16
  createdAt : Time
  updatedAt : Time
  deriving DecidableEq

def parseCharacterClass : String → CharacterClass
  | "mage" => .mage
  | "archer" => .archer
  | _ => .warrior

def characterClassCode : CharacterClass → String
  | .warrior => "warrior"
  | .mage => "mage"
  | .archer => "archer"

def rowToCharacter (row : CharacterRow) : Character :=
  ⟨row.id, row.accountId, row.name, parseCharacterClass row.classCode, row.mapId, row.posX,
    row.posY, row.level, row.exp, row.hp, row.mp, row.sp, row.stats, row.createdAt, row.updatedAt⟩

structure NewCharacterParams where
  name : String
  characterClass : CharacterClass
  gender : Int16
  skinColor : Int16
  hairStyle : Int16
  hairColor : Int16
  underwearColor : Int16
  stats : Int16 × Int16 × Int16 × Int16 × Int16 × Int16
  deriving DecidableEq

/-- `slot_pick`: the first of the four slots that no row of the account which is not deleted
has. -/
def slotPick (accountId : AccountId) : Option ℕ :=
  (List.range 4).find? fun s =>
    !db.characters.rows.any fun c => c.accountId == accountId && c.slot == s && !c.isDeleted

def createCharacter (now : Time) (newId : CharacterId) (accountId : AccountId)
    (params : NewCharacterParams) : Except RepoError (Character × Database) := do
  -- a text that is none is refused before the statement runs
  let text ← (encoded params.name).mapError .database
  match db.slotPick accountId, db.maps.rows.find? fun m => m.id == 1 with
  | some slot, some m =>
    let name ← (fitLength 16 text).mapError .database
    let row : CharacterRow :=
      ⟨newId, accountId, name, slot, characterClassCode params.characterClass, params.gender,
        params.skinColor, params.hairStyle, params.hairColor, params.underwearColor, 1, 0, m.id,
        m.defaultSpawnX, m.defaultSpawnY, 100, 50, 50, params.stats, false, now, now⟩
    let some characters := db.characters.insert row | .error (.database .uniqueViolation)
    if ¬ ∃ a ∈ db.accounts.rows, a.id = accountId then .error (.database .foreignKeyViolation)
    else .ok (rowToCharacter row, { db with characters := characters })
  | _, _ => .error (.message "character slot limit reached for account")

/-- The rows the first statement of `delete_character` changes. -/
def deletes (accountId : AccountId) (characterId : CharacterId) (c : CharacterRow) : Bool :=
  c.id == characterId && c.accountId == accountId && !c.isDeleted

/-- The first statement of `delete_character`, with the number of rows it changes. -/
def markDeleted (now : Time) (accountId : AccountId) (characterId : CharacterId) : ℕ × Database :=
  (db.characters.rows.countP (deletes accountId characterId),
    { db with
      characters := db.characters.update (deletes accountId characterId)
        (fun c => { c with isDeleted := true, updatedAt := now }) fun _ => rfl })

lemma rows_markDeleted (now : Time) (accountId : AccountId) (characterId : CharacterId) :
    (db.markDeleted now accountId characterId).2.characters.rows =
      db.characters.rows.map fun c =>
        if deletes accountId characterId c then { c with isDeleted := true, updatedAt := now }
        else c := rfl

/-- The rows the second statement of `delete_character` changes. -/
def unbinds (accountId : AccountId) (characterId : CharacterId) (s : SessionRow) : Bool :=
  s.accountId == some accountId && s.characterId == some characterId && s.state != "closed"

/-- The second statement of `delete_character`. -/
def unbindSessions (accountId : AccountId) (characterId : CharacterId) : Database :=
  { db with
    sessions := db.sessions.update (unbinds accountId characterId)
      (fun s => { s with characterId := none }) fun _ => rfl }

def deleteCharacter (now : Time) (accountId : AccountId) (characterId : CharacterId) :
    Bool × Database :=
  let (rows, db) := db.markDeleted now accountId characterId
  if 0 < rows then (true, db.unbindSessions accountId characterId) else (false, db)

def loadCharacter (accountId : AccountId) (characterId : CharacterId) : Option Character :=
  (db.characters.rows.find? fun c =>
    c.accountId == accountId && c.id == characterId && !c.isDeleted).map rowToCharacter

/-- The rows the second statement of `bind_session_character` changes. -/
def binds (sessionId : SessionId) (accountId : AccountId) (s : SessionRow) : Bool :=
  s.id == sessionId && s.accountId == some accountId && s.state != "closed"

/-- The second statement of `bind_session_character`, with the number of rows it changes. -/
def bindSession (now : Time) (sessionId : SessionId) (accountId : AccountId)
    (characterId : CharacterId) : ℕ × Database :=
  (db.sessions.rows.countP (binds sessionId accountId),
    { db with
      sessions := db.sessions.update (binds sessionId accountId)
        (fun s => { s with
          characterId := some characterId, state := "character_selected"
          lastSeenAt := some now }) fun _ => rfl })

def bindSessionCharacter (now : Time) (sessionId : SessionId) (accountId : AccountId)
    (characterId : CharacterId) : Option Character × Database :=
  match db.loadCharacter accountId characterId with
  | none => (none, db)
  | some character =>
    let (updated, db) := db.bindSession now sessionId accountId characterId
    if updated = 0 then (none, db) else (some character, db)

lemma bindSessionCharacter_snd (now : Time) (sessionId : SessionId) (accountId : AccountId)
    (characterId : CharacterId) :
    (db.bindSessionCharacter now sessionId accountId characterId).2 = db ∨
      (db.bindSessionCharacter now sessionId accountId characterId).2 =
        (db.bindSession now sessionId accountId characterId).2 := by
  unfold bindSessionCharacter
  split
  · exact .inl rfl
  · dsimp only
    split <;> exact .inr rfl

/-! ### The statements of the jobs runner -/

/-- The rows the first statement of `run_tick` changes. -/
def expired (now : Time) (s : SessionRow) : Bool := s.expiresAt < now && s.closedAt.isNone

def closeExpired (now : Time) : ℕ × Database :=
  (db.sessions.rows.countP (expired now),
    { db with
      sessions := db.sessions.update (expired now)
        (fun s => { s with state := "closed", closedAt := some now }) fun _ => rfl })

/-- The rows the second statement of `run_tick` changes. -/
def lapsed (now : Time) (s : SanctionRow) : Bool := s.endsAt.any (· < now) && s.status == "active"

def expireSanctions (now : Time) : ℕ × Database :=
  (db.sanctions.rows.countP (lapsed now),
    { db with
      sanctions := db.sanctions.update (lapsed now)
        (fun s => { s with status := "expired" }) fun _ => rfl })

def runTick (now : Time) : (ℕ × ℕ) × Database :=
  let (closedSessions, db) := db.closeExpired now
  let (expiredSanctions, db) := db.expireSanctions now
  ((closedSessions, expiredSanctions), db)

/-- One account and map 1, nothing else. -/
def fixture : Database where
  accounts := ⟨[⟨Uuid.fill 1, "smoke", none, "plain:testpass", "active"⟩],
    List.pairwise_singleton _ _⟩
  characters := Table.empty
  sessions := Table.empty
  maps := ⟨[⟨1, "default", "Default Map", 100, 100, 50⟩], List.pairwise_singleton _ _⟩
  mapInstances := Table.empty
  sanctions := Table.empty
  adminUsers := Table.empty
  adminRoles := Table.empty
  adminUserRoles := Table.empty
  adminAuditLogs := Table.empty

end Database

end HelbreathBackend.Infrastructure
