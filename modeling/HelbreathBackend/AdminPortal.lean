import HelbreathBackend.Application
import HelbreathBackend.Infrastructure
import HelbreathBackend.Lib.FiniteMap
import HelbreathBackend.Lib.Handler

/-!
The administration service: who may do what, what a handler works on, and the statements and
calls it makes.

Every statement to the database and every call to the world service takes its fate from a list:
it may not arrive, or be carried out without the caller learning of it. Where the list is at its
end, all goes well. What else the outside answers comes with the request.
-/

namespace HelbreathBackend.AdminApi

open HelbreathBackend.Lib HelbreathBackend.Domain HelbreathBackend.Infrastructure
open HelbreathBackend.Application (trim)

/-! ### Roles and permissions -/

inductive Role
  | superAdmin
  | admin
  | gm
  | support
  | readOnly
  deriving DecidableEq

inductive Permission
  | accountsRead
  | accountsWrite
  | accountsBan
  | charactersRead
  | charactersWrite
  | charactersDisconnect
  | worldRead
  | worldWrite
  | moderationWrite
  | broadcastSend
  | auditRead
  | metricsRead
  deriving DecidableEq

def Permission.code : Permission → String
  | .accountsRead => "accounts.read"
  | .accountsWrite => "accounts.write"
  | .accountsBan => "accounts.ban"
  | .charactersRead => "characters.read"
  | .charactersWrite => "characters.write"
  | .charactersDisconnect => "characters.disconnect"
  | .worldRead => "world.read"
  | .worldWrite => "world.write"
  | .moderationWrite => "moderation.write"
  | .broadcastSend => "broadcast.send"
  | .auditRead => "audit.read"
  | .metricsRead => "metrics.read"

def permissionsForRole : Role → List Permission
  | .superAdmin => [.accountsRead, .accountsWrite, .accountsBan, .charactersRead, .charactersWrite,
      .charactersDisconnect, .worldRead, .worldWrite, .moderationWrite, .broadcastSend, .auditRead,
      .metricsRead]
  | .admin => [.accountsRead, .accountsWrite, .accountsBan, .charactersRead, .charactersWrite,
      .worldRead, .worldWrite, .broadcastSend, .auditRead, .metricsRead]
  | .gm => [.charactersRead, .charactersWrite, .charactersDisconnect, .worldRead, .worldWrite,
      .moderationWrite, .broadcastSend, .metricsRead]
  | .support => [.accountsRead, .charactersRead, .moderationWrite]
  | .readOnly => [.accountsRead, .charactersRead, .worldRead, .auditRead, .metricsRead]

structure AdminPrincipal where
  adminUserId : Uuid
  email : String
  roles : List Role
  deriving DecidableEq

def AdminPrincipal.effectivePermissions (principal : AdminPrincipal) : List Permission :=
  principal.roles.flatMap permissionsForRole

def AdminPrincipal.hasPermission (principal : AdminPrincipal) (needed : Permission) : Bool :=
  needed ∈ principal.effectivePermissions

def requirePermission (principal : AdminPrincipal) (permission : Permission) :
    Except String Unit :=
  if principal.hasPermission permission then .ok ()
  else .error s!"missing permission {permission.code} for user {principal.email}"

/-- `admin_roles.code` as a role. -/
def mapAdminRole : String → Role
  | "superadmin" => .superAdmin
  | "admin" => .admin
  | "gm" => .gm
  | "support" => .support
  | _ => .readOnly

structure AdminAuthRecord where
  id : Uuid
  email : String
  passwordHash : String
  roles : List Role
  deriving DecidableEq

/-- The roles of an administrator. -/
def rolesOf (db : Database) (adminUserId : Uuid) : List Role :=
  (db.adminUserRoles.rows.filter fun r => r.adminUserId == adminUserId).filterMap fun r =>
    (db.adminRoles.rows.find? fun role => role.id == r.roleId).map fun role =>
      mapAdminRole role.code

/-! ### Errors -/

structure ApiError where
  status : ℕ
  message : String
  deriving DecidableEq

namespace ApiError

def unauthorized (message : String) : ApiError := ⟨401, message⟩

def forbidden (message : String) : ApiError := ⟨403, message⟩

def badRequest (message : String) : ApiError := ⟨400, message⟩

def internal (message : String) : ApiError := ⟨500, message⟩

end ApiError

/-- How a handler can fail: it answers an error, or its task panics. -/
inductive Failure
  | api (err : ApiError)
  | panicked
  deriving DecidableEq

/-! ### What comes with a request -/

structure Settings where
  gatewayHttpBind : String
  authBind : String
  worldBind : String
  mapBind : String
  chatBind : String
  jobsBind : String
  adminBind : String
  bootstrapAdminEmail : String
  bootstrapAdminPassword : String
  adminSessionTtlSeconds : UInt64

inductive ServiceControlAction
  | start
  | restart
  | stop
  deriving DecidableEq

structure WorldStatsWire where
  onlinePlayers : UInt64
  playersByMap : List (MapId × UInt64)

/-- The clock, the settings, the random identifiers, and the answers of the operating system, of
the other services and of the libraries, while one request is handled. -/
structure Outside where
  settings : Settings
  now : Time
  /-- `+ Duration::seconds(..)`, `none` where that panics -/
  plusSeconds : Time → ℤ → Option Time
  /-- `Uuid::new_v4` and `gen_random_uuid`, for the one that is asked for at each place -/
  principalId : Uuid
  token : Uuid
  ticket : Uuid
  correlationId : Uuid
  auditId : Uuid
  sanctionId : Uuid
  instanceId : Uuid
  /-- `PasswordHash::new` and `verify_password`: the hash may be malformed -/
  verifyPassword : String → String → Except String Bool
  /-- `::inet` -/
  inet : String → Option String
  /-- `ILIKE`, and the order of texts -/
  ilike : String → String → Bool
  collate : String → String → Bool
  inventory : CharacterId → List Json
  /-- errors of the database, times and HTTP statuses as texts -/
  render : RepoError → String
  timestamp : Time → String
  statusText : ℕ → String
  runSystemctlAction : String → ServiceControlAction → Except String Unit
  systemdUnitState : String → String
  runJournalctlTail : String → UInt32 → Except String String
  probeServiceHealth : String → String
  worldStats : Option WorldStatsWire
  /-- the status of the answer to a broadcast, unless sending failed -/
  worldBroadcast : String → Except String ℕ
  /-- why a call to the world service failed -/
  worldUnreachable : String

/-! ### What a handler works on -/

inductive DbFate
  | fine
  | failed
  /-- carried out, but the caller is told it failed -/
  | lost
  deriving DecidableEq

/-- What the world service meets while it serves a request. -/
structure WorldWeather where
  /-- its query for the catalog succeeds -/
  catalog : Bool
  /-- the coordinator takes messages -/
  coordinator : Bool
  playersOnline : UInt64
  deriving DecidableEq

inductive WorldFate
  | unreachable
  /-- answered with an error status, and not served -/
  | rejected (status : ℕ)
  | served (w : WorldWeather)
  /-- served, but the answer does not arrive -/
  | lost (w : WorldWeather)
  /-- served, but the body of the answer cannot be read -/
  | garbled (w : WorldWeather)
  deriving DecidableEq

structure AdminSession where
  principal : AdminPrincipal
  expiresAt : Time
  deriving DecidableEq

structure Backend where
  db : Database
  dbFates : List DbFate
  /-- the maps with a runtime in the world service -/
  runtimes : Finset MapId
  worldFates : List WorldFate
  sessions : FMap String AdminSession

abbrev Repo (α : Type) := Handler Outside Backend RepoError α

abbrev Api (α : Type) := Handler Outside Backend Failure α

def apiFail {α : Type} (err : ApiError) : Api α := Handler.fail (.api err)

/-- `map_err(|e| ApiError::internal(format!("db error: {e}")))` -/
def orDbError {α : Type} (h : Repo α) : Api α :=
  h.mapError fun o err => .api (.internal s!"db error: {o.render err}")

/-! ### Statements -/

/-- One statement, with what becomes of it. -/
def statement {α : Type} (f : Database → Except DbError (α × Database)) : Repo α := fun _ b =>
  let rest : Backend := { b with dbFates := b.dbFates.tail }
  match b.dbFates.headD .fine, f b.db with
  | .failed, _ => (.error (.database .unavailable), rest)
  | .fine, .ok (a, db) => (.ok a, { rest with db := db })
  | .fine, .error err => (.error (.database err), rest)
  | .lost, .ok (_, db) => (.error (.database .unavailable), { rest with db := db })
  | .lost, .error _ => (.error (.database .unavailable), rest)

def query {α : Type} (f : Database → α) : Repo α := statement fun db => .ok (f db, db)

variable {o : Outside} {b : Backend}

lemma statement_eq_ok_iff {α : Type} {f : Database → Except DbError (α × Database)} {a : α}
    {b' : Backend} :
    (statement f) o b = (.ok a, b') ↔
      b.dbFates.headD .fine = .fine ∧ ∃ db, f b.db = .ok (a, db) ∧
        b' = { b with db := db, dbFates := b.dbFates.tail } := by
  unfold statement
  rcases b.dbFates.headD .fine <;> rcases f b.db with err | ⟨a', db⟩ <;>
    simp [eq_comm]

/-- Whatever becomes of a statement, the database is as it was or as the statement makes it. -/
lemma statement_snd {α : Type} (f : Database → Except DbError (α × Database)) (o : Outside)
    (b : Backend) :
    ∃ db, (statement f o b).2 = { b with db := db, dbFates := b.dbFates.tail } ∧
      (db = b.db ∨ ∃ a, f b.db = .ok (a, db)) := by
  unfold statement
  rcases b.dbFates.headD .fine <;> rcases f b.db with err | ⟨a, db⟩
  all_goals first
    | exact ⟨_, rfl, .inl rfl⟩
    | exact ⟨_, rfl, .inr ⟨_, rfl⟩⟩

/-- A statement that answers the same whatever it does to the database. -/
lemma of_map_answer {α : Type} {answer : α} {x : Except DbError Database} {p : α × Database}
    (h : (x.map fun db => (answer, db)) = .ok p) : answer = p.1 ∧ x = .ok p.2 := by
  cases x with
  | error err => cases h
  | ok db =>
    cases h
    exact ⟨rfl, rfl⟩

/-- A frame of statements: it holds of one that does nothing, and of one that is carried out. -/
lemma keeps_statement {α : Type} {R : Backend → Backend → Prop}
    {f : Database → Except DbError (α × Database)}
    (hnone : ∀ b, R b { b with dbFates := b.dbFates.tail })
    (hdone : ∀ b a db, f b.db = .ok (a, db) → R b { b with db := db, dbFates := b.dbFates.tail }) :
    Handler.Keeps R (statement f) := by
  intro o b
  obtain ⟨db, hstate, rfl | ⟨a, hrun⟩⟩ := statement_snd f o b
  · rw [hstate]
    exact hnone b
  · rw [hstate]
    exact hdone b a db hrun

lemma keeps_query {α : Type} {R : Backend → Backend → Prop}
    (hnone : ∀ b, R b { b with dbFates := b.dbFates.tail }) (f : Database → α) :
    Handler.Keeps R (query f) :=
  keeps_statement hnone fun b _ _ h => by cases h; exact hnone b

lemma query_eq_ok_iff {α : Type} {f : Database → α} {a : α} {b' : Backend} :
    (query f) o b = (.ok a, b') ↔
      b.dbFates.headD .fine = .fine ∧ f b.db = a ∧ b' = { b with dbFates := b.dbFates.tail } := by
  rw [query, statement_eq_ok_iff]
  simp

lemma orDbError_of_error {α : Type} {h : Repo α} {e : RepoError} {b' : Backend}
    (hr : h o b = (.error e, b')) : ∃ err, orDbError h o b = (.error err, b') := by
  refine ⟨.api (.internal s!"db error: {o.render e}"), ?_⟩
  unfold orDbError Handler.mapError
  rw [hr]

lemma orDbError_of_ok {α : Type} {h : Repo α} {a : α} {b' : Backend}
    (hr : h o b = (.ok a, b')) : orDbError h o b = (.ok a, b') := Handler.mapError_eq_ok_iff.mpr hr

/-- The default settings. -/
def Settings.fixture : Settings where
  gatewayHttpBind := "127.0.0.1:7080"
  authBind := "127.0.0.1:7101"
  worldBind := "127.0.0.1:7201"
  mapBind := "127.0.0.1:7301"
  chatBind := "127.0.0.1:7401"
  jobsBind := "127.0.0.1:7501"
  adminBind := "127.0.0.1:8080"
  bootstrapAdminEmail := "admin@localhost"
  bootstrapAdminPassword := "change_me_now"
  adminSessionTtlSeconds := 1800

/-- Everything outside answers, and there is one password hash. -/
def Outside.fixture : Outside where
  settings := .fixture
  now := 0
  plusSeconds t s := some (t + 1000000 * s)
  principalId := .fill 10
  token := .fill 11
  ticket := .fill 12
  correlationId := .fill 13
  auditId := .fill 14
  sanctionId := .fill 15
  instanceId := .fill 16
  verifyPassword hash password :=
    if hash = "$argon2id$s3cret" then .ok (password == "s3cret") else .error "malformed"
  inet := some
  ilike _ _ := true
  collate a b := a ≤ b
  inventory _ := []
  render _ := "error"
  timestamp _ := "1970-01-01T00:00:00Z"
  statusText _ := "502 Bad Gateway"
  runSystemctlAction _ _ := .ok ()
  systemdUnitState _ := "active"
  runJournalctlTail _ _ := .ok ""
  probeServiceHealth _ := "ok"
  worldStats := none
  worldBroadcast _ := .ok 200
  worldUnreachable := "timeout"

/-- The fixture of the database, with no runtime active and nobody logged in. -/
def Backend.fixture : Backend := ⟨.fixture, [], ∅, [], ∅⟩

end HelbreathBackend.AdminApi
