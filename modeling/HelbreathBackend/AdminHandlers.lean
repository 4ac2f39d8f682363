import HelbreathBackend.AdminPortal
import HelbreathBackend.AdminRepository

/-!
The handlers of the administration service.
-/

namespace HelbreathBackend.AdminApi

open HelbreathBackend.Lib HelbreathBackend.Domain HelbreathBackend.Infrastructure
open HelbreathBackend.Application (trim)

/-! ### The repository -/

def findAdminForLogin (email : String) : Repo (Option AdminAuthRecord) := do
  let row ← query fun db =>
    db.adminUsers.rows.find? fun u => u.email == email && u.status == "active"
  match row with
  | none => pure none
  | some row => do
    let roles ← query fun db => rolesOf db row.id
    pure (some ⟨row.id, row.email, row.passwordHash, roles⟩)

def insertAdminAudit (record : AdminAuditInsert) : Repo Unit := do
  let o ← Handler.given
  statement fun db => (db.insertAdminAudit o.inet o.now o.auditId record).map fun db => ((), db)

def createSanction (input : CreateSanctionInput) : Repo Unit := do
  let o ← Handler.given
  statement fun db => (db.createSanction o.now o.sanctionId input).map fun db => ((), db)

def setAccountStatus (accountId : AccountId) (status : AccountStatus) : Repo Unit :=
  statement fun db => .ok ((), db.setAccountStatus accountId status)

def moveCharacter (characterId : CharacterId) (mapId : MapId) (x y : Int32) : Repo Unit := do
  let o ← Handler.given
  statement fun db => (db.moveCharacter o.now characterId mapId x y).map fun db => ((), db)

def activateMapRow (mapId : MapId) : Repo Bool := do
  let o ← Handler.given
  let mapExists ← query fun db => db.mapExists mapId
  if mapExists then
    statement fun db => (db.activateInstance o.now o.instanceId mapId).map fun db => (true, db)
  else pure false

def deactivateMapRow (mapId : MapId) : Repo Bool := do
  let o ← Handler.given
  let mapExists ← query fun db => db.mapExists mapId
  if mapExists then statement fun db => .ok (true, db.stopInstances o.now mapId) else pure false

/-! ### Authentication -/

/-- The value of the `authorization` header; it need not be text. -/
inductive HeaderValue
  | text (value : String)
  | bytes
  deriving DecidableEq

/-- `str::strip_prefix` -/
def stripPrefix (text start : String) : Option String :=
  if start.toList.isPrefixOf text.toList then
    some (String.ofList (text.toList.drop start.length))
  else none

def extractBearerToken (authorization : Option HeaderValue) : Except Failure String :=
  match authorization with
  | none => .error (.api (.unauthorized "missing authorization header"))
  | some .bytes => .error (.api (.unauthorized "invalid authorization header"))
  | some (.text auth) =>
    match (stripPrefix auth "Bearer ").or (stripPrefix auth "bearer ") with
    | none => .error (.api (.unauthorized "expected Bearer token"))
    | some token =>
      if trim token = "" then .error (.api (.unauthorized "empty bearer token"))
      else .ok (trim token)

def pruneExpiredSessions : Api Unit := do
  let o ← Handler.given
  Handler.change fun b =>
    { b with sessions := FMap.retain (fun _ session => o.now < session.expiresAt) b.sessions }

def authenticate (authorization : Option HeaderValue) (permission : Permission) :
    Api AdminPrincipal := do
  pruneExpiredSessions
  let token ← Handler.ofExcept (extractBearerToken authorization)
  let session ← Handler.look fun b => b.sessions.lookup token
  let session ← Handler.ofOption (.api (.unauthorized "invalid admin token")) session
  match requirePermission session.principal permission with
  | .ok _ => pure session.principal
  | .error e => apiFail (.forbidden s!"forbidden: {e}")

/-- Authentication changes nothing but sessions. -/
lemma authenticate_sessions (auth : Option HeaderValue) (permission : Permission) (o : Outside)
    (b : Backend) : ∃ s, (authenticate auth permission o b).2 = { b with sessions := s } := by
  have htrans : ∀ b₁ b₂ b₃ : Backend, (∃ s, b₂ = { b₁ with sessions := s }) →
      (∃ s, b₃ = { b₂ with sessions := s }) → ∃ s, b₃ = { b₁ with sessions := s } := by
    rintro b₁ - - ⟨s, rfl⟩ ⟨s', rfl⟩
    exact ⟨s', rfl⟩
  have hrefl : ∀ b₁ : Backend, ∃ s, b₁ = { b₁ with sessions := s } := fun b₁ => ⟨b₁.sessions, rfl⟩
  have hkeeps : Handler.Keeps (fun b b' => ∃ s, b' = { b with sessions := s })
      (authenticate auth permission) := by
    unfold authenticate pruneExpiredSessions
    refine .bind htrans (.bind htrans (Handler.keeps_given hrefl) fun o =>
      Handler.keeps_change fun b => ⟨_, rfl⟩) fun _ => ?_
    refine .bind htrans (Handler.keeps_ofExcept hrefl _) fun token => ?_
    refine .bind htrans (Handler.keeps_look hrefl _) fun session => ?_
    refine .bind htrans (Handler.keeps_ofOption hrefl _ _) fun session => ?_
    split
    · exact Handler.keeps_pure hrefl _
    · exact Handler.keeps_fail hrefl _
  exact hkeeps o b

/-- `eq_ignore_ascii_case` -/
def eqIgnoreAsciiCase (a b : String) : Bool :=
  a.toList.map Char.toLower == b.toList.map Char.toLower

structure AdminLoginRequest where
  email : String
  password : String

/-- Who a login is, given what the database has under its email. -/
def loginPrincipal (o : Outside) (req : AdminLoginRequest) :
    Option AdminAuthRecord → Except Failure AdminPrincipal
  | some record =>
    match o.verifyPassword record.passwordHash req.password with
    | .error e => .error (.api (.internal s!"invalid stored hash: {e}"))
    | .ok false => .error (.api (.unauthorized "invalid credentials"))
    | .ok true => .ok ⟨record.id, record.email, record.roles⟩
  | none =>
    if eqIgnoreAsciiCase (trim req.email) o.settings.bootstrapAdminEmail &&
        req.password == o.settings.bootstrapAdminPassword then
      .ok ⟨o.principalId, req.email, [.superAdmin]⟩
    else .error (.api (.unauthorized "invalid credentials"))

/-- When a session that begins now ends, unless computing that panics. -/
def newExpiry (o : Outside) : Option Time :=
  o.plusSeconds o.now o.settings.adminSessionTtlSeconds.toInt64.toInt

def adminLogin (req : AdminLoginRequest) : Api Json :=
  if trim req.email = "" ∨ req.password = "" then
    apiFail (.badRequest "email/password required")
  else do
    let o ← Handler.given
    let record ← orDbError (findAdminForLogin (trim req.email))
    let principal ← Handler.ofExcept (loginPrincipal o req record)
    let expiresAt ← Handler.ofOption .panicked (newExpiry o)
    Handler.change fun b =>
      { b with sessions := b.sessions.insert o.token.format ⟨principal, expiresAt⟩ }
    pure (.obj [("ok", .bool true), ("token", .str o.token.format),
      ("expires_at_unix", .num (expiresAt / 1000000))])

def adminLogout (authorization : Option HeaderValue) : Api Json := do
  let token ← Handler.ofExcept (extractBearerToken authorization)
  Handler.change fun b => { b with sessions := b.sessions.erase token }
  pure (.obj [("ok", .bool true)])

/-! ### Audit -/

/-- A failure to write the row is only logged. -/
def auditAction (principal : AdminPrincipal) (actionType targetType targetId : String)
    (payload : Json) (ipAddress : Option String) : Api Unit := do
  let o ← Handler.given
  Handler.ignore (insertAdminAudit ⟨principal.adminUserId, actionType, targetType, targetId,
    payload, some o.correlationId.format, ipAddress⟩)

/-- An audited action returns, and has changed nothing but the log. -/
lemma auditAction_run (principal : AdminPrincipal) (actionType targetType targetId : String)
    (payload : Json) (ipAddress : Option String) (o : Outside) (b : Backend) :
    ∃ logs fates, auditAction principal actionType targetType targetId payload ipAddress o b =
      (.ok (), { b with db := { b.db with adminAuditLogs := logs }, dbFates := fates }) := by
  let record : AdminAuditInsert := ⟨principal.adminUserId, actionType, targetType, targetId,
    payload, some o.correlationId.format, ipAddress⟩
  obtain ⟨db, hstate, hdb⟩ := statement_snd (fun db =>
    (db.insertAdminAudit o.inet o.now o.auditId record).map fun db => ((), db)) o b
  obtain ⟨logs, rfl⟩ : ∃ logs, db = { b.db with adminAuditLogs := logs } := by
    rcases hdb with rfl | ⟨a, hrun⟩
    · exact ⟨_, rfl⟩
    · exact Database.others_insertAdminAudit o.inet (of_map_answer hrun).2
  exact ⟨logs, _, Prod.ext rfl hstate⟩

/-! ### The world service -/

structure WorldMapControlWire where
  ok : Bool
  changed : Option Bool
  error : Option String
  playersOnline : Option UInt64
  deriving DecidableEq

inductive MapControl
  | activate
  | deactivate
  deriving DecidableEq

def MapControl.text : MapControl → String
  | .activate => "activate"
  | .deactivate => "deactivate"

/-- `world_map_activate` and `world_map_deactivate`: the answer, and the runtimes afterwards. -/
def serveMapControl (db : Database) (runtimes : Finset MapId) (mapId : MapId) (w : WorldWeather) :
    MapControl → WorldMapControlWire × Finset MapId
  | .activate =>
    if ¬ w.catalog then (⟨false, none, some "catalog_unavailable", none⟩, runtimes)
    else if ¬ db.mapExists mapId then (⟨false, none, some "map_not_found", none⟩, runtimes)
    else if mapId ∈ runtimes then (⟨true, some false, none, none⟩, runtimes)
    else if ¬ w.coordinator then (⟨false, none, some "activation_failed", none⟩, runtimes)
    else (⟨true, some true, none, none⟩, insert mapId runtimes)
  | .deactivate =>
    if 0 < w.playersOnline then
      (⟨false, none, some "map_has_players", some w.playersOnline⟩, runtimes)
    else (⟨true, some (mapId ∈ runtimes), none, none⟩, runtimes.erase mapId)

/-- What `invoke_world_map_control` makes of the body of an answer. -/
def readMapControl (action : MapControl) (body : WorldMapControlWire) :
    Except Failure WorldMapControlWire :=
  if body.ok then .ok body
  else .error (.api (match body.error.getD "unknown_error" with
    | "map_not_found" => .badRequest "map not found"
    | "map_has_players" =>
      ⟨409, s!"cannot {action.text} map while players are online ({body.playersOnline.getD 0})"⟩
    | "catalog_unavailable" => .internal "world map catalog unavailable while validating map"
    | "activation_failed" => .internal "world runtime activation failed"
    | "deactivation_failed" => .internal "world runtime deactivation failed"
    | _ => .internal s!"world map {action.text} failed with unknown error"))

def invokeWorldMapControl (mapId : MapId) (action : MapControl) : Api WorldMapControlWire :=
  fun o b =>
    let rest : Backend := { b with worldFates := b.worldFates.tail }
    let unsent : Failure :=
      .api (.internal s!"world map {action.text} failed: {o.worldUnreachable}")
    let serve (w : WorldWeather) := serveMapControl b.db b.runtimes mapId w action
    match b.worldFates.headD (.served ⟨true, true, 0⟩) with
    | .unreachable => (.error unsent, rest)
    | .rejected status =>
      (.error (.api (if status = 404 then
        .internal "world-service no soporta /v1/world/maps/* (actualiza/reinicia hb-world-service)"
        else .internal s!"world map {action.text} rejected with status {o.statusText status}")),
        rest)
    | .served w => (readMapControl action (serve w).1, { rest with runtimes := (serve w).2 })
    | .lost w => (.error unsent, { rest with runtimes := (serve w).2 })
    | .garbled w =>
      (readMapControl action ⟨false, none, none, none⟩, { rest with runtimes := (serve w).2 })

/-! ### Services -/

structure ManagedServiceDef where
  key : String
  label : String
  unit : String
  baseUrl : String

def managedServiceDefs (settings : Settings) : List ManagedServiceDef :=
  [⟨"gateway", "Gateway", "hb-gateway.service", s!"http://{settings.gatewayHttpBind}"⟩,
    ⟨"auth", "Auth", "hb-auth.service", s!"http://{settings.authBind}"⟩,
    ⟨"world", "World", "hb-world.service", s!"http://{settings.worldBind}"⟩,
    ⟨"map", "Map", "hb-map.service", s!"http://{settings.mapBind}"⟩,
    ⟨"chat", "Chat", "hb-chat.service", s!"http://{settings.chatBind}"⟩,
    ⟨"jobs", "Jobs", "hb-jobs.service", s!"http://{settings.jobsBind}"⟩,
    ⟨"admin-api", "Admin API", "hb-admin-api.service", s!"http://{settings.adminBind}"⟩]

def ServiceControlAction.parse (raw : String) : Option ServiceControlAction :=
  match (trim raw).toList.map Char.toLower with
  | ['s', 't', 'a', 'r', 't'] => some .start
  | ['r', 'e', 's', 't', 'a', 'r', 't'] => some .restart
  | ['s', 't', 'o', 'p'] => some .stop
  | _ => none

def ServiceControlAction.asStr : ServiceControlAction → String
  | .start => "start"
  | .restart => "restart"
  | .stop => "stop"

def managedServicesStatus (auth : Option HeaderValue) : Api Json := do
  let principal ← authenticate auth .metricsRead
  let o ← Handler.given
  let rows := (managedServiceDefs o.settings).map fun service => Json.obj
    [("service", .str service.key), ("label", .str service.label), ("unit", .str service.unit),
      ("health", .str (o.probeServiceHealth service.baseUrl)),
      ("unit_state", .str (o.systemdUnitState service.unit))]
  auditAction principal "services.status.list" "services" "all"
    (.obj [("count", .num rows.length)]) none
  pure (.obj [("services", .arr rows)])

def managedServiceControl (auth : Option HeaderValue) (service action : String) : Api Json := do
  let principal ← authenticate auth .worldWrite
  let o ← Handler.given
  let target ← Handler.ofOption (.api (.badRequest "service not found"))
    ((managedServiceDefs o.settings).find? fun svc => svc.key == service)
  let parsed ← Handler.ofOption (.api (.badRequest "invalid action, use start|restart|stop"))
    (ServiceControlAction.parse action)
  Handler.ofExcept ((o.runSystemctlAction target.unit parsed).mapError fun e => .api (.internal e))
  let unitState := o.systemdUnitState target.unit
  let health := o.probeServiceHealth target.baseUrl
  auditAction principal "services.control" "service" target.key
    (.obj [("action", .str parsed.asStr), ("unit", .str target.unit),
      ("unit_state", .str unitState), ("health", .str health)]) none
  pure (.obj [("ok", .bool true), ("service", .str target.key), ("action", .str parsed.asStr),
    ("unit", .str target.unit), ("unit_state", .str unitState), ("health", .str health),
    ("note", .str s!"accion {parsed.asStr} enviada a {target.unit}")])

def managedServiceLogs (auth : Option HeaderValue) (service : String) (lines : Option UInt32) :
    Api Json := do
  let principal ← authenticate auth .auditRead
  let o ← Handler.given
  let target ← Handler.ofOption (.api (.badRequest "service not found"))
    ((managedServiceDefs o.settings).find? fun svc => svc.key == service)
  let lines := max 20 (min (lines.getD 120) 400)
  let (logText, readOk) := match o.runJournalctlTail target.unit lines with
    | .ok text => (text, true)
    | .error err => (s!"No se pudieron leer logs via journalctl: {err}", false)
  auditAction principal "services.logs.read" "service" target.key
    (.obj [("unit", .str target.unit), ("lines", .num lines.toNat), ("read_ok", .bool readOk)]) none
  pure (.obj [("service", .str target.key), ("unit", .str target.unit), ("lines", .num lines.toNat),
    ("read_ok", .bool readOk),
    ("log", .str (if trim logText = "" then "(sin logs recientes)" else logText))])

/-! ### Accounts -/

/-- `limit.unwrap_or(50).clamp(1, 200)` -/
def searchLimit (limit : Option Int64) : ℕ := (max 1 (min (limit.getD 50).toInt 200)).toNat

def searchAccounts (auth : Option HeaderValue) (text : Option String) (limit : Option Int64) :
    Api Json := do
  let principal ← authenticate auth .accountsRead
  let o ← Handler.given
  let needle := text.getD ""
  let rows ← orDbError (query fun db =>
    ((db.accounts.rows.filter fun a =>
      o.ilike a.username s!"%{needle}%" || o.ilike (a.email.getD "") s!"%{needle}%").mergeSort
        fun a b => o.collate a.username b.username).take (searchLimit limit))
  auditAction principal "accounts.search" "accounts" needle
    (.obj [("limit", .num (searchLimit limit))]) none
  pure (.arr (rows.map fun row => .obj
    [("account_id", .str row.id.format), ("username", .str row.username),
      ("status", .str (Database.AccountStatus.code (Database.accountStatusOf row.status))),
      ("failed_login_count", .num 0), ("last_login_at", .null)]))

/-- What `block_account` and `unblock_account` do. -/
def changeAccountStatus (auth : Option HeaderValue) (accountId : AccountId) (status : AccountStatus)
    (actionType : String) : Api Json := do
  let principal ← authenticate auth .accountsBan
  orDbError (setAccountStatus accountId status)
  auditAction principal actionType "account" accountId.format (.obj []) none
  pure (.obj [("ok", .bool true)])

def blockAccount (auth : Option HeaderValue) (accountId : AccountId) : Api Json :=
  changeAccountStatus auth accountId .banned "accounts.block"

def unblockAccount (auth : Option HeaderValue) (accountId : AccountId) : Api Json :=
  changeAccountStatus auth accountId .active "accounts.unblock"

def resetAccountPassword (auth : Option HeaderValue) (accountId : AccountId) : Api Json := do
  let principal ← authenticate auth .accountsWrite
  let o ← Handler.given
  auditAction principal "accounts.password_reset.requested" "account" accountId.format
    (.obj [("ticket", .str o.ticket.format)]) none
  pure (.obj [("ok", .bool true), ("workflow_ticket", .str o.ticket.format),
    ("note", .str "internal workflow: issue temp credential or reset link out-of-band")])

def idOrNull : Option Uuid → Json
  | some id => .str id.format
  | none => .null

def accountSanctions (auth : Option HeaderValue) (accountId : AccountId) : Api Json := do
  let principal ← authenticate auth .accountsRead
  let o ← Handler.given
  let sanctions ← orDbError (query fun db => db.listAccountSanctions accountId 200)
  auditAction principal "accounts.sanctions.list" "account" accountId.format
    (.obj [("count", .num sanctions.length)]) none
  pure (.obj [("rows", .arr (sanctions.map fun s => .obj
    [("id", .str s.id.format), ("account_id", idOrNull s.accountId),
      ("character_id", idOrNull s.characterId), ("sanction_type", .str s.sanctionType),
      ("reason", .str s.reason), ("starts_at", .str (o.timestamp s.startsAt)),
      ("ends_at", (s.endsAt.map fun t => Json.str (o.timestamp t)).getD .null),
      ("created_at", .str (o.timestamp s.createdAt))]))])

/-! ### Characters -/

def searchCharacters (auth : Option HeaderValue) (text : Option String) (limit : Option Int64) :
    Api Json := do
  let principal ← authenticate auth .charactersRead
  let o ← Handler.given
  let needle := text.getD ""
  let rows ← orDbError (query fun db =>
    ((db.characters.rows.filter fun c => !c.isDeleted && o.ilike c.name s!"%{needle}%").mergeSort
      fun a b => o.collate a.name b.name).take (searchLimit limit))
  auditAction principal "characters.search" "characters" needle
    (.obj [("limit", .num (searchLimit limit))]) none
  pure (.arr (rows.map fun row => .obj
    [("character_id", .str row.id.format), ("account_id", .str row.accountId.format),
      ("name", .str row.name), ("map_id", .num row.mapId.toInt), ("level", .num row.level.toInt)]))

def moveCharacterHandler (auth : Option HeaderValue) (characterId : CharacterId) (mapId : MapId)
    (x y : Int32) : Api Json := do
  let principal ← authenticate auth .charactersWrite
  orDbError (moveCharacter characterId mapId x y)
  auditAction principal "characters.move" "character" characterId.format
    (.obj [("map_id", .num mapId.toInt), ("x", .num x.toInt), ("y", .num y.toInt)]) none
  pure (.obj [("ok", .bool true)])

def disconnectCharacter (auth : Option HeaderValue) (characterId : CharacterId) : Api Json := do
  let principal ← authenticate auth .charactersDisconnect
  auditAction principal "characters.disconnect" "character" characterId.format (.obj []) none
  pure (.obj [("ok", .bool true), ("note", .str "disconnect command queued")])

def characterInventory (auth : Option HeaderValue) (characterId : CharacterId) : Api Json := do
  let principal ← authenticate auth .charactersRead
  let o ← Handler.given
  let inventory ← orDbError (query fun _ => o.inventory characterId)
  auditAction principal "characters.inventory.inspect" "character" characterId.format (.obj []) none
  pure (.obj [("items", .arr inventory)])

/-! ### The world -/

def listMaps (auth : Option HeaderValue) : Api Json := do
  let principal ← authenticate auth .worldRead
  let o ← Handler.given
  let maps ← orDbError (query fun db => db.listMaps)
  let active ← orDbError (query fun db => db.listActiveMapIds)
  let playersByMap := ((o.worldStats.map (·.playersByMap)).getD []).reverse
  let players (m : MapRow) : UInt64 :=
    ((playersByMap.find? fun entry => entry.1 == m.id).map (·.2)).getD 0
  let isActive (m : MapRow) : Bool := active.contains m.id || decide (0 < players m)
  auditAction principal "world.maps.list" "world" "maps"
    (.obj [("count", .num maps.length), ("active", .num (maps.countP isActive))]) none
  pure (.obj [("maps", .arr (maps.map fun m => .obj
      [("map_id", .num m.id.toInt), ("code", .str m.code), ("name", .str m.name),
        ("tick_ms", .num m.tickMs.toInt), ("players_online", .num (players m).toNat),
        ("is_active", .bool (isActive m))])),
    ("active_count", .num (maps.countP isActive))])

def activateMap (auth : Option HeaderValue) (mapId : MapId) : Api Json := do
  let principal ← authenticate auth .worldWrite
  let worldResult ← invokeWorldMapControl mapId .activate
  let persisted ← orDbError (activateMapRow mapId)
  if ¬ persisted then do
    Handler.ignore (invokeWorldMapControl mapId .deactivate)
    apiFail (.badRequest "map not found")
  else do
    let changed := worldResult.changed.getD false
    auditAction principal "world.map.activate" "map" (toString mapId)
      (.obj [("runtime_changed", .bool changed)]) none
    pure (.obj [("ok", .bool true), ("map_id", .num mapId.toInt),
      ("runtime_changed", .bool changed),
      ("note", .str (if changed then "map runtime activated and persisted"
        else "map runtime already active; registry state confirmed"))])

def deactivateMap (auth : Option HeaderValue) (mapId : MapId) : Api Json := do
  let principal ← authenticate auth .worldWrite
  let worldResult ← invokeWorldMapControl mapId .deactivate
  let persisted ← orDbError (deactivateMapRow mapId)
  if ¬ persisted then do
    Handler.ignore (invokeWorldMapControl mapId .activate)
    apiFail (.badRequest "map not found")
  else do
    let changed := worldResult.changed.getD false
    auditAction principal "world.map.deactivate" "map" (toString mapId)
      (.obj [("runtime_changed", .bool changed)]) none
    pure (.obj [("ok", .bool true), ("map_id", .num mapId.toInt),
      ("runtime_changed", .bool changed),
      ("note", .str (if changed then "map runtime deactivated and persisted"
        else "map runtime already inactive; registry state confirmed"))])

def restartMapInstance (auth : Option HeaderValue) (mapId : MapId) : Api Json := do
  let principal ← authenticate auth .worldWrite
  let stopped ← invokeWorldMapControl mapId .deactivate
  let started ← invokeWorldMapControl mapId .activate
  let persisted ← orDbError (activateMapRow mapId)
  if ¬ persisted then do
    Handler.ignore (invokeWorldMapControl mapId .deactivate)
    apiFail (.badRequest "map not found")
  else do
    let stopChanged := stopped.changed.getD false
    let startChanged := started.changed.getD false
    auditAction principal "world.map.restart" "map" (toString mapId)
      (.obj [("runtime_stop_changed", .bool stopChanged),
        ("runtime_start_changed", .bool startChanged)]) none
    pure (.obj [("ok", .bool true), ("map_id", .num mapId.toInt),
      ("runtime_stop_changed", .bool stopChanged), ("runtime_start_changed", .bool startChanged),
      ("note", .str "map runtime restarted")])

def broadcast (auth : Option HeaderValue) (message : String) : Api Json :=
  if trim message = "" then apiFail (.badRequest "message cannot be empty")
  else do
    let principal ← authenticate auth .broadcastSend
    let o ← Handler.given
    let status ← Handler.ofExcept ((o.worldBroadcast message).mapError fun e =>
      .api (.internal s!"world dispatch failed: {e}"))
    if ¬ (200 ≤ status ∧ status < 300) then
      apiFail (.internal s!"world rejected broadcast with status {o.statusText status}")
    else do
      auditAction principal "world.broadcast" "world" "all" (.obj [("message", .str message)]) none
      pure (.obj [("ok", .bool true)])

def toggleEvent (auth : Option HeaderValue) (eventCode : String) (enabled : Bool) : Api Json := do
  let principal ← authenticate auth .worldWrite
  auditAction principal "world.event.toggle" "event" eventCode (.obj [("enabled", .bool enabled)])
    none
  pure (.obj [("ok", .bool true)])

/-! ### Moderation -/

structure ModerationActionRequest where
  scope : String
  accountId : Option AccountId
  characterId : Option CharacterId
  reason : String
  minutes : Option Int64

/-- When a sanction that begins now ends, unless computing that panics. -/
def sanctionEnd (o : Outside) : Option Int64 → Option (Option Time)
  | none => some none
  | some m => (o.plusSeconds o.now (60 * m.toInt)).map some

/-- The target of a moderation as the audit log has it. -/
def moderationTarget (req : ModerationActionRequest) : String :=
  ((req.characterId.map Uuid.format).or (req.accountId.map Uuid.format)).getD "unknown"

def moderationAction (auth : Option HeaderValue) (req : ModerationActionRequest) (action : String) :
    Api Json := do
  let principal ← authenticate auth .moderationWrite
  if trim req.reason = "" then apiFail (.badRequest "reason is required")
  else do
    let o ← Handler.given
    let endsAt ← Handler.ofOption .panicked (sanctionEnd o req.minutes)
    orDbError (createSanction ⟨req.accountId, req.characterId, action, req.reason, o.now, endsAt,
      some principal.adminUserId⟩)
    auditAction principal s!"moderation.{action}" "moderation" (moderationTarget req)
      (.obj [("reason", .str req.reason),
        ("minutes", (req.minutes.map fun m => Json.num m.toInt).getD .null),
        ("scope", .str req.scope)]) none
    pure (.obj [("ok", .bool true)])

def moderationMute (auth : Option HeaderValue) (req : ModerationActionRequest) : Api Json :=
  moderationAction auth req "mute"

def moderationJail (auth : Option HeaderValue) (req : ModerationActionRequest) : Api Json :=
  moderationAction auth req "jail"

def moderationBan (auth : Option HeaderValue) (req : ModerationActionRequest) : Api Json :=
  moderationAction auth req "ban"

end HelbreathBackend.AdminApi
