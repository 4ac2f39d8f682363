import HelbreathBackend.AdminAudit
import HelbreathBackend.Lib.Script

/-!
The handlers of the administration service, step by step.

Each statement, each call and each access to the table of the sessions is a step of its own, with a
clock of its own. With nobody else around, a script does what its handler does.
-/

namespace HelbreathBackend.AdminScripts

open HelbreathBackend.Lib HelbreathBackend.Lib.Script HelbreathBackend.Domain
open HelbreathBackend.Infrastructure HelbreathBackend.AdminApi
open HelbreathBackend.Application (trim)

/-- What the steps work on: the backend, and what the service has asked of the machine and of the
players. -/
structure World where
  backend : Backend
  /-- the systemctl actions that were run -/
  ran : List (String × ServiceControlAction)
  /-- the broadcasts that were sent to the world service -/
  sent : List String

abbrev AdminScript (α : Type) := Script Outside World Failure α

def step {α : Type} (h : Api α) : AdminScript α :=
  atomOn World.backend (fun b w => { w with backend := b }) h

def given : AdminScript Outside := step Handler.given

/-! ### Sessions -/

def authenticate (authorization : Option HeaderValue) (permission : Permission) :
    AdminScript AdminPrincipal := do
  step pruneExpiredSessions
  let token ← ofExcept (extractBearerToken authorization)
  let session ← step (Handler.look fun b => b.sessions.lookup token)
  let session ← ofOption (.api (.unauthorized "invalid admin token")) session
  match requirePermission session.principal permission with
  | .ok _ => pure session.principal
  | .error e => fail (.api (.forbidden s!"forbidden: {e}"))

def findAdminForLogin (email : String) : AdminScript (Option AdminAuthRecord) := do
  let row ← step (orDbError (query fun db =>
    db.adminUsers.rows.find? fun u => u.email == email && u.status == "active"))
  match row with
  | none => pure none
  | some row => do
    let roles ← step (orDbError (query fun db => rolesOf db row.id))
    pure (some ⟨row.id, row.email, row.passwordHash, roles⟩)

/-- Put a new session into the table. -/
def insertSession (principal : AdminPrincipal) (expiresAt : Time) : Api String := do
  let o ← Handler.given
  Handler.change fun b =>
    { b with sessions := b.sessions.insert o.token.format ⟨principal, expiresAt⟩ }
  pure o.token.format

def adminLogin (req : AdminLoginRequest) : AdminScript Json :=
  if trim req.email = "" ∨ req.password = "" then
    fail (.api (.badRequest "email/password required"))
  else do
    let record ← findAdminForLogin (trim req.email)
    let o ← given
    let principal ← ofExcept (loginPrincipal o req record)
    let expiresAt ← ofOption .panicked (newExpiry o)
    let token ← step (insertSession principal expiresAt)
    pure (.obj [("ok", .bool true), ("token", .str token),
      ("expires_at_unix", .num (expiresAt / 1000000))])

def adminLogout (authorization : Option HeaderValue) : AdminScript Json := do
  let token ← ofExcept (extractBearerToken authorization)
  step (Handler.change fun b => { b with sessions := b.sessions.erase token })
  pure (.obj [("ok", .bool true)])

/-! ### What the requests are about -/

/-- Write the row, and answer. -/
def audit (req : AdminRequest) (principal : AdminPrincipal) (payload answer : Json) :
    AdminScript Json := do
  step (auditAction principal req.actionType req.targetType req.target payload none)
  pure answer

/-- The two steps of `activate_map`. -/
def activateMapRow (mapId : MapId) : AdminScript Bool := do
  let mapExists ← step (orDbError (query fun db => db.mapExists mapId))
  if mapExists then
    step (orDbError (Handler.given >>= fun o => statement fun db =>
      (db.activateInstance o.now o.instanceId mapId).map fun db => (true, db)))
  else pure false

/-- The two steps of `deactivate_map`. -/
def deactivateMapRow (mapId : MapId) : AdminScript Bool := do
  let mapExists ← step (orDbError (query fun db => db.mapExists mapId))
  if mapExists then
    step (orDbError (Handler.given >>= fun o => statement fun db =>
      .ok (true, db.stopInstances o.now mapId)))
  else pure false

/-- Run the action; it may have been run and fail all the same. -/
def runSystemctlAction (unit : String) (action : ServiceControlAction) : AdminScript Unit :=
  atom fun o w => ((o.runSystemctlAction unit action).mapError fun e => .api (.internal e),
    { w with ran := w.ran ++ [(unit, action)] })

/-- Post the message; it may have arrived and fail all the same. -/
def postBroadcast (message : String) : AdminScript ℕ :=
  atom fun o w => ((o.worldBroadcast message).mapError fun e =>
      .api (.internal s!"world dispatch failed: {e}"), { w with sent := w.sent ++ [message] })

def moderationAction (request : AdminRequest) (principal : AdminPrincipal)
    (req : ModerationActionRequest) (action : String) : AdminScript Json :=
  if trim req.reason = "" then fail (.api (.badRequest "reason is required"))
  else do
    let o ← given
    let endsAt ← ofOption .panicked (sanctionEnd o req.minutes)
    step (orDbError (createSanction ⟨req.accountId, req.characterId, action, req.reason, o.now,
      endsAt, some principal.adminUserId⟩))
    audit request principal (.obj [("reason", .str req.reason),
      ("minutes", (req.minutes.map fun m => Json.num m.toInt).getD .null),
      ("scope", .str req.scope)]) (.obj [("ok", .bool true)])

/-- What the handlers of maps do when the registry has answered. -/
def persisted (persisted : Bool) (mapId : MapId) (undo : MapControl) (rest : AdminScript Json) :
    AdminScript Json :=
  if ¬ persisted then do
    step (Handler.ignore (invokeWorldMapControl mapId undo))
    fail (.api (.badRequest "map not found"))
  else rest

/-- What a request does once its principal is known. -/
def work (principal : AdminPrincipal) (request : AdminRequest) : AdminScript Json :=
  match request with
  | .managedServicesStatus => do
    let o ← given
    let rows := (managedServiceDefs o.settings).map fun service => Json.obj
      [("service", .str service.key), ("label", .str service.label), ("unit", .str service.unit),
        ("health", .str (o.probeServiceHealth service.baseUrl)),
        ("unit_state", .str (o.systemdUnitState service.unit))]
    audit request principal (.obj [("count", .num rows.length)]) (.obj [("services", .arr rows)])
  | .managedServiceControl service action => do
    let o ← given
    let target ← ofOption (.api (.badRequest "service not found"))
      ((managedServiceDefs o.settings).find? fun svc => svc.key == service)
    let parsed ← ofOption (.api (.badRequest "invalid action, use start|restart|stop"))
      (ServiceControlAction.parse action)
    runSystemctlAction target.unit parsed
    let o ← given
    let unitState := o.systemdUnitState target.unit
    let health := o.probeServiceHealth target.baseUrl
    audit request principal (.obj [("action", .str parsed.asStr), ("unit", .str target.unit),
        ("unit_state", .str unitState), ("health", .str health)])
      (.obj [("ok", .bool true), ("service", .str target.key), ("action", .str parsed.asStr),
        ("unit", .str target.unit), ("unit_state", .str unitState), ("health", .str health),
        ("note", .str s!"accion {parsed.asStr} enviada a {target.unit}")])
  | .managedServiceLogs service lines => do
    let o ← given
    let target ← ofOption (.api (.badRequest "service not found"))
      ((managedServiceDefs o.settings).find? fun svc => svc.key == service)
    let lines := max 20 (min (lines.getD 120) 400)
    let (logText, readOk) := match o.runJournalctlTail target.unit lines with
      | .ok text => (text, true)
      | .error err => (s!"No se pudieron leer logs via journalctl: {err}", false)
    audit request principal
      (.obj [("unit", .str target.unit), ("lines", .num lines.toNat), ("read_ok", .bool readOk)])
      (.obj [("service", .str target.key), ("unit", .str target.unit),
        ("lines", .num lines.toNat), ("read_ok", .bool readOk),
        ("log", .str (if trim logText = "" then "(sin logs recientes)" else logText))])
  | .searchAccounts text limit => do
    let o ← given
    let needle := text.getD ""
    let rows ← step (orDbError (query fun db =>
      ((db.accounts.rows.filter fun a =>
        o.ilike a.username s!"%{needle}%" || o.ilike (a.email.getD "") s!"%{needle}%").mergeSort
          fun a b => o.collate a.username b.username).take (searchLimit limit)))
    audit request principal (.obj [("limit", .num (searchLimit limit))])
      (.arr (rows.map fun row => .obj
        [("account_id", .str row.id.format), ("username", .str row.username),
          ("status", .str (Database.AccountStatus.code (Database.accountStatusOf row.status))),
          ("failed_login_count", .num 0), ("last_login_at", .null)]))
  | .blockAccount accountId => do
    step (orDbError (setAccountStatus accountId .banned))
    audit request principal (.obj []) (.obj [("ok", .bool true)])
  | .unblockAccount accountId => do
    step (orDbError (setAccountStatus accountId .active))
    audit request principal (.obj []) (.obj [("ok", .bool true)])
  | .resetAccountPassword _ => do
    let o ← given
    audit request principal (.obj [("ticket", .str o.ticket.format)])
      (.obj [("ok", .bool true), ("workflow_ticket", .str o.ticket.format),
        ("note", .str "internal workflow: issue temp credential or reset link out-of-band")])
  | .accountSanctions accountId => do
    let o ← given
    let sanctions ← step (orDbError (query fun db => db.listAccountSanctions accountId 200))
    audit request principal (.obj [("count", .num sanctions.length)])
      (.obj [("rows", .arr (sanctions.map fun s => .obj
        [("id", .str s.id.format), ("account_id", idOrNull s.accountId),
          ("character_id", idOrNull s.characterId), ("sanction_type", .str s.sanctionType),
          ("reason", .str s.reason), ("starts_at", .str (o.timestamp s.startsAt)),
          ("ends_at", (s.endsAt.map fun t => Json.str (o.timestamp t)).getD .null),
          ("created_at", .str (o.timestamp s.createdAt))]))])
  | .searchCharacters text limit => do
    let o ← given
    let needle := text.getD ""
    let rows ← step (orDbError (query fun db =>
      ((db.characters.rows.filter fun c => !c.isDeleted && o.ilike c.name s!"%{needle}%").mergeSort
        fun a b => o.collate a.name b.name).take (searchLimit limit)))
    audit request principal (.obj [("limit", .num (searchLimit limit))])
      (.arr (rows.map fun row => .obj
        [("character_id", .str row.id.format), ("account_id", .str row.accountId.format),
          ("name", .str row.name), ("map_id", .num row.mapId.toInt),
          ("level", .num row.level.toInt)]))
  | .moveCharacter characterId mapId x y => do
    step (orDbError (moveCharacter characterId mapId x y))
    audit request principal
      (.obj [("map_id", .num mapId.toInt), ("x", .num x.toInt), ("y", .num y.toInt)])
      (.obj [("ok", .bool true)])
  | .disconnectCharacter _ =>
    audit request principal (.obj [])
      (.obj [("ok", .bool true), ("note", .str "disconnect command queued")])
  | .characterInventory characterId => do
    let o ← given
    let inventory ← step (orDbError (query fun _ => o.inventory characterId))
    audit request principal (.obj []) (.obj [("items", .arr inventory)])
  | .listMaps => do
    let o ← given
    let maps ← step (orDbError (query fun db => db.listMaps))
    let active ← step (orDbError (query fun db => db.listActiveMapIds))
    let playersByMap := ((o.worldStats.map (·.playersByMap)).getD []).reverse
    let players (m : MapRow) : UInt64 :=
      ((playersByMap.find? fun entry => entry.1 == m.id).map (·.2)).getD 0
    let isActive (m : MapRow) : Bool := active.contains m.id || decide (0 < players m)
    audit request principal
      (.obj [("count", .num maps.length), ("active", .num (maps.countP isActive))])
      (.obj [("maps", .arr (maps.map fun m => .obj
        [("map_id", .num m.id.toInt), ("code", .str m.code), ("name", .str m.name),
          ("tick_ms", .num m.tickMs.toInt), ("players_online", .num (players m).toNat),
          ("is_active", .bool (isActive m))])),
        ("active_count", .num (maps.countP isActive))])
  | .activateMap mapId => do
    let worldResult ← step (invokeWorldMapControl mapId .activate)
    let found ← activateMapRow mapId
    let changed := worldResult.changed.getD false
    persisted found mapId .deactivate (audit request principal
      (.obj [("runtime_changed", .bool changed)])
      (.obj [("ok", .bool true), ("map_id", .num mapId.toInt),
        ("runtime_changed", .bool changed),
        ("note", .str (if changed then "map runtime activated and persisted"
          else "map runtime already active; registry state confirmed"))]))
  | .deactivateMap mapId => do
    let worldResult ← step (invokeWorldMapControl mapId .deactivate)
    let found ← deactivateMapRow mapId
    let changed := worldResult.changed.getD false
    persisted found mapId .activate (audit request principal
      (.obj [("runtime_changed", .bool changed)])
      (.obj [("ok", .bool true), ("map_id", .num mapId.toInt),
        ("runtime_changed", .bool changed),
        ("note", .str (if changed then "map runtime deactivated and persisted"
          else "map runtime already inactive; registry state confirmed"))]))
  | .restartMapInstance mapId => do
    let stopped ← step (invokeWorldMapControl mapId .deactivate)
    let started ← step (invokeWorldMapControl mapId .activate)
    let found ← activateMapRow mapId
    let stopChanged := stopped.changed.getD false
    let startChanged := started.changed.getD false
    persisted found mapId .deactivate (audit request principal
      (.obj [("runtime_stop_changed", .bool stopChanged),
        ("runtime_start_changed", .bool startChanged)])
      (.obj [("ok", .bool true), ("map_id", .num mapId.toInt),
        ("runtime_stop_changed", .bool stopChanged), ("runtime_start_changed", .bool startChanged),
        ("note", .str "map runtime restarted")]))
  | .broadcast message => do
    let o ← given
    let status ← postBroadcast message
    if ¬ (200 ≤ status ∧ status < 300) then
      fail (.api (.internal s!"world rejected broadcast with status {o.statusText status}"))
    else audit request principal (.obj [("message", .str message)]) (.obj [("ok", .bool true)])
  | .toggleEvent _ enabled =>
    audit request principal (.obj [("enabled", .bool enabled)]) (.obj [("ok", .bool true)])
  | .moderationMute req => moderationAction request principal req "mute"
  | .moderationJail req => moderationAction request principal req "jail"
  | .moderationBan req => moderationAction request principal req "ban"

/-- A broadcast of nothing is refused before anything else. -/
def refusal : AdminRequest → Option ApiError
  | .broadcast message =>
    if trim message = "" then some (.badRequest "message cannot be empty") else none
  | _ => none

/-- A request of an administrator. -/
def serve (auth : Option HeaderValue) (request : AdminRequest) : AdminScript Json :=
  match refusal request with
  | some err => fail (.api err)
  | none => do
    let principal ← authenticate auth request.permission
    work principal request

/-! ### Requests that leave no row -/

/-- The metrics of the process that the dashboard shows. -/
structure MetricsSnapshot where
  activeConnections : UInt64
  tickDurationMsLast : UInt64
  tickOverrunsTotal : UInt64
  playersOnlineTotal : UInt64

/-- The players by map; none on each map of the catalog where the world service does not answer. -/
def playersByMap (o : Outside) : AdminScript (List (MapId × UInt64)) :=
  match o.worldStats with
  | some stats => pure stats.playersByMap
  | none => do
    let maps ← step (orDbError (query fun db => db.listMaps))
    pure (maps.map fun m => (m.id, 0))

/-- `avg_tick_ms` is a float, which shows a number of this size exactly below `2 ^ 53`. -/
def dashboard (auth : Option HeaderValue) (snapshot : MetricsSnapshot) : AdminScript Json := do
  let _ ← authenticate auth .metricsRead
  let o ← given
  let players ← playersByMap o
  let onlinePlayers := (o.worldStats.map (·.onlinePlayers)).getD snapshot.playersOnlineTotal
  let o ← given
  pure (.obj [("active_connections", .num snapshot.activeConnections.toNat),
    ("online_players", .num onlinePlayers.toNat),
    ("players_by_map", .arr (players.map fun entry => .obj
      [("map_id", .num entry.1.toInt), ("players", .num entry.2.toNat)])),
    ("avg_tick_ms", .num snapshot.tickDurationMsLast.toNat),
    ("tick_overruns", .num snapshot.tickOverrunsTotal.toNat), ("recent_errors", .arr []),
    ("service_status", .arr ((managedServiceDefs o.settings).map fun service => .obj
      [("service", .str service.key), ("status", .str (o.probeServiceHealth service.baseUrl))]))])

def listAdminAudit (db : Database) (limit : ℕ) : List AdminAuditRow :=
  (db.adminAuditLogs.rows.mergeSort fun a b => b.createdAt ≤ a.createdAt).take limit

def textOrNull : Option String → Json
  | some text => .str text
  | none => .null

/-- The limit is `limit.unwrap_or(100).clamp(1, 500)`. -/
def auditLogs (auth : Option HeaderValue) (limit : Option Int64) : AdminScript Json := do
  let _ ← authenticate auth .auditRead
  let o ← given
  let limit := (max 1 (min (limit.getD 100).toInt 500)).toNat
  let rows ← step (orDbError (query fun db => listAdminAudit db limit))
  pure (.obj [("rows", .arr (rows.map fun row => .obj
    [("id", .str row.id.format), ("admin_user_id", idOrNull row.adminUserId),
      ("action_type", .str row.actionType), ("target_type", .str row.targetType),
      ("target_id", .str row.targetId), ("request_id", textOrNull row.requestId),
      ("payload", row.payload), ("ip_address", textOrNull row.ipAddress),
      ("created_at", .str (o.timestamp row.createdAt))]))])

/-! ### With nobody else around -/

section

variable {o : Outside} {α : Type}

/-- The script does to the backend what the handler does. -/
abbrev Does (o : Outside) (s : AdminScript α) (h : Api α) : Prop := Refines World.backend o s h

lemma does_step (h : Api α) : Does o (step h) h := refines_atomOn (fun _ _ => rfl) h

/-- Both ask for what comes with the request. -/
lemma does_given {k : Outside → AdminScript α} {g : Outside → Api α} (h : Does o (k o) (g o)) :
    Does o (given >>= k) (Handler.given >>= g) := h

/-- The script alone asks for what comes with the request. -/
lemma does_given_left {k : Outside → AdminScript α} {h : Api α} (hk : Does o (k o) h) :
    Does o (given >>= k) h := hk

lemma does_audit {request : AdminRequest} {principal : AdminPrincipal} {payload answer : Json} :
    Does o (audit request principal payload answer)
      (auditAction principal request.actionType request.targetType request.target payload none >>=
        fun _ => pure answer) := (does_step _).bind fun _ => refines_pure _

lemma does_authenticate (auth : Option HeaderValue) (permission : Permission) :
    Does o (authenticate auth permission) (AdminApi.authenticate auth permission) := by
  refine (does_step _).bind fun _ => (refines_ofExcept _).bind fun token => ?_
  refine (does_step _).bind fun session => .bind_ofOption fun session _ => ?_
  rcases requirePermission session.principal permission with e | _
  · exact refines_fail _
  · exact refines_pure _

lemma orDbError_bind {β : Type} (h : Repo α) (k : α → Repo β) :
    orDbError (h >>= k) = orDbError h >>= fun a => orDbError (k a) := Handler.mapError_bind _

lemma does_findAdminForLogin (email : String) :
    Does o (findAdminForLogin email) (orDbError (AdminApi.findAdminForLogin email)) := by
  unfold AdminApi.findAdminForLogin
  rw [orDbError_bind]
  refine (does_step _).bind fun row => ?_
  cases row with
  | none => exact refines_pure _
  | some row =>
    dsimp only
    rw [orDbError_bind]
    exact (does_step _).bind fun roles => refines_pure _

/-- The two steps of the registry. -/
lemma does_mapRow {mapId : MapId} {f : Outside → Repo Bool} :
    Does o (step (orDbError (query fun db => db.mapExists mapId)) >>= fun found =>
        if found = true then step (orDbError (Handler.given >>= f)) else pure false)
      (orDbError (Handler.given >>= fun o => query (fun db => db.mapExists mapId) >>= fun found =>
        if found = true then f o else pure false)) := by
  have hsplit : Does o (step (orDbError (query fun db => db.mapExists mapId)) >>= fun found =>
        if found = true then step (orDbError (Handler.given >>= f)) else pure false)
      (orDbError (query (fun db => db.mapExists mapId) >>= fun found =>
        if found = true then f o else pure false)) := by
    rw [orDbError_bind (query _)]
    refine (does_step _).bind fun found => ?_
    cases found with
    | true => exact does_step _
    | false => exact refines_pure _
  exact hsplit

lemma does_persisted {found : Bool} {mapId : MapId} {undo : MapControl} {rest : AdminScript Json}
    {h : Api Json} (hrest : Does o rest h) :
    Does o (persisted found mapId undo rest)
      (if ¬ found = true then
        Handler.ignore (invokeWorldMapControl mapId undo) >>= fun _ =>
          apiFail (.badRequest "map not found")
      else h) := by
  unfold persisted
  split
  · exact (does_step _).bind fun _ => refines_fail _
  · exact hrest

lemma does_moderationAction {request : AdminRequest} {principal : AdminPrincipal}
    {req : ModerationActionRequest} {action : String}
    (htype : request.actionType = s!"moderation.{action}")
    (htarget : request.targetType = "moderation" ∧ request.target = moderationTarget req) :
    Does o (moderationAction request principal req action)
      (if trim req.reason = "" then apiFail (.badRequest "reason is required")
      else Handler.given >>= fun o => Handler.ofOption .panicked (sanctionEnd o req.minutes) >>=
        fun endsAt => orDbError (createSanction ⟨req.accountId, req.characterId, action, req.reason,
          o.now, endsAt, some principal.adminUserId⟩) >>= fun _ =>
        auditAction principal s!"moderation.{action}" "moderation" (moderationTarget req)
          (.obj [("reason", .str req.reason),
            ("minutes", (req.minutes.map fun m => Json.num m.toInt).getD .null),
            ("scope", .str req.scope)]) none >>= fun _ =>
        pure (.obj [("ok", .bool true)])) := by
  unfold moderationAction
  split
  · exact refines_fail _
  · refine does_given (.bind_ofOption fun endsAt _ => (does_step _).bind fun _ => ?_)
    rw [← htype, ← htarget.1, ← htarget.2]
    exact does_audit

/-- A request that is not refused at once. -/
lemma does_work (auth : Option HeaderValue) (request : AdminRequest)
    (hrefused : refusal request = none) :
    Does o (authenticate auth request.permission >>= fun principal => work principal request)
      (request.serve auth) := by
  have hauth := does_authenticate (o := o) auth request.permission
  cases request with
  | managedServicesStatus => exact hauth.bind fun p => does_given does_audit
  | managedServiceControl service action =>
    refine hauth.bind fun p => does_given (.bind_ofOption fun svc hfind => ?_)
    obtain rfl : svc.key = service :=
      beq_iff_eq.mp (List.find?_some (p := fun svc : ManagedServiceDef => svc.key == service) hfind)
    refine .bind_ofOption fun parsed _ => Refines.bind (refines_atom fun _ => rfl) fun _ => ?_
    exact does_given_left does_audit
  | managedServiceLogs service lines =>
    refine hauth.bind fun p => does_given (.bind_ofOption fun svc hfind => ?_)
    obtain rfl : svc.key = service :=
      beq_iff_eq.mp (List.find?_some (p := fun svc : ManagedServiceDef => svc.key == service) hfind)
    dsimp only
    rcases o.runJournalctlTail svc.unit (max 20 (min (lines.getD 120) 400)) with err | text
    · exact does_audit
    · exact does_audit
  | searchAccounts text limit | accountSanctions accountId | searchCharacters text limit
  | characterInventory characterId =>
    exact hauth.bind fun p => does_given ((does_step _).bind fun _ => does_audit)
  | blockAccount accountId | unblockAccount accountId | moveCharacter characterId mapId x y =>
    exact hauth.bind fun p => (does_step _).bind fun _ => does_audit
  | resetAccountPassword accountId => exact hauth.bind fun p => does_given does_audit
  | disconnectCharacter characterId | toggleEvent eventCode enabled =>
    exact hauth.bind fun p => does_audit
  | listMaps =>
    exact hauth.bind fun p => does_given ((does_step _).bind fun maps =>
      (does_step _).bind fun active => does_audit)
  | activateMap mapId | deactivateMap mapId =>
    exact hauth.bind fun p => (does_step _).bind fun wire => does_mapRow.bind fun found =>
      does_persisted does_audit
  | restartMapInstance mapId =>
    exact hauth.bind fun p => (does_step _).bind fun stopped => (does_step _).bind fun started =>
      does_mapRow.bind fun found => does_persisted does_audit
  | broadcast message =>
    have hfull : ¬ trim message = "" := fun hblank => by
      rw [refusal, if_pos hblank] at hrefused
      cases hrefused
    change Does o _ (AdminApi.broadcast auth message)
    unfold AdminApi.broadcast
    rw [if_neg hfull]
    refine hauth.bind fun p =>
      does_given (Refines.bind (refines_atom fun _ => rfl) fun status => ?_)
    split
    · exact refines_fail _
    · exact does_audit
  | moderationMute req => exact hauth.bind fun p => does_moderationAction rfl ⟨rfl, rfl⟩
  | moderationJail req => exact hauth.bind fun p => does_moderationAction rfl ⟨rfl, rfl⟩
  | moderationBan req => exact hauth.bind fun p => does_moderationAction rfl ⟨rfl, rfl⟩

/-- **With nobody else around**, the script of a request does what its handler does. -/
theorem does_serve (auth : Option HeaderValue) (request : AdminRequest) :
    Does o (serve auth request) (request.serve auth) := by
  rcases hrefused : refusal request with _ | err
  · have hserve : serve auth request = authenticate auth request.permission >>= fun principal =>
        work principal request := by
      unfold serve
      rw [hrefused]
    rw [hserve]
    exact does_work auth request hrefused
  · have hserve : serve auth request = fail (.api err) := by
      unfold serve
      rw [hrefused]
    rw [hserve]
    unfold refusal at hrefused
    split at hrefused
    · next message =>
      split at hrefused
      · next hblank =>
        cases hrefused
        change Does o _ (AdminApi.broadcast auth message)
        unfold AdminApi.broadcast
        rw [if_pos hblank]
        exact refines_fail _
      · cases hrefused
    · cases hrefused

theorem does_adminLogin (req : AdminLoginRequest) :
    Does o (adminLogin req) (AdminApi.adminLogin req) := by
  unfold adminLogin AdminApi.adminLogin
  split
  · exact refines_fail _
  · refine refines_given ((does_findAdminForLogin _).bind fun record => does_given_left ?_)
    refine (refines_ofExcept _).bind fun principal => .bind_ofOption fun expiresAt _ => ?_
    exact fun _ => ⟨rfl, rfl⟩

theorem does_adminLogout (auth : Option HeaderValue) :
    Does o (adminLogout auth) (AdminApi.adminLogout auth) :=
  (refines_ofExcept _).bind fun _ => (does_step _).bind fun _ => refines_pure _

end

end HelbreathBackend.AdminScripts
