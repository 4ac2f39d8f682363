import HelbreathBackend.AdminScripts
import HelbreathBackend.AdminTokens
import HelbreathBackend.Lib.Transition

/-!
By whose authority the administration service acts.

Requests are handled at the same time, step by step, while other services change the database and
the maps. A step that changes anything beside the table of the sessions belongs to a request that
has found its token in that table before, and what is in the table was put there by a login that
had the password, and has not been logged out since.
-/

namespace HelbreathBackend.AdminAuthority

open HelbreathBackend.Lib HelbreathBackend.Lib.Script HelbreathBackend.Domain
open HelbreathBackend.Infrastructure HelbreathBackend.AdminApi HelbreathBackend.AdminScripts
open HelbreathBackend.Application (trim)

/-! ### What there is to change -/

structure Site where
  db : Database
  /-- the maps with a runtime in the world service -/
  runtimes : Finset MapId
  sessions : FMap String AdminSession
  ran : List (String × ServiceControlAction)
  sent : List String

def site (w : World) : Site := ⟨w.backend.db, w.backend.runtimes, w.backend.sessions, w.ran, w.sent⟩

/-- The site, with what becomes of the statement and of the call of a step. -/
def Site.world (s : Site) (dbFates : List DbFate) (worldFates : List WorldFate) : World :=
  ⟨⟨s.db, dbFates, s.runtimes, worldFates, s.sessions⟩, s.ran, s.sent⟩

/-- The sanction that a request asks for. -/
def sanctionOf : AdminRequest → Option (ModerationActionRequest × String)
  | .moderationMute req => some (req, "mute")
  | .moderationJail req => some (req, "jail")
  | .moderationBan req => some (req, "ban")
  | _ => none

/-- The map that a request controls. -/
def mapOf : AdminRequest → Option MapId
  | .activateMap mapId | .deactivateMap mapId | .restartMapInstance mapId => some mapId
  | _ => none

/-- What a step may change on behalf of a request, once its principal is known. -/
inductive Change (request : AdminRequest) (principal : AdminPrincipal) (o : Outside) (s : Site) :
    Site → Prop
  | row {payload : Json} {db : Database}
      (hdb : s.db.insertAdminAudit o.inet o.now o.auditId ⟨principal.adminUserId,
        request.actionType, request.targetType, request.target, payload,
        some o.correlationId.format, none⟩ = .ok db) :
      Change request principal o s { s with db := db }
  | status {accountId : AccountId} {status : AccountStatus}
      (h : request = .blockAccount accountId ∧ status = .banned ∨
        request = .unblockAccount accountId ∧ status = .active) :
      Change request principal o s { s with db := s.db.setAccountStatus accountId status }
  | place {characterId : CharacterId} {mapId : MapId} {x y : Int32} {db : Database}
      (h : request = .moveCharacter characterId mapId x y)
      (hdb : s.db.moveCharacter o.now characterId mapId x y = .ok db) :
      Change request principal o s { s with db := db }
  | sanction {req : ModerationActionRequest} {action : String} {startsAt : Time}
      {endsAt : Option Time} {db : Database} (h : sanctionOf request = some (req, action))
      (hdb : s.db.createSanction o.now o.sanctionId ⟨req.accountId, req.characterId, action,
        req.reason, startsAt, endsAt, some principal.adminUserId⟩ = .ok db) :
      Change request principal o s { s with db := db }
  | registered {mapId : MapId} {db : Database}
      (h : request = .activateMap mapId ∨ request = .restartMapInstance mapId)
      (hdb : s.db.activateInstance o.now o.instanceId mapId = .ok db) :
      Change request principal o s { s with db := db }
  | stopped {mapId : MapId} (h : request = .deactivateMap mapId) :
      Change request principal o s { s with db := s.db.stopInstances o.now mapId }
  | runtime {mapId : MapId} {weather : WorldWeather} {action : MapControl}
      (h : mapOf request = some mapId) :
      Change request principal o s
        { s with runtimes := (serveMapControl s.db s.runtimes mapId weather action).2 }
  | command {service action : String} {settings : Settings} {svc : ManagedServiceDef}
      {parsed : ServiceControlAction} (h : request = .managedServiceControl service action)
      (hsvc : svc ∈ managedServiceDefs settings) (hkey : svc.key = service)
      (hparsed : ServiceControlAction.parse action = some parsed) :
      Change request principal o s { s with ran := s.ran ++ [(svc.unit, parsed)] }
  | message {message : String} (h : request = .broadcast message) :
      Change request principal o s { s with sent := s.sent ++ [message] }

/-! ### The requests of the service -/

inductive Call
  | login (req : AdminLoginRequest)
  | logout (auth : Option HeaderValue)
  | request (auth : Option HeaderValue) (asked : AdminRequest)
  | dashboard (auth : Option HeaderValue) (snapshot : MetricsSnapshot)
  | auditLogs (auth : Option HeaderValue) (limit : Option Int64)

def Call.script : Call → AdminScript Json
  | .login req => AdminScripts.adminLogin req
  | .logout auth => AdminScripts.adminLogout auth
  | .request auth asked => serve auth asked
  | .dashboard auth snapshot => AdminScripts.dashboard auth snapshot
  | .auditLogs auth limit => AdminScripts.auditLogs auth limit

/-- A request that is being handled, and what is left to do of it. -/
structure Running where
  call : Call
  script : AdminScript Json

/-- A step, with what it has found and what it has left. -/
structure Event where
  id : ℕ
  call : Call
  outside : Outside
  before : World
  after : World

structure Service where
  site : Site
  running : FMap ℕ Running
  next : ℕ
  /-- history: the steps so far -/
  history : List Event

inductive Action
  | arrive (call : Call)
  | step (i : ℕ) (o : Outside) (dbFates : List DbFate) (worldFates : List WorldFate)
  /-- the request has been answered, or its client has gone -/
  | drop (i : ℕ)
  /-- other services change the database and the maps -/
  | elsewhere (db : Database) (runtimes : Finset MapId)
  /-- the service is started anew -/
  | restart

namespace Service

def arrive (s : Service) (call : Call) : Service :=
  { s with running := s.running.insert s.next ⟨call, call.script⟩, next := s.next + 1 }

def take (s : Service) (i : ℕ) (o : Outside) (dbFates : List DbFate)
    (worldFates : List WorldFate) : Option Service :=
  match s.running.lookup i with
  | some ⟨call, .step f k⟩ =>
    let w := s.site.world dbFates worldFates
    some { s with
      site := AdminAuthority.site (f o w)
      running := s.running.insert i ⟨call, k o w⟩
      history := s.history ++ [⟨i, call, o, w, f o w⟩] }
  | _ => none

def drop (s : Service) (i : ℕ) : Service := { s with running := s.running.erase i }

def elsewhere (s : Service) (db : Database) (runtimes : Finset MapId) : Service :=
  { s with site := { s.site with db := db, runtimes := runtimes } }

/-- Sessions are only kept in memory. -/
def restart (s : Service) : Service :=
  { s with site := { s.site with sessions := ∅ }, running := ∅ }

def step (s : Service) : Action → Option Service
  | .arrive call => some (s.arrive call)
  | .step i o dbFates worldFates => s.take i o dbFates worldFates
  | .drop i => some (s.drop i)
  | .elsewhere db runtimes => some (s.elsewhere db runtimes)
  | .restart => some s.restart

end Service

/-- The service starts with nobody logged in. -/
def system : System Service Action where
  init s := ∃ db runtimes, s = ⟨⟨db, runtimes, ∅, [], []⟩, ∅, 0, []⟩
  step := Service.step

/-! ### Logins -/

/-- The steps of one request so far: what came with each, and what it has found and left. -/
abbrev Log := List (Outside × World × World)

/-- The steps of a request. -/
def own (i : ℕ) (l : List Event) : Log :=
  (l.filter fun x => x.id == i).map fun x => (x.outside, x.before, x.after)

/-- What a login has found under an email. -/
inductive Found (email : String) (l : Log) : Option AdminAuthRecord → Prop
  | none {x : Outside × World × World} (hx : x ∈ l)
      (hrow : x.2.1.backend.db.adminUsers.rows.find? (fun u =>
        u.email == email && u.status == "active") = none) : Found email l none
  | some {x y : Outside × World × World} {row : AdminUserRow} (hx : x ∈ l) (hy : y ∈ l)
      (hrow : x.2.1.backend.db.adminUsers.rows.find? (fun u =>
        u.email == email && u.status == "active") = some row) :
      Found email l (some ⟨row.id, row.email, row.passwordHash, rolesOf y.2.1.backend.db row.id⟩)

/-- The login has shown to be the principal of the session. -/
def Proved (req : AdminLoginRequest) (l : Log) (session : AdminSession) : Prop :=
  ∃ record, Found (trim req.email) l record ∧ ∃ x ∈ l,
    loginPrincipal x.1 req record = .ok session.principal ∧
    newExpiry x.1 = some session.expiresAt

/-- The step issues the token for the session. -/
def Issues (token : String) (session : AdminSession) (pre : List Event) (x : Event) : Prop :=
  ∃ req, x.call = .login req ∧ token = x.outside.token.format ∧
    Proved req (own x.id pre) session ∧
    (site x.after).sessions = (site x.before).sessions.insert token session

/-- The step is that of a logout with the token. -/
def Revokes (token : String) (x : Event) : Prop :=
  ∃ auth, x.call = .logout auth ∧ extractBearerToken auth = .ok token

/-- The token was issued for the session, and nobody has logged out with it since. -/
def Live (token : String) (session : AdminSession) (l : List Event) : Prop :=
  Since (Issues token session) (fun x => ¬ Revokes token x) l

/-! ### Authority -/

/-- The step drops the sessions that have expired. -/
def Pruned (o : Outside) (w w' : World) : Prop :=
  site w' = { site w with sessions := unexpired o.now (site w).sessions }

/-- The request has dropped the sessions that had expired, and then found one under its token that
has the permission. -/
def Granted (auth : Option HeaderValue) (permission : Permission) (principal : AdminPrincipal)
    (l : Log) : Prop :=
  ∃ x y rest token session, l = x :: y :: rest ∧ Pruned x.1 x.2.1 x.2.2 ∧ Carries auth token ∧
    (site y.2.1).sessions.lookup token = some session ∧ session.principal = principal ∧
    principal.hasPermission permission = true

/-- The request has looked its token up, which was live then, for the principal; the session had
not expired when the request came, or was opened after that. -/
def Authorised (l : List Event) (i : ℕ) (auth : Option HeaderValue) (permission : Permission)
    (principal : AdminPrincipal) : Prop :=
  ∃ pre x mid y post token session, l = pre ++ x :: mid ++ y :: post ∧ x.id = i ∧ y.id = i ∧
    Carries auth token ∧ (site y.before).sessions.lookup token = some session ∧
    Live token session (pre ++ x :: mid) ∧
    (x.outside.now < session.expiresAt ∨
      ∃ mid₁ z mid₂, mid = mid₁ ++ z :: mid₂ ∧ Issues token session (pre ++ x :: mid₁) z) ∧
    session.principal = principal ∧
    ∃ role ∈ principal.roles, permission ∈ permissionsForRole role

/-! ### The rules of the requests -/

/-- A request that authenticates, and then changes what its principal may change. -/
def authRule (auth : Option HeaderValue) (permission : Permission)
    (change : AdminPrincipal → Outside → Site → Site → Prop) :
    Log → Outside → World → World → Prop := fun l o w w' =>
  site w' = site w ∨ Pruned o w w' ∨
    ∃ principal, Granted auth permission principal l ∧ change principal o (site w) (site w')

/-- Nothing may be changed. -/
def nothing : AdminPrincipal → Outside → Site → Site → Prop := fun _ _ _ _ => False

def Call.rule : Call → Log → Outside → World → World → Prop
  | .login req => fun l o w w' =>
    site w' = site w ∨ ∃ session, Proved req l session ∧
      site w' = { site w with sessions := (site w).sessions.insert o.token.format session }
  | .logout auth => fun _ _ w w' => ∃ token, extractBearerToken auth = .ok token ∧
    site w' = { site w with sessions := (site w).sessions.erase token }
  | .request auth asked => authRule auth asked.permission (Change asked)
  | .dashboard auth _ => authRule auth .metricsRead nothing
  | .auditLogs auth _ => authRule auth .auditRead nothing

section

variable {auth : Option HeaderValue} {permission : Permission} {principal : AdminPrincipal}
  {change : AdminPrincipal → Outside → Site → Site → Prop} {l l' : Log} {α : Type}

lemma Granted.mono (h : Granted auth permission principal l) (hl : l <+: l') :
    Granted auth permission principal l' := by
  obtain ⟨x, y, rest, token, session, rfl, hrest⟩ := h
  obtain ⟨more, rfl⟩ := hl
  exact ⟨x, y, rest ++ more, token, session, rfl, hrest⟩

/-- Authentication ends with a principal that has been granted the permission. -/
lemma meets_authenticate : (AdminScripts.authenticate auth permission).Meets
    (authRule auth permission change) (Granted auth permission) [] := by
  unfold AdminScripts.authenticate
  refine Meets.bind (meets_atom (fun o w => Or.inr (.inl rfl)) fun o₁ w₁ _ _ => ?_)
  refine Meets.bind (meets_ofExcept fun token htoken => ?_)
  refine Meets.bind (meets_atom (fun o w => Or.inl rfl) fun o₂ w₂ found hfound => ?_)
  refine Meets.bind (meets_ofOption fun session hsession => ?_)
  obtain rfl : (site w₂).sessions.lookup token = found := Except.ok.inj hfound
  unfold requirePermission
  by_cases hperm : session.principal.hasPermission permission = true
  · rw [if_pos hperm]
    exact meets_pure ⟨_, _, [], token, session, rfl, rfl, extractBearerToken_eq_ok_iff.mp htoken,
      hsession, rfl, hperm⟩
  · rw [if_neg hperm]
    exact meets_fail _

/-- Steps that change nothing, or what the principal may change. -/
abbrev Changes (change : AdminPrincipal → Outside → Site → Site → Prop)
    (principal : AdminPrincipal) (s : AdminScript α) : Prop :=
  s.Always fun o w w' => site w' = site w ∨ change principal o (site w) (site w')

lemma meets_authenticated {k : AdminPrincipal → AdminScript Json}
    (h : ∀ principal, Changes change principal (k principal)) :
    (AdminScripts.authenticate auth permission >>= k).Meets (authRule auth permission change)
      (fun _ _ => True) [] := by
  refine Meets.bind (meets_authenticate.mono fun principal l hgranted => (h principal).meets ?_)
  rintro l' o w w' hl (hsame | hchange)
  · exact .inl hsame
  · exact .inr (.inr ⟨principal, hgranted.mono hl, hchange⟩)

lemma changes_step {h : Api α} (hstep : ∀ o b, (h o b).2.db = b.db ∧
    (h o b).2.runtimes = b.runtimes ∧ (h o b).2.sessions = b.sessions) :
    Changes change principal (step h) := by
  refine always_atom fun o w => .inl ?_
  obtain ⟨hdb, hruntimes, hsessions⟩ := hstep o w.backend
  simp only [site, hdb, hruntimes, hsessions]

lemma changes_given : Changes change principal given := changes_step fun _ _ => ⟨rfl, rfl, rfl⟩

/-- A step that is one statement. -/
lemma changes_statement {h : Api α} (f : Outside → Database → Except DbError (α × Database))
    (hrun : ∀ o b, (h o b).2 = (statement (f o) o b).2)
    (hf : ∀ o s a db, f o s.db = .ok (a, db) → change principal o s { s with db := db }) :
    Changes change principal (step h) := by
  refine always_atom fun o w => ?_
  obtain ⟨db, hstate, rfl | ⟨a, hdone⟩⟩ := statement_snd (f o) o w.backend
  · left
    rw [hrun, hstate]
    rfl
  · right
    have hchange := hf o (site w) a db hdone
    rw [hrun, hstate]
    exact hchange

lemma orDbError_snd (h : Repo α) (o : Outside) (b : Backend) : (orDbError h o b).2 = (h o b).2 := by
  unfold orDbError Handler.mapError
  rcases h o b with ⟨e | a, b'⟩ <;> rfl

lemma query_snd (f : Database → α) (o : Outside) (b : Backend) :
    (orDbError (query f) o b).2.db = b.db ∧ (orDbError (query f) o b).2.runtimes = b.runtimes ∧
      (orDbError (query f) o b).2.sessions = b.sessions := by
  rw [orDbError_snd]
  obtain ⟨db, hstate, hdb⟩ := statement_snd (fun db => .ok (f db, db)) o b
  have hsame : db = b.db := by
    rcases hdb with h | ⟨a, h⟩
    · exact h
    · cases h
      rfl
  have hrun : (query f o b).2 = { b with db := db, dbFates := b.dbFates.tail } := hstate
  rw [hrun, hsame]
  exact ⟨rfl, rfl, rfl⟩

lemma changes_query (f : Database → α) : Changes change principal (step (orDbError (query f))) :=
  changes_step (query_snd f)

variable {asked : AdminRequest}

lemma changes_audit {payload answer : Json} :
    Changes (Change asked) principal (audit asked principal payload answer) := by
  refine Always.bind (changes_statement (fun o db => (db.insertAdminAudit o.inet o.now o.auditId
    ⟨principal.adminUserId, asked.actionType, asked.targetType, asked.target, payload,
      some o.correlationId.format, none⟩).map fun db => ((), db)) (fun _ _ => rfl) ?_)
    fun _ => always_pure _
  intro o s a db h
  exact .row (of_map_answer h).2

/-- What a call to the world service leaves. -/
lemma invokeWorldMapControl_snd (mapId : MapId) (action : MapControl) (o : Outside) (b : Backend) :
    (invokeWorldMapControl mapId action o b).2 = { b with worldFates := b.worldFates.tail } ∨
      ∃ weather, (invokeWorldMapControl mapId action o b).2 =
        { b with
          worldFates := b.worldFates.tail
          runtimes := (serveMapControl b.db b.runtimes mapId weather action).2 } := by
  unfold invokeWorldMapControl
  rcases b.worldFates.headD (.served ⟨true, true, 0⟩) with _ | status | weather | weather | weather
  · exact .inl rfl
  · exact .inl rfl
  · exact .inr ⟨weather, rfl⟩
  · exact .inr ⟨weather, rfl⟩
  · exact .inr ⟨weather, rfl⟩

lemma changes_invoke {h : Api α} {mapId : MapId} (action : MapControl)
    (hmap : mapOf asked = some mapId)
    (hrun : ∀ o b, (h o b).2 = (invokeWorldMapControl mapId action o b).2) :
    Changes (Change asked) principal (step h) := by
  refine always_atom fun o w => ?_
  rcases invokeWorldMapControl_snd mapId action o w.backend with hstate | ⟨weather, hstate⟩
  · left
    rw [hrun, hstate]
    rfl
  · right
    rw [hrun, hstate]
    exact .runtime hmap

lemma changes_mapRow {mapId : MapId} {f : Outside → Database → Except DbError (Bool × Database)}
    (hf : ∀ o s a db, f o s.db = .ok (a, db) → Change asked principal o s { s with db := db }) :
    Changes (Change asked) principal (step (orDbError (query fun db => db.mapExists mapId)) >>=
      fun found => if found = true then
        step (orDbError (Handler.given >>= fun o => statement (f o))) else pure false) := by
  refine (changes_query _).bind fun found => ?_
  split
  · exact changes_statement f (fun o b => orDbError_snd _ o b) hf
  · exact always_pure _

lemma changes_persisted {found : Bool} {mapId : MapId} {undo : MapControl}
    {rest : AdminScript Json} (hmap : mapOf asked = some mapId)
    (hrest : Changes (Change asked) principal rest) :
    Changes (Change asked) principal (persisted found mapId undo rest) := by
  unfold persisted
  split
  · exact Always.bind (changes_invoke undo hmap fun _ _ => rfl) fun _ => always_fail _
  · exact hrest

lemma changes_moderationAction {req : ModerationActionRequest} {action : String}
    (h : sanctionOf asked = some (req, action)) :
    Changes (Change asked) principal
      (AdminScripts.moderationAction asked principal req action) := by
  unfold AdminScripts.moderationAction
  split
  · exact always_fail _
  · refine changes_given.bind fun o => always_ofOption_bind fun endsAt _ => ?_
    refine Always.bind (changes_statement (fun o' db => (db.createSanction o'.now o'.sanctionId
      ⟨req.accountId, req.characterId, action, req.reason, o.now, endsAt,
        some principal.adminUserId⟩).map fun db => ((), db)) (fun o' b => orDbError_snd _ o' b)
      ?_) fun _ => changes_audit
    intro o' s a db hdone
    exact .sanction h (of_map_answer hdone).2

/-- **What the requests change**: one case for each request. -/
theorem changes_work (principal : AdminPrincipal) (asked : AdminRequest) :
    Changes (Change asked) principal (work principal asked) := by
  cases asked with
  | managedServicesStatus => exact changes_given.bind fun o => changes_audit
  | managedServiceControl service action =>
    refine changes_given.bind fun o => always_ofOption_bind fun svc hfind => ?_
    have hsvc := List.mem_of_find?_eq_some hfind
    have hkey := List.find?_some (p := fun svc : ManagedServiceDef => svc.key == service) hfind
    refine always_ofOption_bind fun parsed hparsed => Always.bind (always_atom fun o w => ?_)
      fun _ => changes_given.bind fun o => changes_audit
    exact .inr (.command rfl hsvc (beq_iff_eq.mp hkey) hparsed)
  | managedServiceLogs service lines =>
    refine changes_given.bind fun o => always_ofOption_bind fun svc _ => ?_
    dsimp only
    split
    · exact changes_audit
    · exact changes_audit
  | searchAccounts text limit | accountSanctions accountId | searchCharacters text limit
  | characterInventory characterId =>
    exact changes_given.bind fun o => (changes_query _).bind fun _ => changes_audit
  | blockAccount accountId =>
    refine Always.bind (changes_statement
      (fun _ db => .ok ((), db.setAccountStatus accountId .banned))
      (fun o b => orDbError_snd _ o b) ?_) fun _ => changes_audit
    rintro o s a - ⟨⟩
    exact .status (.inl ⟨rfl, rfl⟩)
  | unblockAccount accountId =>
    refine Always.bind (changes_statement
      (fun _ db => .ok ((), db.setAccountStatus accountId .active))
      (fun o b => orDbError_snd _ o b) ?_) fun _ => changes_audit
    rintro o s a - ⟨⟩
    exact .status (.inr ⟨rfl, rfl⟩)
  | resetAccountPassword accountId => exact changes_given.bind fun o => changes_audit
  | moveCharacter characterId mapId x y =>
    refine Always.bind (changes_statement (fun o db =>
      (db.moveCharacter o.now characterId mapId x y).map fun db => ((), db))
      (fun o b => orDbError_snd _ o b) ?_) fun _ => changes_audit
    intro o s a db h
    exact .place rfl (of_map_answer h).2
  | disconnectCharacter characterId | toggleEvent eventCode enabled => exact changes_audit
  | listMaps =>
    exact changes_given.bind fun o => (changes_query _).bind fun maps =>
      (changes_query _).bind fun active => changes_audit
  | activateMap mapId =>
    refine Always.bind (changes_invoke _ rfl fun _ _ => rfl) fun wire =>
      Always.bind (changes_mapRow ?_) fun found => changes_persisted rfl changes_audit
    intro o s a db h
    exact .registered (.inl rfl) (of_map_answer h).2
  | deactivateMap mapId =>
    refine Always.bind (changes_invoke _ rfl fun _ _ => rfl) fun wire =>
      Always.bind (changes_mapRow ?_) fun found => changes_persisted rfl changes_audit
    rintro o s a - ⟨⟩
    exact .stopped rfl
  | restartMapInstance mapId =>
    refine Always.bind (changes_invoke _ rfl fun _ _ => rfl) fun stopped =>
      Always.bind (changes_invoke _ rfl fun _ _ => rfl) fun started =>
        Always.bind (changes_mapRow ?_) fun found => changes_persisted rfl changes_audit
    intro o s a db h
    exact .registered (.inr rfl) (of_map_answer h).2
  | broadcast message =>
    refine changes_given.bind fun o => Always.bind (always_atom fun o w => .inr (.message rfl))
      fun status => ?_
    split
    · exact always_fail _
    · exact changes_audit
  | moderationMute req | moderationJail req | moderationBan req =>
    exact changes_moderationAction rfl

lemma meets_dashboard (snapshot : MetricsSnapshot) :
    (AdminScripts.dashboard auth snapshot).Meets (authRule auth .metricsRead nothing)
      (fun _ _ => True) [] := by
  have hplayers (principal : AdminPrincipal) (o : Outside) :
      Changes nothing principal (AdminScripts.playersByMap o) := by
    unfold AdminScripts.playersByMap
    split
    · exact always_pure _
    · exact (changes_query _).bind fun maps => always_pure _
  exact meets_authenticated fun principal => changes_given.bind fun o =>
    (hplayers principal o).bind fun _ => changes_given.bind fun _ => always_pure _

lemma meets_auditLogs (limit : Option Int64) :
    (AdminScripts.auditLogs auth limit).Meets (authRule auth .auditRead nothing)
      (fun _ _ => True) [] :=
  meets_authenticated fun _ => changes_given.bind fun _ => (changes_query _).bind fun _ =>
    always_pure _

end

/-! ### Logins -/

lemma Found.mono {email : String} {l l' : Log} {record : Option AdminAuthRecord}
    (h : Found email l record) (hl : l ⊆ l') : Found email l' record := by
  cases h with
  | none hx hrow => exact .none (hl hx) hrow
  | some hx hy hrow => exact .some (hl hx) (hl hy) hrow

lemma statement_fst {α : Type} {f : Database → α} {o : Outside} {b : Backend} {a : α}
    (h : (orDbError (query f) o b).1 = .ok a) : f b.db = a := by
  have hrun : orDbError (query f) o b = (.ok a, (orDbError (query f) o b).2) := Prod.ext h rfl
  exact (query_eq_ok_iff.mp (Handler.mapError_eq_ok_iff.mp hrun)).2.1

lemma site_query {α : Type} (f : Database → α) (o : Outside) (w : World) :
    site { w with backend := (orDbError (query f) o w.backend).2 } = site w := by
  obtain ⟨hdb, hruntimes, hsessions⟩ := query_snd f o w.backend
  simp only [site, hdb, hruntimes, hsessions]

lemma meets_findAdminForLogin {req : AdminLoginRequest} (email : String) :
    (AdminScripts.findAdminForLogin email).Meets (Call.rule (.login req))
      (fun record l => Found email l record) [] := by
  have hquiet {α : Type} (f : Database → α) (l : Log) (o : Outside) (w : World) :
      Call.rule (.login req) l o w { w with backend := (orDbError (query f) o w.backend).2 } :=
    .inl (site_query f o w)
  refine Meets.bind (meets_atom (fun o w => hquiet _ _ o w) fun o w row hrow => ?_)
  have hfound := statement_fst hrow
  cases row with
  | none => exact meets_pure (.none (List.mem_singleton_self _) hfound)
  | some row =>
    refine Meets.bind (meets_atom (fun o w => hquiet _ _ o w) fun o' w' roles hroles => ?_)
    have hroles' := statement_fst hroles
    refine meets_pure ?_
    rw [← hroles']
    exact .some (List.mem_append_left _ (List.mem_singleton_self _))
      (List.mem_append_right _ (List.mem_singleton_self _)) hfound

/-- A login keeps to its rule: it inserts a session once it has proved to be its principal. -/
lemma meets_adminLogin (req : AdminLoginRequest) :
    (AdminScripts.adminLogin req).Meets (Call.rule (.login req)) (fun _ _ => True) [] := by
  unfold AdminScripts.adminLogin
  split
  · exact meets_fail _
  refine Meets.bind ((meets_findAdminForLogin (trim req.email)).mono fun record l hfound => ?_)
  refine Meets.bind (meets_atom (fun o w => .inl rfl) fun o w o' ho => ?_)
  obtain rfl : o = o' := Except.ok.inj ho
  refine Meets.bind (meets_ofExcept fun principal hprincipal => ?_)
  refine Meets.bind (meets_ofOption fun expiresAt hexpiresAt => ?_)
  refine Meets.bind (meets_atom (fun o' w' => .inr ⟨⟨principal, expiresAt⟩, ?_, rfl⟩)
    fun _ _ _ _ => meets_pure trivial)
  exact ⟨record, hfound.mono (List.subset_append_left _ _), _,
    List.mem_append_right _ (List.mem_singleton_self _), hprincipal, hexpiresAt⟩

/-- **The scripts keep to their rules.** -/
theorem meets_script (call : Call) : call.script.Meets call.rule (fun _ _ => True) [] := by
  cases call with
  | login req => exact meets_adminLogin req
  | logout auth =>
    refine Meets.bind (meets_ofExcept fun token htoken => ?_)
    exact Meets.bind (meets_atom (fun o w => ⟨token, htoken, rfl⟩) fun _ _ _ _ =>
      meets_pure trivial)
  | request auth asked =>
    change (serve auth asked).Meets _ _ _
    unfold serve
    split
    · exact meets_fail _
    · exact meets_authenticated fun principal => changes_work principal asked
  | dashboard auth snapshot => exact meets_dashboard snapshot
  | auditLogs auth limit => exact meets_auditLogs limit

/-! ### Steps of a request and of the others -/

lemma own_snoc (i : ℕ) (l : List Event) (x : Event) :
    own i (l ++ [x]) =
      if x.id = i then own i l ++ [(x.outside, x.before, x.after)] else own i l := by
  unfold own
  rw [List.filter_append, List.map_append, List.filter_singleton, Bool.cond_eq_ite]
  by_cases h : x.id = i
  · rw [if_pos h, if_pos (beq_iff_eq.mpr h)]
    rfl
  · rw [if_neg h, if_neg fun he => h (beq_iff_eq.mp he), List.map_nil, List.append_nil]

lemma own_eq_nil {i : ℕ} {l : List Event} (h : ∀ x ∈ l, x.id ≠ i) : own i l = [] := by
  unfold own
  rw [List.filter_eq_nil_iff.mpr fun x hx he => h x hx (beq_iff_eq.mp he), List.map_nil]

/-- What is left of each request keeps to its rule, and so have all steps. -/
structure Follows (s : Service) : Prop where
  running : ∀ i r, s.running.lookup i = some r →
    i < s.next ∧ r.script.Meets r.call.rule (fun _ _ => True) (own i s.history)
  fresh : ∀ x ∈ s.history, x.id < s.next
  along : Along (fun pre x => x.call.rule (own x.id pre) x.outside x.before x.after) s.history

/-- What one step of the service is. -/
inductive Step (s : Service) : Service → Prop
  | arrive (call : Call) : Step s (s.arrive call)
  | take {i : ℕ} {call : Call} {f : Outside → World → World}
      {k : Outside → World → AdminScript Json} (hi : s.running.lookup i = some ⟨call, .step f k⟩)
      {o : Outside} {w : World} (hw : site w = s.site) :
      Step s { s with
        site := site (f o w)
        running := s.running.insert i ⟨call, k o w⟩
        history := s.history ++ [⟨i, call, o, w, f o w⟩] }
  | drop (i : ℕ) : Step s (s.drop i)
  | elsewhere (db : Database) (runtimes : Finset MapId) : Step s (s.elsewhere db runtimes)
  | restart : Step s s.restart

variable {s s' : Service}

lemma step_cases {a : Action} (h : s.step a = some s') : Step s s' := by
  cases a with
  | arrive call =>
    cases h
    exact .arrive call
  | step i o dbFates worldFates =>
    simp only [Service.step, Service.take] at h
    split at h
    · next call f k hi =>
      cases h
      exact .take hi rfl
    · cases h
  | drop i =>
    cases h
    exact .drop i
  | elsewhere db runtimes =>
    cases h
    exact .elsewhere db runtimes
  | restart =>
    cases h
    exact .restart

lemma Follows.step (h : Follows s) (hstep : Step s s') : Follows s' := by
  cases hstep with
  | arrive call =>
    refine ⟨fun i r hr => ?_, fun x hx => (h.fresh x hx).trans (Nat.lt_succ_self _), h.along⟩
    rcases FMap.lookup_insert_cases hr with ⟨rfl, rfl⟩ | ⟨-, hr⟩
    · refine ⟨Nat.lt_succ_self _, ?_⟩
      have hnone : own s.next s.history = [] := own_eq_nil fun x hx => (h.fresh x hx).ne
      change call.script.Meets call.rule (fun _ _ => True) (own s.next s.history)
      rw [hnone]
      exact meets_script call
    · exact ⟨(h.running i r hr).1.trans (Nat.lt_succ_self _), (h.running i r hr).2⟩
  | @take j call f k hi o w hw =>
    obtain ⟨hlt, hmeets⟩ := h.running j _ hi
    obtain ⟨hrule, hrest⟩ := meets_step_iff.mp hmeets o w
    refine ⟨fun i r hr => ?_, fun x hx => ?_, along_snoc.mpr ⟨h.along, hrule⟩⟩
    · dsimp only
      rw [own_snoc]
      rcases FMap.lookup_insert_cases hr with ⟨rfl, rfl⟩ | ⟨hne, hr⟩
      · rw [if_pos rfl]
        exact ⟨hlt, hrest⟩
      · rw [if_neg fun he => hne he.symm]
        exact h.running i r hr
    · rcases List.mem_append.mp hx with hx | hx
      · exact h.fresh x hx
      · rw [List.mem_singleton.mp hx]
        exact hlt
  | drop j =>
    exact ⟨fun i r hr => h.running i r (FMap.lookup_of_erase hr).2, h.fresh, h.along⟩
  | elsewhere db runtimes => exact ⟨h.running, h.fresh, h.along⟩
  | restart =>
    refine ⟨fun i r hr => ?_, h.fresh, h.along⟩
    cases hr

/-! ### Sessions and the history -/

/-- What is in the table is live, and whatever a request has dropped the expired sessions of, is
there because it had not expired then or is newer. -/
structure Sound (l : List Event) (table : FMap String AdminSession) : Prop where
  live : ∀ token session, table.lookup token = some session → Live token session l
  unexpired : ∀ pre x post, l = pre ++ x :: post → Pruned x.outside x.before x.after →
    ∀ token session, table.lookup token = some session → x.outside.now < session.expiresAt ∨
      ∃ mid z rest, post = mid ++ z :: rest ∧ Issues token session (pre ++ x :: mid) z

/-- What is in the table after a step was there before and is not logged out, or is new. -/
lemma lookup_after {l : List Event} {x : Event} {token : String} {session : AdminSession}
    (hrule : x.call.rule (own x.id l) x.outside x.before x.after)
    (h : (site x.after).sessions.lookup token = some session) :
    ((site x.before).sessions.lookup token = some session ∧ ¬ Revokes token x) ∨
      Issues token session l x := by
  obtain ⟨i, call, o, w, w'⟩ := x
  have hauth {auth : Option HeaderValue} {permission : Permission}
      {change : AdminPrincipal → Outside → Site → Site → Prop}
      (hr : authRule auth permission change (own i l) o w w')
      (hchange : ∀ p s s', change p o s s' → s'.sessions = s.sessions) :
      (site w).sessions.lookup token = some session := by
    rcases hr with hsame | hpruned | ⟨p, -, hc⟩
    · rwa [hsame] at h
    · have hafter : (unexpired o.now (site w).sessions).lookup token = some session := by
        rw [hpruned] at h
        exact h
      rw [lookup_unexpired, Option.filter_eq_some_iff] at hafter
      exact hafter.1
    · rwa [hchange p _ _ hc] at h
  cases call with
  | login req =>
    rcases hrule with hsame | ⟨opened, hproved, hafter⟩
    · left
      refine ⟨by rwa [hsame] at h, ?_⟩
      rintro ⟨auth, hcall, -⟩
      cases hcall
    · have hsessions : (site w').sessions =
          (site w).sessions.insert o.token.format opened := by rw [hafter]
      dsimp only at h
      rw [hsessions] at h
      rcases FMap.lookup_insert_cases h with ⟨rfl, rfl⟩ | ⟨-, h⟩
      · exact .inr ⟨req, rfl, rfl, hproved, hsessions⟩
      · left
        refine ⟨h, ?_⟩
        rintro ⟨auth, hcall, -⟩
        cases hcall
  | logout auth =>
    obtain ⟨gone, hgone, hafter⟩ := hrule
    have hsessions : (site w').sessions = (site w).sessions.erase gone := by rw [hafter]
    dsimp only at h
    rw [hsessions] at h
    obtain ⟨hne, h⟩ := FMap.lookup_of_erase h
    left
    refine ⟨h, ?_⟩
    rintro ⟨auth', hcall, htoken⟩
    cases hcall
    exact hne (Except.ok.inj (htoken.symm.trans hgone))
  | request auth asked =>
    left
    refine ⟨hauth hrule ?_, ?_⟩
    · intro p s s' hc
      cases hc <;> rfl
    · rintro ⟨auth', hcall, -⟩
      cases hcall
  | dashboard auth snapshot =>
    left
    refine ⟨hauth hrule fun p s s' hc => hc.elim, ?_⟩
    rintro ⟨auth', hcall, -⟩
    cases hcall
  | auditLogs auth limit =>
    left
    refine ⟨hauth hrule fun p s s' hc => hc.elim, ?_⟩
    rintro ⟨auth', hcall, -⟩
    cases hcall

lemma Sound.snoc {l : List Event} {x : Event} (h : Sound l (site x.before).sessions)
    (hrule : x.call.rule (own x.id l) x.outside x.before x.after) :
    Sound (l ++ [x]) (site x.after).sessions where
  live token session hlookup := by
    rw [Live, since_snoc]
    rcases lookup_after hrule hlookup with ⟨hold, hstay⟩ | hnew
    · exact .inr ⟨h.live token session hold, hstay⟩
    · exact .inl hnew
  unexpired pre y post hsplit hpruned token session hlookup := by
    rcases snoc_eq_append_cons hsplit with ⟨rfl, rfl, rfl⟩ | ⟨post', rfl, rfl⟩
    · left
      have hafter : (AdminApi.unexpired y.outside.now (site y.before).sessions).lookup token =
          some session := by
        rw [hpruned] at hlookup
        exact hlookup
      rw [lookup_unexpired, Option.filter_eq_some_iff] at hafter
      exact of_decide_eq_true hafter.2
    · rcases lookup_after hrule hlookup with ⟨hold, -⟩ | hnew
      · rcases h.unexpired pre y post' rfl hpruned token session hold with hnow |
          ⟨mid, z, rest, rfl, hz⟩
        · exact .inl hnow
        · exact .inr ⟨mid, z, rest ++ [x], by simp, hz⟩
      · exact .inr ⟨post', x, [], rfl, hnew⟩

/-- What was run or sent was run or sent by a step. -/
def Made {α : Type} (part : Site → List α) (s : Service) : Prop :=
  ∀ c ∈ part s.site, ∃ pre x post, s.history = pre ++ x :: post ∧
    part (site x.after) = part (site x.before) ++ [c]

structure Kept (s : Service) : Prop extends Follows s where
  sound : Sound s.history s.site.sessions
  found : Along (fun pre x => Sound pre (site x.before).sessions) s.history
  ran : Made Site.ran s
  sent : Made Site.sent s

lemma sound_empty (l : List Event) : Sound l ∅ where
  live _ _ h := by cases h
  unexpired _ _ _ _ _ _ _ h := by cases h

/-- A step of a request makes one entry, or none. -/
lemma made_snoc {α : Type} {part : Site → List α} {x : Event} {b : Site}
    (hpart : part (site x.after) = part b ∨ ∃ c, part (site x.after) = part b ++ [c])
    (hb : site x.before = b) {r : FMap ℕ Running} (h : Made part s) (hs : b = s.site) :
    Made part { s with site := site x.after, running := r, history := s.history ++ [x] } := by
  subst hs
  intro c hc
  have hold (hc : c ∈ part s.site) : ∃ pre y post, s.history ++ [x] = pre ++ y :: post ∧
      part (site y.after) = part (site y.before) ++ [c] := by
    obtain ⟨pre, y, post, hsplit, hy⟩ := h c hc
    exact ⟨pre, y, post ++ [x], by simp [hsplit], hy⟩
  rcases hpart with hsame | ⟨d, hd⟩
  · exact hold (hsame ▸ hc)
  · dsimp only at hc
    rw [hd, List.mem_append, List.mem_singleton] at hc
    rcases hc with hc | rfl
    · exact hold hc
    · exact ⟨s.history, x, [], rfl, by rw [hd, hb]⟩

/-- What a step adds to what was run and sent. -/
lemma parts_after {l : List Event} {x : Event}
    (hrule : x.call.rule (own x.id l) x.outside x.before x.after) :
    ((site x.after).ran = (site x.before).ran ∨
        ∃ c, (site x.after).ran = (site x.before).ran ++ [c]) ∧
      ((site x.after).sent = (site x.before).sent ∨
        ∃ c, (site x.after).sent = (site x.before).sent ++ [c]) := by
  obtain ⟨i, call, o, w, w'⟩ := x
  have hauth {auth : Option HeaderValue} {permission : Permission}
      {change : AdminPrincipal → Outside → Site → Site → Prop}
      (hr : authRule auth permission change (own i l) o w w')
      (hchange : ∀ p s s', change p o s s' → (s'.ran = s.ran ∨ ∃ c, s'.ran = s.ran ++ [c]) ∧
        (s'.sent = s.sent ∨ ∃ c, s'.sent = s.sent ++ [c])) :
      ((site w').ran = (site w).ran ∨ ∃ c, (site w').ran = (site w).ran ++ [c]) ∧
        ((site w').sent = (site w).sent ∨ ∃ c, (site w').sent = (site w).sent ++ [c]) := by
    rcases hr with hsame | hpruned | ⟨p, -, hc⟩
    · rw [hsame]
      exact ⟨.inl rfl, .inl rfl⟩
    · rw [hpruned]
      exact ⟨.inl rfl, .inl rfl⟩
    · exact hchange p _ _ hc
  cases call with
  | login req =>
    rcases hrule with hsame | ⟨opened, -, hafter⟩
    · dsimp only
      rw [hsame]
      exact ⟨.inl rfl, .inl rfl⟩
    · dsimp only
      rw [hafter]
      exact ⟨.inl rfl, .inl rfl⟩
  | logout auth =>
    obtain ⟨gone, -, hafter⟩ := hrule
    dsimp only
    rw [hafter]
    exact ⟨.inl rfl, .inl rfl⟩
  | request auth asked =>
    refine hauth hrule fun p s s' hc => ?_
    cases hc with
    | command => exact ⟨.inr ⟨_, rfl⟩, .inl rfl⟩
    | message => exact ⟨.inl rfl, .inr ⟨_, rfl⟩⟩
    | _ => exact ⟨.inl rfl, .inl rfl⟩
  | dashboard auth snapshot => exact hauth hrule fun p s s' hc => hc.elim
  | auditLogs auth limit => exact hauth hrule fun p s s' hc => hc.elim

lemma Kept.step (h : Kept s) (hstep : Step s s') : Kept s' := by
  have hfollows := h.toFollows.step hstep
  cases hstep with
  | arrive call => exact ⟨hfollows, h.sound, h.found, h.ran, h.sent⟩
  | @take j call f k hi o w hw =>
    have hrule := (along_snoc.mp hfollows.along).2
    have hsound : Sound s.history (site w).sessions := by
      rw [hw]
      exact h.sound
    have hparts := parts_after hrule
    dsimp only at hparts
    rw [hw] at hparts
    exact ⟨hfollows, Sound.snoc (x := ⟨j, call, o, w, f o w⟩) hsound hrule,
      along_snoc.mpr ⟨h.found, hsound⟩,
      made_snoc (x := ⟨j, call, o, w, f o w⟩) hparts.1 hw h.ran rfl,
      made_snoc (x := ⟨j, call, o, w, f o w⟩) hparts.2 hw h.sent rfl⟩
  | drop i => exact ⟨hfollows, h.sound, h.found, h.ran, h.sent⟩
  | elsewhere db runtimes => exact ⟨hfollows, h.sound, h.found, h.ran, h.sent⟩
  | restart => exact ⟨hfollows, sound_empty _, h.found, h.ran, h.sent⟩

theorem kept_of_reached (h : system.Reached s) : Kept s := by
  refine h.invariant Kept ?_ fun _ _ _ hs _ hst => hs.step (step_cases hst)
  rintro s ⟨db, runtimes, rfl⟩
  refine ⟨⟨?_, ?_, along_nil⟩, sound_empty _, along_nil, ?_, ?_⟩
  · intro i r hr
    cases hr
  · intro x hx
    cases hx
  · intro c hc
    cases hc
  · intro c hc
    cases hc

lemma own_eq_cons_cons {i : ℕ} {l : List Event} {a b : Outside × World × World} {rest : Log}
    (h : own i l = a :: b :: rest) : ∃ pre x mid y post, l = pre ++ x :: mid ++ y :: post ∧
      x.id = i ∧ y.id = i ∧ (x.outside, x.before, x.after) = a ∧
      (y.outside, y.before, y.after) = b := by
  obtain ⟨x, tail, hfilter, hx, htail⟩ := List.map_eq_cons_iff.mp h
  obtain ⟨y, tail', rfl, hy, -⟩ := List.map_eq_cons_iff.mp htail
  obtain ⟨pre, l', rfl, -, hxi, hl'⟩ := List.filter_eq_cons_iff.mp hfilter
  obtain ⟨mid, post, rfl, -, hyi, -⟩ := List.filter_eq_cons_iff.mp hl'
  exact ⟨pre, x, mid, y, post, by simp, beq_iff_eq.mp hxi, beq_iff_eq.mp hyi, hx, hy⟩

/-- What a request has found under its token was live, and not over when the request came. -/
lemma authorised_of_granted {auth : Option HeaderValue} {permission : Permission}
    {principal : AdminPrincipal} {l : List Event} {i : ℕ}
    (hfound : Along (fun pre x => Sound pre (site x.before).sessions) l)
    (h : Granted auth permission principal (own i l)) :
    Authorised l i auth permission principal := by
  obtain ⟨a, b, rest, token, session, hown, hpruned, hcarries, hlookup, hp, hperm⟩ := h
  obtain ⟨pre, x, mid, y, post, rfl, hx, hy, rfl, rfl⟩ := own_eq_cons_cons hown
  have hsound := hfound (pre ++ x :: mid) y post (by simp)
  exact ⟨pre, x, mid, y, post, token, session, rfl, hx, hy, hcarries, hlookup,
    hsound.live token session hlookup, hsound.unexpired pre x mid rfl hpruned token session hlookup,
    hp, hasPermission_iff.mp hperm⟩

/-- All but the table of the sessions. -/
def Site.core (s : Site) : Site := { s with sessions := ∅ }

/-- The step has changed something beside the table of the sessions. -/
def Acts (x : Event) : Prop := (site x.after).core ≠ (site x.before).core

/-- What acts, acts for a principal. -/
lemma Kept.acted (h : Kept s) {pre post : List Event} {x : Event}
    (hsplit : s.history = pre ++ x :: post) (hacts : Acts x) :
    ∃ auth asked principal, x.call = .request auth asked ∧
      Authorised pre x.id auth asked.permission principal ∧
      Change asked principal x.outside (site x.before) (site x.after) := by
  have hrule := h.along pre x post hsplit
  have hfound : Along (fun pre x => Sound pre (site x.before).sessions) pre :=
    (hsplit ▸ h.found).of_append
  obtain ⟨i, call, o, w, w'⟩ := x
  have hauth {auth : Option HeaderValue} {permission : Permission}
      {change : AdminPrincipal → Outside → Site → Site → Prop}
      (hr : authRule auth permission change (own i pre) o w w') :
      ∃ principal, Authorised pre i auth permission principal ∧
        change principal o (site w) (site w') := by
    rcases hr with hsame | hpruned | ⟨p, hgranted, hc⟩
    · exact absurd (congrArg Site.core hsame) hacts
    · exact absurd (congrArg Site.core hpruned) hacts
    · exact ⟨p, authorised_of_granted hfound hgranted, hc⟩
  cases call with
  | login req =>
    rcases hrule with hsame | ⟨opened, -, hafter⟩
    · exact absurd (congrArg Site.core hsame) hacts
    · exact absurd (congrArg Site.core hafter) hacts
  | logout auth =>
    obtain ⟨gone, -, hafter⟩ := hrule
    exact absurd (congrArg Site.core hafter) hacts
  | request auth asked =>
    obtain ⟨principal, hauthorised, hc⟩ := hauth hrule
    exact ⟨auth, asked, principal, rfl, hauthorised, hc⟩
  | dashboard auth snapshot =>
    obtain ⟨principal, -, hc⟩ := hauth hrule
    exact hc.elim
  | auditLogs auth limit =>
    obtain ⟨principal, -, hc⟩ := hauth hrule
    exact hc.elim

/-- The units of the services do not depend on the settings. -/
lemma unit_of_mem {settings : Settings} {svc : ManagedServiceDef}
    (h : svc ∈ managedServiceDefs settings) (settings' : Settings) :
    ∃ svc' ∈ managedServiceDefs settings', svc'.key = svc.key ∧ svc'.unit = svc.unit := by
  have hmap : (managedServiceDefs settings').map (fun svc => (svc.key, svc.unit)) =
      (managedServiceDefs settings).map fun svc => (svc.key, svc.unit) := rfl
  have hmem : (svc.key, svc.unit) ∈
      (managedServiceDefs settings').map fun svc => (svc.key, svc.unit) := by
    rw [hmap]
    exact List.mem_map_of_mem h
  obtain ⟨svc', hsvc', he⟩ := List.mem_map.mp hmem
  obtain ⟨hkey, hunit⟩ := Prod.mk.inj he
  exact ⟨svc', hsvc', hkey, hunit⟩

lemma Kept.ran_by (h : Kept s) {unit : String} {parsed : ServiceControlAction}
    (hc : (unit, parsed) ∈ s.site.ran) :
    ∃ pre x post auth service action principal, s.history = pre ++ x :: post ∧
      x.call = .request auth (.managedServiceControl service action) ∧
      Authorised pre x.id auth .worldWrite principal ∧
      (∃ svc ∈ managedServiceDefs x.outside.settings, svc.key = service ∧ svc.unit = unit) ∧
      ServiceControlAction.parse action = some parsed := by
  obtain ⟨pre, x, post, hsplit, hran⟩ := h.ran _ hc
  have hacts : Acts x := fun he => by
    have hlength := congrArg (fun s : Site => s.ran.length) he
    have hsame : (site x.after).ran.length = (site x.before).ran.length := hlength
    rw [hran, List.length_append, List.length_singleton] at hsame
    omega
  obtain ⟨auth, asked, principal, hcall, hauthorised, hchange⟩ := h.acted hsplit hacts
  generalize hafter : site x.after = after at hran hchange
  generalize hbefore : site x.before = before at hran hchange
  have hne : before.ran ≠ before.ran ++ [(unit, parsed)] := by simp
  cases hchange with
  | @command service action settings svc parsed' hasked hsvc hkey hparsed =>
    subst hasked
    obtain ⟨rfl, rfl⟩ := Prod.mk.inj (List.singleton_inj.mp (List.append_cancel_left hran))
    obtain ⟨svc', hsvc', hkey', hunit⟩ := unit_of_mem hsvc x.outside.settings
    exact ⟨pre, x, post, auth, service, action, principal, hsplit, hcall, hauthorised,
      ⟨svc', hsvc', hkey'.trans hkey, hunit⟩, hparsed⟩
  | _ => exact absurd hran hne

lemma Kept.sent_by (h : Kept s) {message : String} (hc : message ∈ s.site.sent) :
    ∃ pre x post auth principal, s.history = pre ++ x :: post ∧
      x.call = .request auth (.broadcast message) ∧
      Authorised pre x.id auth .broadcastSend principal := by
  obtain ⟨pre, x, post, hsplit, hsent⟩ := h.sent _ hc
  have hacts : Acts x := fun he => by
    have hlength := congrArg (fun s : Site => s.sent.length) he
    have hsame : (site x.after).sent.length = (site x.before).sent.length := hlength
    rw [hsent, List.length_append, List.length_singleton] at hsame
    omega
  obtain ⟨auth, asked, principal, hcall, hauthorised, hchange⟩ := h.acted hsplit hacts
  generalize hafter : site x.after = after at hsent hchange
  generalize hbefore : site x.before = before at hsent hchange
  have hne : before.sent ≠ before.sent ++ [message] := by simp
  cases hchange with
  | @message message' hasked =>
    subst hasked
    obtain rfl := List.singleton_inj.mp (List.append_cancel_left hsent)
    exact ⟨pre, x, post, auth, principal, hsplit, hcall, hauthorised⟩
  | _ => exact absurd hsent hne

/-- **By whose authority.** However requests, logins and logouts interleave with each other and with
other services, a step that changes anything beside the table of the sessions is one of a request
whose token was found in that table before, for a principal with the permission of the request; a
login had issued the token once it had the password, nobody had logged out with it since, and it
had not expired when the request came. What the step changes is what that request is about. So
whatever was run on the machine or sent to the players, was so for a principal with the permission,
and the table has live tokens only. -/
theorem changed_by_authority (h : system.Reached s) :
    (∀ pre x post, s.history = pre ++ x :: post → Acts x →
      ∃ auth asked principal, x.call = .request auth asked ∧
        Authorised pre x.id auth asked.permission principal ∧
        Change asked principal x.outside (site x.before) (site x.after)) ∧
    (∀ unit parsed, (unit, parsed) ∈ s.site.ran → ∃ pre x post auth service action principal,
      s.history = pre ++ x :: post ∧
      x.call = .request auth (.managedServiceControl service action) ∧
      Authorised pre x.id auth .worldWrite principal ∧
      (∃ svc ∈ managedServiceDefs x.outside.settings, svc.key = service ∧ svc.unit = unit) ∧
      ServiceControlAction.parse action = some parsed) ∧
    (∀ message ∈ s.site.sent, ∃ pre x post auth principal, s.history = pre ++ x :: post ∧
      x.call = .request auth (.broadcast message) ∧
      Authorised pre x.id auth .broadcastSend principal) ∧
    ∀ token session, s.site.sessions.lookup token = some session →
      Live token session s.history := by
  have hk := kept_of_reached h
  exact ⟨fun pre x post hsplit => hk.acted hsplit, fun unit parsed => hk.ran_by,
    fun message => hk.sent_by, hk.sound.live⟩

/-- Somebody logs in with the bootstrap credential and blocks an account. -/
def blocking : List Action :=
  let take (i : ℕ) : Action := .step i .fixture [] []
  [.arrive (.login ⟨"admin@localhost", "change_me_now"⟩), take 0, take 0, take 0,
    .arrive (.request (some (.text ("Bearer " ++ (Uuid.fill 11).format)))
      (.blockAccount (.fill 1))), take 1, take 1, take 1]

/-- Some account is banned. -/
def banned (w : World) : Bool := w.backend.db.accounts.rows.any fun a => a.status == "banned"

/-- The account is blocked by authority of the login. -/
theorem changed_by_authority_blocking : ∃ s pre x post, system.Reached s ∧
    s.history = pre ++ x :: post ∧ Acts x ∧ ∃ auth asked principal, x.call = .request auth asked ∧
      Authorised pre x.id auth asked.permission principal ∧
      Change asked principal x.outside (site x.before) (site x.after) := by
  obtain ⟨s, hs, hlast⟩ := system.exists_reachedBy (fun _ _ => True)
    (s := ⟨⟨.fixture, ∅, ∅, [], []⟩, ∅, 0, []⟩) ⟨_, _, rfl⟩ blocking
    (fun s => s.history.getLast?.any fun x => banned x.after && !banned x.before)
    (by decide +kernel)
  obtain ⟨x, hx, hbanned⟩ := (Option.any_eq_true _ _).mp hlast
  obtain ⟨pre, hsplit⟩ := List.getLast?_eq_some_iff.mp hx
  have hacts : Acts x := by
    intro he
    have hdb : x.after.backend.db = x.before.backend.db := congrArg Site.db he
    simp [banned, hdb] at hbanned
  exact ⟨s, pre, x, [], hs, hsplit, hacts, (changed_by_authority hs).1 pre x [] hsplit hacts⟩

end HelbreathBackend.AdminAuthority
