import HelbreathBackend.AdminAudit
import HelbreathBackend.Lib.Transition

/-!
The life of an administrator's token.

Logins put sessions into the table, logouts take them out, and every request that authenticates
first drops those that have expired. Whether a token is good is read off the history: it was
issued, nobody has logged out with it since, and its time is not over.
-/

namespace HelbreathBackend.AdminApi

open HelbreathBackend.Lib HelbreathBackend.Domain HelbreathBackend.Infrastructure
open HelbreathBackend.Application (trim isWhiteSpace)

/-! ### The header -/

lemma stripPrefix_eq_some_iff {text start rest : String} :
    stripPrefix text start = some rest ↔ text = start ++ rest := by
  have hiff : start.toList.isPrefixOf text.toList = true ↔ start.toList <+: text.toList :=
    List.isPrefixOf_iff_prefix
  unfold stripPrefix
  constructor
  · intro h
    split at h
    · next hp =>
      obtain ⟨l, hl⟩ := hiff.mp hp
      obtain rfl := Option.some.inj h
      apply String.toList_injective
      rw [← hl, String.toList_append, String.toList_ofList, ← String.length_toList,
        List.drop_left]
    · cases h
  · rintro rfl
    have hp : start.toList <+: (start ++ rest).toList := by
      rw [String.toList_append]
      exact List.prefix_append _ _
    rw [if_pos (hiff.mpr hp), String.toList_append, ← String.length_toList, List.drop_left,
      String.ofList_toList]

/-- A header carries a token: the word `Bearer`, or `bearer`, a blank, and the token with blanks
around it. -/
def Carries (authorization : Option HeaderValue) (token : String) : Prop :=
  ∃ rest, (authorization = some (.text ("Bearer " ++ rest)) ∨
    authorization = some (.text ("bearer " ++ rest))) ∧ trim rest = token ∧ token ≠ ""

/-- **The header**: the token that is found is the one it carries. -/
lemma extractBearerToken_eq_ok_iff {authorization : Option HeaderValue} {token : String} :
    extractBearerToken authorization = .ok token ↔ Carries authorization token := by
  rcases authorization with _ | value | _
  · exact iff_of_false (fun h => by cases h) fun ⟨_, h, _⟩ => by rcases h with h | h <;> cases h
  · have hstrip : ∀ rest, (stripPrefix value "Bearer ").or (stripPrefix value "bearer ") =
        some rest ↔ value = "Bearer " ++ rest ∨ value = "bearer " ++ rest := by
      intro rest
      rcases hB : stripPrefix value "Bearer " with _ | r
      · rw [Option.none_or, stripPrefix_eq_some_iff]
        refine ⟨.inr, fun h => h.resolve_left fun he => ?_⟩
        rw [stripPrefix_eq_some_iff.mpr he] at hB
        cases hB
      · obtain rfl := stripPrefix_eq_some_iff.mp hB
        rw [Option.some_or, Option.some_inj, String.append_right_inj]
        refine ⟨.inl, fun h => h.resolve_right fun he => ?_⟩
        have hhead := congrArg (fun s : String => s.toList.head?) he
        simp at hhead
    simp only [extractBearerToken, Carries, Option.some_inj, HeaderValue.text.injEq]
    rcases hor : (stripPrefix value "Bearer ").or (stripPrefix value "bearer ") with _ | rest
    · refine iff_of_false (fun h => by cases h) fun ⟨rest, h, _⟩ => ?_
      rw [(hstrip rest).mpr h] at hor
      cases hor
    · have hrest := (hstrip rest).mp hor
      constructor
      · intro h
        dsimp only at h
        split at h
        · cases h
        · next hne =>
          cases h
          exact ⟨rest, hrest, rfl, hne⟩
      · rintro ⟨rest', h, rfl, hne⟩
        obtain rfl := Option.some.inj (hor.symm.trans ((hstrip rest').mpr h))
        dsimp only
        rw [if_neg hne]
  · exact iff_of_false (fun h => by cases h) fun ⟨_, h, _⟩ => by rcases h with h | h <;> cases h

lemma trim_eq_self {s : String} (h : ∀ c ∈ s.toList, isWhiteSpace c = false) : trim s = s := by
  have hdrop : ∀ l : List Char, (∀ c ∈ l, isWhiteSpace c = false) → l.dropWhile isWhiteSpace = l := by
    intro l hl
    cases l with
    | nil => rfl
    | cons c l => exact List.dropWhile_cons_of_neg (by rw [hl c List.mem_cons_self]; decide)
  unfold trim
  rw [hdrop _ h, hdrop _ fun c hc => h c (List.mem_reverse.mp hc), List.reverse_reverse,
    String.ofList_toList]

lemma isWhiteSpace_format {u : Uuid} {c : Char} (hc : c ∈ u.format.toList) :
    isWhiteSpace c = false := by
  have hdigit : ∀ n < 16, isWhiteSpace (Nat.digitChar n) = false := by decide
  have hhex : ∀ bs : List UInt8,
      ∀ c ∈ bs.flatMap fun b => [Nat.digitChar (b.toNat / 16), Nat.digitChar (b.toNat % 16)],
        isWhiteSpace c = false := by
    intro bs c hc
    obtain ⟨b, -, hc⟩ := List.mem_flatMap.mp hc
    have hlt : b.toNat < 256 := UInt8.toNat_lt b
    rcases List.mem_pair.mp hc with rfl | rfl
    · exact hdigit _ (by omega)
    · exact hdigit _ (by omega)
  unfold Uuid.format at hc
  rw [String.toList_ofList] at hc
  simp only [List.intercalate, List.intersperse, List.flatten_cons, List.flatten_nil,
    List.mem_append, List.mem_singleton, List.append_nil] at hc
  rcases hc with h | rfl | h | rfl | h | rfl | h | rfl | h
  all_goals first
    | exact hhex _ c h
    | decide

/-- The header of a client that has a token. -/
lemma carries_format (u : Uuid) : Carries (some (.text ("Bearer " ++ u.format))) u.format := by
  refine ⟨u.format, .inl rfl, trim_eq_self fun c => isWhiteSpace_format, fun hempty => ?_⟩
  have hlen := u.length_format
  rw [hempty] at hlen
  cases hlen

/-! ### What a request does to the sessions -/

/-- The sessions are the same. -/
def SameSessions (b b' : Backend) : Prop := b'.sessions = b.sessions

lemma sameSessions_refl (b : Backend) : SameSessions b b := rfl

lemma sameSessions_trans (b₁ b₂ b₃ : Backend) (h : SameSessions b₁ b₂) (h' : SameSessions b₂ b₃) :
    SameSessions b₁ b₃ := Eq.trans h' h

/-- The handler leaves the sessions alone. -/
abbrev Spares {ε α : Type} (h : Handler Outside Backend ε α) : Prop :=
  Handler.Keeps SameSessions h

lemma Spares.bind {α β ε : Type} {h : Handler Outside Backend ε α}
    {k : α → Handler Outside Backend ε β} (hh : Spares h) (hk : ∀ a, Spares (k a)) :
    Spares (h >>= k) := Handler.Keeps.bind sameSessions_trans hh hk

lemma spares_given_bind {β ε : Type} {k : Outside → Handler Outside Backend ε β}
    (hk : ∀ o, Spares (k o)) : Spares (Handler.given >>= k) :=
  Spares.bind (Handler.keeps_given sameSessions_refl) hk

lemma spares_pure {α ε : Type} (a : α) : Spares (pure a : Handler Outside Backend ε α) :=
  Handler.keeps_pure sameSessions_refl a

lemma spares_apiFail {α : Type} (err : ApiError) : Spares (apiFail err : Api α) :=
  Handler.keeps_fail sameSessions_refl _

lemma spares_ofExcept {α ε : Type} (x : Except ε α) :
    Spares (Handler.ofExcept x : Handler Outside Backend ε α) :=
  Handler.keeps_ofExcept sameSessions_refl x

lemma spares_ofOption {α ε : Type} (e : ε) (x : Option α) :
    Spares (Handler.ofOption e x : Handler Outside Backend ε α) :=
  Handler.keeps_ofOption sameSessions_refl e x

lemma spares_statement {α : Type} (f : Database → Except DbError (α × Database)) :
    Spares (statement f) := keeps_statement (fun _ => rfl) fun _ _ _ _ => rfl

lemma spares_query {α : Type} (f : Database → α) : Spares (query f) := spares_statement _

lemma spares_orDbError {α : Type} {h : Repo α} (hh : Spares h) : Spares (orDbError h) :=
  hh.mapError _

lemma spares_mapRow {β : Type} {mapId : MapId} {h : Outside → Repo β} {b : β}
    (hh : ∀ o, Spares (h o)) :
    Spares (Handler.given >>= fun o => query (fun db => db.mapExists mapId) >>= fun found =>
      if found = true then h o else pure b) := by
  refine spares_given_bind fun o => (spares_query _).bind fun found => ?_
  split
  · exact hh o
  · exact spares_pure _

lemma spares_invokeWorldMapControl (mapId : MapId) (action : MapControl) :
    Spares (invokeWorldMapControl mapId action) := by
  intro o b
  unfold invokeWorldMapControl
  split <;> rfl

lemma spares_auditAction (principal : AdminPrincipal) (actionType targetType target : String)
    (payload : Json) (ip : Option String) :
    Spares (auditAction principal actionType targetType target payload ip) := by
  intro o b
  obtain ⟨logs, fates, hrun⟩ := auditAction_run principal actionType targetType target payload ip o b
  rw [hrun]
  rfl

/-- What is left of the sessions at a time. -/
def unexpired (now : Time) (sessions : FMap String AdminSession) : FMap String AdminSession :=
  FMap.retain (fun _ session => now < session.expiresAt) sessions

/-- Whatever comes of it, the request leaves the sessions alone, or drops those that have
expired. -/
def Prunes {α : Type} (h : Api α) : Prop :=
  ∀ o b, (h o b).2.sessions = b.sessions ∨ (h o b).2.sessions = unexpired o.now b.sessions

/-- What is left of `authenticate` once the session of the token is found. -/
def permit (session : AdminSession) (permission : Permission) : Api AdminPrincipal :=
  match requirePermission session.principal permission with
  | .ok _ => pure session.principal
  | .error e => apiFail (.forbidden s!"forbidden: {e}")

lemma authenticate_eq (auth : Option HeaderValue) (permission : Permission) :
    authenticate auth permission =
      (pruneExpiredSessions >>= fun _ => Handler.ofExcept (extractBearerToken auth) >>= fun token =>
        Handler.look (fun b : Backend => b.sessions.lookup token) >>= fun session =>
          Handler.ofOption (.api (.unauthorized "invalid admin token")) session >>= fun session =>
            permit session permission) := rfl

lemma spares_permit (session : AdminSession) (permission : Permission) :
    Spares (permit session permission) := by
  unfold permit
  split
  · exact spares_pure _
  · exact spares_apiFail _

lemma permit_eq_ok_iff {session : AdminSession} {permission : Permission} {o : Outside}
    {b b' : Backend} {principal : AdminPrincipal} :
    permit session permission o b = (.ok principal, b') ↔
      session.principal = principal ∧ principal.hasPermission permission = true ∧ b = b' := by
  unfold permit requirePermission
  by_cases hperm : session.principal.hasPermission permission = true
  · rw [if_pos hperm]
    refine Handler.pure_eq_ok_iff.trans ⟨?_, ?_⟩
    · rintro ⟨rfl, rfl⟩
      exact ⟨rfl, hperm, rfl⟩
    · rintro ⟨rfl, -, rfl⟩
      exact ⟨rfl, rfl⟩
  · rw [if_neg hperm]
    refine iff_of_false Handler.fail_ne_ok ?_
    rintro ⟨rfl, hp, -⟩
    exact hperm hp

lemma authenticate_sessions_eq (auth : Option HeaderValue) (permission : Permission)
    (o : Outside) (b : Backend) :
    (authenticate auth permission o b).2.sessions = unexpired o.now b.sessions := by
  have hrest : Spares (Handler.ofExcept (extractBearerToken auth) >>= fun token =>
      Handler.look (fun b : Backend => b.sessions.lookup token) >>= fun session =>
        Handler.ofOption (.api (.unauthorized "invalid admin token")) session >>= fun session =>
          permit session permission) := by
    refine (spares_ofExcept _).bind fun token => ?_
    refine Spares.bind (Handler.keeps_look sameSessions_refl _) fun session => ?_
    exact (spares_ofOption _ _).bind fun session => spares_permit session permission
  exact hrest o { b with sessions := unexpired o.now b.sessions }

/-- A request that authenticates, and leaves the sessions alone after that. -/
lemma prunes_authenticate {α : Type} {auth : Option HeaderValue} {permission : Permission}
    {k : AdminPrincipal → Api α} (hk : ∀ principal, Spares (k principal)) :
    Prunes (authenticate auth permission >>= k) := by
  intro o b
  have hfirst := authenticate_sessions_eq auth permission o b
  right
  rcases hauth : authenticate auth permission o b with ⟨e | principal, b₁⟩
  · rw [hauth] at hfirst
    rw [Handler.bind_of_error hauth]
    exact hfirst
  · rw [hauth] at hfirst
    rw [Handler.bind_of_ok hauth]
    exact (hk principal o b₁).trans hfirst

lemma prunes_moderationAction (auth : Option HeaderValue) (req : ModerationActionRequest)
    (action : String) : Prunes (moderationAction auth req action) := by
  refine prunes_authenticate fun p => ?_
  split
  · exact spares_apiFail _
  · refine spares_given_bind fun o => (spares_ofOption _ _).bind fun endsAt => ?_
    refine (spares_orDbError (spares_given_bind fun _ => spares_statement _)).bind fun _ => ?_
    exact (spares_auditAction _ _ _ _ _ _).bind fun _ => spares_pure _

/-- What the handlers of maps do after the registry has answered. -/
lemma spares_persisted {persisted : Bool} {mapId : MapId} {action : MapControl} {err : ApiError}
    {α : Type} {h : Api α} (hh : Spares h) :
    Spares (if ¬ persisted = true then
      Handler.ignore (invokeWorldMapControl mapId action) >>= fun _ => apiFail err else h) := by
  split
  · exact Spares.bind (spares_invokeWorldMapControl _ _).ignore fun _ => spares_apiFail _
  · exact hh

/-- **What the requests do to the sessions**: they drop those that have expired, and nothing
else. -/
theorem prunes_serve (auth : Option HeaderValue) (req : AdminRequest) :
    Prunes (req.serve auth) := by
  have haudit : ∀ (p : AdminPrincipal) (actionType targetType target : String) (payload answer : Json),
      Spares (auditAction p actionType targetType target payload none >>= fun _ => pure answer) :=
    fun _ _ _ _ _ _ => (spares_auditAction _ _ _ _ _ _).bind fun _ => spares_pure _
  cases req with
  | managedServicesStatus =>
    exact prunes_authenticate fun p => spares_given_bind fun o => haudit _ _ _ _ _ _
  | managedServiceControl service action =>
    exact prunes_authenticate fun p => spares_given_bind fun o => (spares_ofOption _ _).bind
      fun svc => (spares_ofOption _ _).bind fun parsed => (spares_ofExcept _).bind
        fun _ => haudit _ _ _ _ _ _
  | managedServiceLogs service lines =>
    exact prunes_authenticate fun p => spares_given_bind fun o => (spares_ofOption _ _).bind
      fun svc => haudit _ _ _ _ _ _
  | searchAccounts text limit | accountSanctions accountId | searchCharacters text limit
  | characterInventory characterId =>
    exact prunes_authenticate fun p => spares_given_bind fun o =>
      (spares_orDbError (spares_query _)).bind fun _ => haudit _ _ _ _ _ _
  | blockAccount accountId | unblockAccount accountId =>
    exact prunes_authenticate fun p =>
      (spares_orDbError (spares_statement _)).bind fun _ => haudit _ _ _ _ _ _
  | resetAccountPassword accountId =>
    exact prunes_authenticate fun p => spares_given_bind fun o => haudit _ _ _ _ _ _
  | moveCharacter characterId mapId x y =>
    exact prunes_authenticate fun p =>
      (spares_orDbError (spares_given_bind fun _ => spares_statement _)).bind
        fun _ => haudit _ _ _ _ _ _
  | disconnectCharacter characterId => exact prunes_authenticate fun p => haudit _ _ _ _ _ _
  | listMaps =>
    exact prunes_authenticate fun p => spares_given_bind fun o =>
      (spares_orDbError (spares_query _)).bind fun _ =>
        (spares_orDbError (spares_query _)).bind fun _ => haudit _ _ _ _ _ _
  | activateMap mapId | deactivateMap mapId =>
    exact prunes_authenticate fun p => (spares_invokeWorldMapControl _ _).bind fun wire =>
      (spares_orDbError (spares_mapRow fun o => spares_statement _)).bind fun persisted =>
        spares_persisted (haudit _ _ _ _ _ _)
  | restartMapInstance mapId =>
    exact prunes_authenticate fun p => (spares_invokeWorldMapControl _ _).bind fun stopped =>
      (spares_invokeWorldMapControl _ _).bind fun started =>
        (spares_orDbError (spares_mapRow fun o => spares_statement _)).bind fun persisted =>
          spares_persisted (haudit _ _ _ _ _ _)
  | broadcast message =>
    change Prunes (AdminApi.broadcast auth message)
    unfold AdminApi.broadcast
    split
    · exact fun o b => .inl rfl
    · refine prunes_authenticate fun p => spares_given_bind fun o =>
        (spares_ofExcept _).bind fun status => ?_
      split
      · exact spares_apiFail _
      · exact haudit _ _ _ _ _ _
  | toggleEvent eventCode enabled => exact prunes_authenticate fun p => haudit _ _ _ _ _ _
  | moderationMute req => exact prunes_moderationAction auth req "mute"
  | moderationJail req => exact prunes_moderationAction auth req "jail"
  | moderationBan req => exact prunes_moderationAction auth req "ban"

lemma spares_findAdminForLogin (email : String) : Spares (findAdminForLogin email) := by
  refine (spares_query _).bind fun row => ?_
  cases row with
  | none => exact spares_pure _
  | some u => exact (spares_query _).bind fun roles => spares_pure _

/-- A login puts one session into the table if it succeeds, and else leaves the sessions alone. -/
lemma adminLogin_sessions (req : AdminLoginRequest) (o : Outside) (b : Backend) :
    (∃ record b₁ principal expiresAt, findAdminForLogin (trim req.email) o b = (.ok record, b₁) ∧
        loginPrincipal o req record = .ok principal ∧ newExpiry o = some expiresAt ∧
        (adminLogin req o b).2.sessions =
          b.sessions.insert o.token.format ⟨principal, expiresAt⟩ ∧
        (adminLogin req o b).1 = .ok (.obj [("ok", .bool true), ("token", .str o.token.format),
          ("expires_at_unix", .num (expiresAt / 1000000))])) ∨
      ((adminLogin req o b).2.sessions = b.sessions ∧ ∃ e, (adminLogin req o b).1 = .error e) := by
  by_cases hblank : trim req.email = "" ∨ req.password = ""
  · have hrun : adminLogin req = apiFail (.badRequest "email/password required") := if_pos hblank
    rw [hrun]
    exact .inr ⟨rfl, _, rfl⟩
  let opens (record : Option AdminAuthRecord) : Api Json :=
    Handler.ofExcept (loginPrincipal o req record) >>= fun principal =>
      Handler.ofOption .panicked (newExpiry o) >>= fun expiresAt =>
        Handler.change (fun b : Backend =>
          { b with sessions := b.sessions.insert o.token.format ⟨principal, expiresAt⟩ }) >>=
        fun _ => pure (.obj [("ok", .bool true), ("token", .str o.token.format),
          ("expires_at_unix", .num (expiresAt / 1000000))])
  have hrun : adminLogin req o b =
      (orDbError (findAdminForLogin (trim req.email)) >>= opens) o b := by
    unfold adminLogin
    rw [if_neg hblank]
    rfl
  have hspares := spares_orDbError (spares_findAdminForLogin (trim req.email)) o b
  rw [hrun]
  rcases hfind : orDbError (findAdminForLogin (trim req.email)) o b with ⟨e | record, b₁⟩
  · rw [hfind] at hspares
    rw [Handler.bind_of_error hfind]
    exact .inr ⟨hspares, e, rfl⟩
  rw [hfind] at hspares
  have hb₁ : b₁.sessions = b.sessions := hspares
  rw [Handler.bind_of_ok hfind]
  dsimp only [opens]
  rcases hp : loginPrincipal o req record with e | principal
  · exact .inr ⟨hb₁, e, rfl⟩
  rcases hexp : newExpiry o with _ | expiresAt
  · exact .inr ⟨hb₁, .panicked, rfl⟩
  refine .inl ⟨record, b₁, principal, expiresAt, Handler.mapError_eq_ok_iff.mp hfind, hp, rfl, ?_,
    rfl⟩
  rw [← hb₁]
  rfl

/-- A logout takes the session of its token out. -/
lemma adminLogout_sessions (auth : Option HeaderValue) (o : Outside) (b : Backend) :
    (adminLogout auth o b).2.sessions =
      match extractBearerToken auth with
      | .ok token => b.sessions.erase token
      | .error _ => b.sessions := by
  unfold adminLogout
  rcases extractBearerToken auth with e | token <;> rfl

lemma authenticate_eq_ok_iff {auth : Option HeaderValue} {permission : Permission} {o : Outside}
    {b b' : Backend} {principal : AdminPrincipal} :
    authenticate auth permission o b = (.ok principal, b') ↔
      ∃ token session, Carries auth token ∧ b.sessions.lookup token = some session ∧
        o.now < session.expiresAt ∧ session.principal = principal ∧
        principal.hasPermission permission = true ∧
        b' = { b with sessions := unexpired o.now b.sessions } := by
  have hlookup : ∀ token session, (unexpired o.now b.sessions).lookup token = some session ↔
      b.sessions.lookup token = some session ∧ o.now < session.expiresAt := by
    intro token session
    rw [unexpired, FMap.lookup_retain, Option.filter_eq_some_iff, decide_eq_true_eq]
  simp only [authenticate_eq, Handler.bind_eq_ok_iff, Handler.ofExcept_eq_ok_iff,
    Handler.ofOption_eq_ok_iff, Handler.look_eq_ok_iff, extractBearerToken_eq_ok_iff]
  constructor
  · rintro ⟨_, b₁, hprune, token, _, ⟨hcarries, rfl⟩, entry, _, ⟨hlook, rfl⟩, session, _,
      ⟨rfl, rfl⟩, hrest⟩
    obtain rfl : { b with sessions := unexpired o.now b.sessions } = b₁ :=
      congrArg Prod.snd hprune
    obtain ⟨hp, hperm, rfl⟩ := permit_eq_ok_iff.mp hrest
    obtain ⟨hsession, hlive⟩ := (hlookup token session).mp hlook
    exact ⟨token, session, hcarries, hsession, hlive, hp, hperm, rfl⟩
  · rintro ⟨token, session, hcarries, hsession, hlive, hp, hperm, rfl⟩
    refine ⟨(), { b with sessions := unexpired o.now b.sessions }, rfl, token, _,
      ⟨hcarries, rfl⟩, some session, _, ⟨?_, rfl⟩, session, _, ⟨rfl, rfl⟩, ?_⟩
    · exact (hlookup token session).mpr ⟨hsession, hlive⟩
    · exact permit_eq_ok_iff.mpr ⟨hp, hperm, rfl⟩

/-! ### Requests, one after the other -/

inductive Request
  | login (req : AdminLoginRequest)
  | logout (auth : Option HeaderValue)
  /-- any other request of the service -/
  | handled (handler : Api Json) (h : Prunes handler)

def Request.run : Request → Api Json
  | .login req => adminLogin req
  | .logout auth => adminLogout auth
  | .handled handler _ => handler

/-- A request that was answered, with what it found. -/
structure Served where
  outside : Outside
  backend : Backend
  request : Request
  answer : Except Failure Json

/-- The sessions of the service. -/
structure TokenState where
  sessions : FMap String AdminSession
  /-- history: the requests so far -/
  history : List Served

/-- A request, with all that it finds but the sessions. -/
structure Arrival where
  outside : Outside
  backend : Backend
  request : Request

/-- The request as it is answered in a state. -/
def Arrival.answered (a : Arrival) (r : TokenState) : Served :=
  let b : Backend := { a.backend with sessions := r.sessions }
  ⟨a.outside, b, a.request, (a.request.run a.outside b).1⟩

def TokenState.serve (r : TokenState) (a : Arrival) : TokenState where
  sessions := (a.request.run a.outside { a.backend with sessions := r.sessions }).2.sessions
  history := r.history ++ [a.answered r]

def tokenSystem : System TokenState Arrival where
  init r := r = ⟨∅, []⟩
  step r a := some (r.serve a)

/-- The entry is a login that has issued the token, for the session. -/
def Issues (token : String) (session : AdminSession) (x : Served) : Prop :=
  ∃ req record b₁, x.request = .login req ∧
    findAdminForLogin (trim req.email) x.outside x.backend = (.ok record, b₁) ∧
    loginPrincipal x.outside req record = .ok session.principal ∧
    newExpiry x.outside = some session.expiresAt ∧ token = x.outside.token.format ∧
    x.answer = .ok (.obj [("ok", .bool true), ("token", .str token),
      ("expires_at_unix", .num (session.expiresAt / 1000000))])

/-- The entry is a logout with the token. -/
def Revokes (token : String) (x : Served) : Prop :=
  ∃ auth, x.request = .logout auth ∧ extractBearerToken auth = .ok token

/-- The token was issued for the session, and nobody has logged out with it since. -/
def Live (token : String) (session : AdminSession) (l : List Served) : Prop :=
  Since (fun _ => Issues token session) (fun x => ¬ Revokes token x) l

/-- Time does not go back, and the tokens of logins are new. -/
def InOrder (r : TokenState) (a : Arrival) : Prop :=
  (∀ x ∈ r.history, x.outside.now ≤ a.outside.now) ∧
  ∀ req, a.request = .login req → ∀ x ∈ r.history, ∀ session,
    ¬ Issues a.outside.token.format session x

lemma Issues.unique {token token' : String} {session session' : AdminSession} {x : Served}
    (h : Issues token session x) (h' : Issues token' session' x) :
    token = token' ∧ session = session' := by
  obtain ⟨req, record, b₁, hreq, hfind, hp, hexp, ht, -⟩ := h
  obtain ⟨req', record', b₁', hreq', hfind', hp', hexp', ht', -⟩ := h'
  obtain rfl := Request.login.inj (hreq.symm.trans hreq')
  obtain ⟨rfl, -⟩ : record = record' ∧ b₁ = b₁' := by
    have he := hfind.symm.trans hfind'
    cases he
    exact ⟨rfl, rfl⟩
  have hprincipal : session.principal = session'.principal :=
    Except.ok.inj (hp.symm.trans hp')
  have hexpires : session.expiresAt = session'.expiresAt :=
    Option.some.inj (hexp.symm.trans hexp')
  refine ⟨ht.trans ht'.symm, ?_⟩
  obtain ⟨principal, expiresAt⟩ := session
  obtain rfl : principal = session'.principal := hprincipal
  obtain rfl : expiresAt = session'.expiresAt := hexpires
  rfl

variable {r : TokenState} {a : Arrival} {token : String} {session : AdminSession}

/-- What becomes of the sessions and the history when a request is answered. -/
inductive Effect (r : TokenState) (a : Arrival) : Prop
  | issued {principal : AdminPrincipal} {expiresAt : Time}
      (hissues : Issues a.outside.token.format ⟨principal, expiresAt⟩ (a.answered r))
      (hlogin : ∃ req, a.request = .login req)
      (hsessions : (r.serve a).sessions =
        r.sessions.insert a.outside.token.format ⟨principal, expiresAt⟩)
  | revoked (gone : String) (hrevokes : ∀ token, Revokes token (a.answered r) ↔ token = gone)
      (hissues : ∀ token session, ¬ Issues token session (a.answered r))
      (hsessions : (r.serve a).sessions = r.sessions.erase gone)
  | pruned (hrevokes : ∀ token, ¬ Revokes token (a.answered r))
      (hissues : ∀ token session, ¬ Issues token session (a.answered r))
      (hsessions : (r.serve a).sessions = r.sessions ∨
        (r.serve a).sessions = unexpired a.outside.now r.sessions)

lemma serve_sessions (r : TokenState) (o : Outside) (b : Backend) (request : Request) :
    (r.serve ⟨o, b, request⟩).sessions =
      (request.run o { b with sessions := r.sessions }).2.sessions := rfl

lemma answered_answer (r : TokenState) (o : Outside) (b : Backend) (request : Request) :
    (Arrival.answered ⟨o, b, request⟩ r).answer =
      (request.run o { b with sessions := r.sessions }).1 := rfl

lemma effect (r : TokenState) (a : Arrival) : Effect r a := by
  obtain ⟨o, b, request⟩ := a
  have hserve := serve_sessions r o b request
  have hanswered := answered_answer r o b request
  generalize hrun : request.run o { b with sessions := r.sessions } = done at hserve hanswered
  cases request with
  | login req =>
    have hnone : ∀ token, ¬ Revokes token (Arrival.answered ⟨o, b, .login req⟩ r) := by
      rintro token ⟨auth, h, -⟩
      cases h
    have hlogin := adminLogin_sessions req o { b with sessions := r.sessions }
    have hdone : adminLogin req o { b with sessions := r.sessions } = done := hrun
    rw [hdone] at hlogin
    rcases hlogin with ⟨record, b₁, principal, expiresAt, hfind, hp, hexp, hsessions, hanswer⟩ |
      ⟨hsessions, e, hanswer⟩
    · exact .issued ⟨req, record, b₁, rfl, hfind, hp, hexp, rfl, hanswered.trans hanswer⟩
        ⟨req, rfl⟩ (hserve.trans hsessions)
    · refine .pruned hnone ?_ (.inl (hserve.trans hsessions))
      rintro token session ⟨-, -, -, -, -, -, -, -, h⟩
      rw [hanswered, hanswer] at h
      cases h
  | logout auth =>
    have hissues : ∀ token session,
        ¬ Issues token session (Arrival.answered ⟨o, b, .logout auth⟩ r) := by
      rintro token session ⟨req, -, -, h, -⟩
      cases h
    have hsessions := adminLogout_sessions auth o { b with sessions := r.sessions }
    have hdone : adminLogout auth o { b with sessions := r.sessions } = done := hrun
    rw [hdone] at hsessions
    rcases hauth : extractBearerToken auth with e | gone
    · rw [hauth] at hsessions
      refine .pruned ?_ hissues (.inl (hserve.trans hsessions))
      rintro token ⟨auth', h, hauth'⟩
      cases h
      rw [hauth] at hauth'
      cases hauth'
    · rw [hauth] at hsessions
      refine .revoked gone (fun token => ⟨?_, ?_⟩) hissues (hserve.trans hsessions)
      · rintro ⟨auth', h, hauth'⟩
        cases h
        rw [hauth] at hauth'
        cases hauth'
        rfl
      · rintro rfl
        exact ⟨auth, rfl, hauth⟩
  | handled handler h =>
    have hsessions := h o { b with sessions := r.sessions }
    have hdone : handler o { b with sessions := r.sessions } = done := hrun
    rw [hdone, ← hserve] at hsessions
    refine .pruned ?_ ?_ hsessions
    · rintro token ⟨auth, h, -⟩
      cases h
    · rintro token session ⟨req, -, -, h, -⟩
      cases h

/-! ### The table and the history -/

lemma live_snoc {l : List Served} {x : Served} :
    Live token session (l ++ [x]) ↔
      Issues token session x ∨ (Live token session l ∧ ¬ Revokes token x) := since_snoc

/-- A live token was issued. -/
lemma Live.issued {l : List Served} (h : Live token session l) :
    ∃ x ∈ l, Issues token session x := by
  obtain ⟨pre, x, post, rfl, hx, -⟩ := h
  exact ⟨x, by simp, hx⟩

/-- What the table has is live, what is live and not over is in the table, and no token is issued
twice. -/
structure Tracks (r : TokenState) : Prop where
  live : ∀ token session, r.sessions.lookup token = some session → Live token session r.history
  kept : ∀ token session, Live token session r.history →
    (∀ x ∈ r.history, x.outside.now < session.expiresAt) → r.sessions.lookup token = some session
  once : Along (fun pre x => ∀ token session, Issues token session x →
    ∀ y ∈ pre, ∀ session', ¬ Issues token session' y) r.history

lemma tracks_init : Tracks ⟨∅, []⟩ where
  live _ _ h := by cases h
  kept _ _ h := absurd h not_since_nil
  once := along_nil

lemma serve_history (r : TokenState) (a : Arrival) :
    (r.serve a).history = r.history ++ [a.answered r] := rfl

/-- What a request leaves in the table is live. -/
lemma Tracks.live_serve (h : Tracks r) (hlookup : (r.serve a).sessions.lookup token = some session) :
    Live token session (r.serve a).history := by
  rw [serve_history, live_snoc]
  cases effect r a with
  | @issued principal expiresAt hissues hlogin hsessions =>
    obtain ⟨req, hreq⟩ := hlogin
    rw [hsessions] at hlookup
    rcases FMap.lookup_insert_cases hlookup with ⟨ht, rfl⟩ | ⟨-, hlookup⟩
    · rw [ht]
      exact .inl hissues
    · refine .inr ⟨h.live token session hlookup, ?_⟩
      rintro ⟨auth, hlogout, -⟩
      cases hreq.symm.trans hlogout
  | revoked gone hrevokes hissues hsessions =>
    rw [hsessions] at hlookup
    obtain ⟨hne, hlookup⟩ := FMap.lookup_of_erase hlookup
    exact .inr ⟨h.live token session hlookup, fun hr => hne ((hrevokes token).mp hr)⟩
  | pruned hrevokes hissues hsessions =>
    refine .inr ⟨h.live token session ?_, hrevokes token⟩
    rcases hsessions with hsame | hpruned
    · rwa [hsame] at hlookup
    · rw [hpruned, unexpired, FMap.lookup_retain, Option.filter_eq_some_iff] at hlookup
      exact hlookup.1

/-- What is live and not over when a request is answered stays in the table. -/
lemma Tracks.kept_serve (h : Tracks r) (horder : InOrder r a)
    (hlive : Live token session (r.serve a).history)
    (hnow : ∀ x ∈ (r.serve a).history, x.outside.now < session.expiresAt) :
    (r.serve a).sessions.lookup token = some session := by
  rw [serve_history] at hnow
  have hbefore : ∀ x ∈ r.history, x.outside.now < session.expiresAt :=
    fun x hx => hnow x (List.mem_append_left _ hx)
  have hexp : a.outside.now < session.expiresAt :=
    hnow (a.answered r) (List.mem_append_right _ (List.mem_singleton_self _))
  rw [serve_history, live_snoc] at hlive
  cases effect r a with
  | @issued principal expiresAt hissues hlogin hsessions =>
    obtain ⟨req, hreq⟩ := hlogin
    rw [hsessions, FMap.lookup_insert_eq]
    rcases hlive with hnew | ⟨hold, -⟩
    · obtain ⟨rfl, rfl⟩ := hnew.unique hissues
      rw [if_pos rfl]
    · have hne : token ≠ a.outside.token.format := by
        rintro rfl
        obtain ⟨x, hx, hissued⟩ := hold.issued
        exact horder.2 req hreq x hx session hissued
      rw [if_neg hne]
      exact h.kept token session hold hbefore
  | revoked gone hrevokes hissues hsessions =>
    rw [hsessions, FMap.lookup_erase_eq]
    rcases hlive with hnew | ⟨hold, hstay⟩
    · exact absurd hnew (hissues token session)
    · rw [if_neg fun he => hstay ((hrevokes token).mpr he)]
      exact h.kept token session hold hbefore
  | pruned hrevokes hissues hsessions =>
    rcases hlive with hnew | ⟨hold, -⟩
    · exact absurd hnew (hissues token session)
    · have hin := h.kept token session hold hbefore
      rcases hsessions with hsame | hpruned
      · rw [hsame, hin]
      · rw [hpruned, unexpired, FMap.lookup_retain, Option.filter_eq_some_iff]
        exact ⟨hin, decide_eq_true hexp⟩

/-- A request issues no token that was issued before. -/
lemma issues_fresh (horder : InOrder r a) (hnew : Issues token session (a.answered r)) :
    ∀ y ∈ r.history, ∀ session', ¬ Issues token session' y := by
  cases effect r a with
  | @issued principal expiresAt hissues hlogin hsessions =>
    obtain ⟨req, hreq⟩ := hlogin
    obtain ⟨rfl, -⟩ := hnew.unique hissues
    exact horder.2 req hreq
  | revoked gone hrevokes hissues hsessions => exact absurd hnew (hissues token session)
  | pruned hrevokes hissues hsessions => exact absurd hnew (hissues token session)

/-- One request. -/
lemma Tracks.serve (h : Tracks r) (horder : InOrder r a) : Tracks (r.serve a) where
  live _ _ hlookup := h.live_serve hlookup
  kept _ _ hlive hnow := h.kept_serve horder hlive hnow
  once := by
    rw [serve_history, along_snoc]
    exact ⟨h.once, fun _ _ hnew => issues_fresh horder hnew⟩

theorem tracks_of_reached (h : tokenSystem.ReachedBy InOrder r) : Tracks r := by
  refine h.invariant Tracks ?_ ?_
  · rintro r rfl
    exact tracks_init
  · intro r a r' hr horder hst
    obtain rfl := Option.some.inj hst
    exact hr.serve horder

/-! ### What authentication answers -/

lemma lookup_unexpired (now : Time) (sessions : FMap String AdminSession) (token : String) :
    (unexpired now sessions).lookup token =
      (sessions.lookup token).filter fun session => now < session.expiresAt :=
  FMap.lookup_retain _ _ _

/-- The answer depends on the sessions by the entry of the token alone. -/
lemma authenticate_fst {auth : Option HeaderValue} (htoken : extractBearerToken auth = .ok token)
    (permission : Permission) (o : Outside) (b : Backend) :
    (authenticate auth permission o b).1 =
      match (unexpired o.now b.sessions).lookup token with
      | none => .error (.api (.unauthorized "invalid admin token"))
      | some session =>
        match requirePermission session.principal permission with
        | .ok _ => .ok session.principal
        | .error e => .error (.api (.forbidden s!"forbidden: {e}")) := by
  have hrun : authenticate auth permission o b =
      (Handler.ofExcept (extractBearerToken auth) >>= fun token =>
        Handler.look (fun b : Backend => b.sessions.lookup token) >>= fun session =>
          Handler.ofOption (.api (.unauthorized "invalid admin token")) session >>= fun session =>
            match requirePermission session.principal permission with
            | .ok _ => (pure session.principal : Api AdminPrincipal)
            | .error e => apiFail (.forbidden s!"forbidden: {e}")) o
        { b with sessions := unexpired o.now b.sessions } := rfl
  rw [hrun, htoken]
  show ((Handler.ofOption (Failure.api (.unauthorized "invalid admin token"))
    ((unexpired o.now b.sessions).lookup token) >>= _) o _).1 = _
  rcases (unexpired o.now b.sessions).lookup token with _ | session
  · rfl
  · show ((match requirePermission session.principal permission with
      | .ok _ => (pure session.principal : Api AdminPrincipal)
      | .error e => apiFail (.forbidden s!"forbidden: {e}")) o _).1 =
        match requirePermission session.principal permission with
        | .ok _ => .ok session.principal
        | .error e => .error (.api (.forbidden s!"forbidden: {e}"))
    rcases requirePermission session.principal permission with e | _ <;> rfl

/-- A request that neither issues the token nor revokes it makes no difference to its entry. -/
lemma lookup_serve {now : Time} (hnow : a.outside.now ≤ now)
    (hissues : ∀ session, ¬ Issues token session (a.answered r))
    (hrevokes : ¬ Revokes token (a.answered r)) :
    (unexpired now (r.serve a).sessions).lookup token =
      (unexpired now r.sessions).lookup token := by
  rw [lookup_unexpired, lookup_unexpired]
  cases effect r a with
  | issued hissued hlogin hsessions =>
    have hne : token ≠ a.outside.token.format := by
      rintro rfl
      exact hissues _ hissued
    rw [hsessions, FMap.lookup_insert_eq, if_neg hne]
  | revoked gone hgone hnone hsessions =>
    have hne : token ≠ gone := fun he => hrevokes ((hgone token).mpr he)
    rw [hsessions, FMap.lookup_erase_eq, if_neg hne]
  | pruned hgone hnone hsessions =>
    rcases hsessions with hsame | hpruned
    · rw [hsame]
    · rw [hpruned, lookup_unexpired, Option.filter_filter]
      congr 1
      funext session
      rw [Bool.and_eq_decide]
      simp only [decide_eq_true_eq, decide_eq_decide]
      constructor
      · exact fun h => h.2
      · exact fun h => ⟨lt_of_le_of_lt hnow h, h⟩

lemma hasPermission_iff {principal : AdminPrincipal} {permission : Permission} :
    principal.hasPermission permission = true ↔
      ∃ role ∈ principal.roles, permission ∈ permissionsForRole role := by
  unfold AdminPrincipal.hasPermission AdminPrincipal.effectivePermissions
  rw [decide_eq_true_eq, List.mem_flatMap]

/-- **The life of a token.** After any requests, one after the other, a token is good for a
permission exactly when a login has issued it, nobody has logged out with it since, its time is not
over, and some role of the principal of that login grants the permission; that principal is the
answer, and no other login has issued the token. Requests that do not issue or revoke it, whatever
they prune or log out, make no difference to what it is answered. -/
theorem authenticate_iff_live (h : tokenSystem.ReachedBy InOrder r) {auth : Option HeaderValue}
    (htoken : extractBearerToken auth = .ok token) (permission : Permission) {o : Outside}
    (hnow : ∀ x ∈ r.history, x.outside.now ≤ o.now) {b : Backend}
    (hsessions : b.sessions = r.sessions) :
    (∀ principal, (∃ b', authenticate auth permission o b = (.ok principal, b')) ↔
      ∃ session, Live token session r.history ∧ o.now < session.expiresAt ∧
        (∃ role ∈ session.principal.roles, permission ∈ permissionsForRole role) ∧
        session.principal = principal) ∧
    (∀ pre x post session, r.history = pre ++ x :: post → Issues token session x →
      ∀ y ∈ pre ++ post, ∀ session', ¬ Issues token session' y) ∧
    ∀ a, (∀ session, ¬ Issues token session (a.answered r)) →
      ¬ Revokes token (a.answered r) → a.outside.now ≤ o.now → ∀ b' : Backend,
      b'.sessions = (r.serve a).sessions →
        (authenticate auth permission o b').1 = (authenticate auth permission o b).1 := by
  have ht := tracks_of_reached h
  refine ⟨fun principal => ?_, fun pre x post session hsplit hx y hy session' hissued => ?_,
    fun a hissues hrevokes hle b' hb' => ?_⟩
  · constructor
    · rintro ⟨b', hok⟩
      obtain ⟨token', session, hcarries, hlookup, hlive, hp, hperm, -⟩ :=
        authenticate_eq_ok_iff.mp hok
      have hsame := htoken.symm.trans (extractBearerToken_eq_ok_iff.mpr hcarries)
      obtain rfl := Except.ok.inj hsame
      rw [hsessions] at hlookup
      refine ⟨session, ht.live token session hlookup, hlive, ?_, hp⟩
      rw [hp]
      exact hasPermission_iff.mp hperm
    · rintro ⟨session, hlive, hexp, hperm, rfl⟩
      have hlookup := ht.kept token session hlive fun x hx => lt_of_le_of_lt (hnow x hx) hexp
      rw [← hsessions] at hlookup
      exact ⟨_, authenticate_eq_ok_iff.mpr ⟨token, session, extractBearerToken_eq_ok_iff.mp htoken,
        hlookup, hexp, rfl, hasPermission_iff.mpr hperm, rfl⟩⟩
  · rcases List.mem_append.mp hy with hy | hy
    · exact ht.once pre x post hsplit token session hx y hy session' hissued
    · obtain ⟨mid, rest, rfl⟩ := List.append_of_mem hy
      have hsplit' : r.history = (pre ++ x :: mid) ++ y :: rest := by
        rw [hsplit]
        simp
      exact ht.once _ y rest hsplit' token session' hissued x (by simp) session hx
  · rw [authenticate_fst htoken, authenticate_fst htoken, hb', hsessions,
      lookup_serve hle hissues hrevokes]

/-- Requests in the order of time whose tokens, should they be logins, differ. -/
lemma reachedBy_foldl {arrivals : List Arrival} (h : arrivals.Pairwise fun a a' =>
      a.outside.now ≤ a'.outside.now ∧ a'.outside.token.format ≠ a.outside.token.format) :
    tokenSystem.ReachedBy InOrder (arrivals.foldl TokenState.serve ⟨∅, []⟩) ∧
      ∀ x ∈ (arrivals.foldl TokenState.serve ⟨∅, []⟩).history,
        ∃ a ∈ arrivals, a.outside = x.outside := by
  induction arrivals using List.reverseRecOn with
  | nil => exact ⟨.init rfl, fun x hx => (List.not_mem_nil hx).elim⟩
  | append_singleton arrivals a ih =>
    obtain ⟨hbefore, -, hlast⟩ := List.pairwise_append.mp h
    obtain ⟨hr, hhistory⟩ := ih hbefore
    have hold : ∀ x ∈ (arrivals.foldl TokenState.serve ⟨∅, []⟩).history,
        x.outside.now ≤ a.outside.now ∧ a.outside.token.format ≠ x.outside.token.format := by
      intro x hx
      obtain ⟨a', ha', he⟩ := hhistory x hx
      rw [← he]
      exact hlast a' ha' a (List.mem_singleton_self a)
    rw [List.foldl_append]
    refine ⟨.step hr ⟨fun x hx => (hold x hx).1, fun req _ x hx session => ?_⟩ rfl, ?_⟩
    · rintro ⟨-, -, -, -, -, -, -, htoken, -⟩
      exact (hold x hx).2 htoken
    · intro x hx
      rw [List.foldl_cons, List.foldl_nil, serve_history] at hx
      rcases List.mem_append.mp hx with hx | hx
      · obtain ⟨a', ha', he⟩ := hhistory x hx
        exact ⟨a', List.mem_append_left _ ha', he⟩
      · rw [List.mem_singleton.mp hx]
        exact ⟨a, List.mem_append_right _ (List.mem_singleton_self a), rfl⟩

/-- The outside at a time, with the token that a login would issue. -/
def outsideAt (now : Time) (token : Uuid) : Outside :=
  { Outside.fixture with now := now, token := token }

def bootstrapRequest : AdminLoginRequest := ⟨"admin@localhost", "change_me_now"⟩

def bootstrapSession (now : Time) : AdminSession :=
  ⟨⟨.fill 10, "admin@localhost", [.superAdmin]⟩, now + 1800000000⟩

/-- The bootstrap credential logs in whenever it comes. -/
lemma issues_bootstrap (r : TokenState) (now : Time) (token : Uuid) :
    Issues token.format (bootstrapSession now) (Arrival.answered
      ⟨outsideAt now token, Backend.fixture, .login bootstrapRequest⟩ r) := by
  have hemail : eqIgnoreAsciiCase (trim bootstrapRequest.email)
      Outside.fixture.settings.bootstrapAdminEmail = true := by decide +kernel
  have hnone : adminRow Backend.fixture.db (trim bootstrapRequest.email) = none := by decide +kernel
  have hp : loginPrincipal (outsideAt now token) bootstrapRequest none =
      .ok (bootstrapSession now).principal :=
    loginPrincipal_eq_ok_iff.mpr (.inr ⟨rfl, ⟨hemail, rfl⟩, rfl⟩)
  have hfind : findAdminForLogin (trim bootstrapRequest.email) (outsideAt now token)
      { Backend.fixture with sessions := r.sessions } =
        (.ok none, { Backend.fixture with sessions := r.sessions }) :=
    findAdminForLogin_eq_ok_iff.mpr ⟨rfl, .inl ⟨hnone, rfl, rfl⟩⟩
  have hexp : newExpiry (outsideAt now token) = some (bootstrapSession now).expiresAt := rfl
  have hlogin := adminLogin_eq_ok_iff.mpr ⟨by decide +kernel, none, _,
    (bootstrapSession now).principal, (bootstrapSession now).expiresAt, hfind, hp, hexp, rfl, rfl⟩
  exact ⟨bootstrapRequest, none, _, rfl, hfind, hp, hexp, rfl,
    (answered_answer r (outsideAt now token) Backend.fixture (.login bootstrapRequest)).trans
      (congrArg Prod.fst hlogin)⟩

def bearer (token : Uuid) : Option HeaderValue := some (.text ("Bearer " ++ token.format))

/-- Three logins of the bootstrap credential; a logout with the token of the third; and a request
with the token of the second, so late that it drops the session of the first. -/
def threeLogins : List Arrival :=
  let login (now : Time) (token : Uuid) : Arrival :=
    ⟨outsideAt now token, Backend.fixture, .login bootstrapRequest⟩
  [login 0 (.fill 21), login 1000000000 (.fill 11), login 1000000000 (.fill 31),
    ⟨outsideAt 1100000000 (.fill 41), Backend.fixture, .logout (bearer (.fill 31))⟩,
    ⟨outsideAt 2000000000 (.fill 51), Backend.fixture,
      .handled ((AdminRequest.blockAccount (.fill 1)).serve (bearer (.fill 11)))
        (prunes_serve (bearer (.fill 11)) (.blockAccount (.fill 1)))⟩]

/-- The second of them is left, and its token is good for a permission. -/
theorem authenticate_iff_live_bootstrap :
    let r := threeLogins.foldl TokenState.serve ⟨∅, []⟩
    r.sessions.keys = {(Uuid.fill 11).format} ∧
    ∃ principal b', authenticate (bearer (.fill 11)) .accountsBan (outsideAt 2000000000 (.fill 51))
      { Backend.fixture with sessions := r.sessions } = (.ok principal, b') := by
  intro r
  have hdistinct : threeLogins.Pairwise fun a a' => a.outside.now ≤ a'.outside.now ∧
      a'.outside.token.format ≠ a.outside.token.format := by
    decide +kernel
  obtain ⟨hr, hhistory⟩ : tokenSystem.ReachedBy InOrder r ∧ _ := reachedBy_foldl hdistinct
  have htoken := extractBearerToken_eq_ok_iff.mpr (carries_format (.fill 11))
  have hnow : ∀ x ∈ r.history, x.outside.now ≤ (outsideAt 2000000000 (.fill 51)).now := by
    intro x hx
    obtain ⟨a, ha, he⟩ := hhistory x hx
    have hle : ∀ a ∈ threeLogins, a.outside.now ≤ 2000000000 := by decide +kernel
    rw [← he]
    exact hle a ha
  have hlive : Live (Uuid.fill 11).format (bootstrapSession 1000000000) r.history := by
    -- the logout is one with another token
    have hother : ∀ auth, Request.logout (bearer (.fill 31)) = .logout auth →
        extractBearerToken auth ≠ .ok (Uuid.fill 11).format := by
      rintro auth he
      cases he
      intro h
      have hthird : extractBearerToken (bearer (.fill 31)) = .ok (Uuid.fill 31).format :=
        extractBearerToken_eq_ok_iff.mpr (carries_format (.fill 31))
      exact absurd (Except.ok.inj (hthird.symm.trans h)) (by decide)
    refine live_snoc.mpr (.inr ⟨live_snoc.mpr (.inr ⟨live_snoc.mpr (.inr ⟨live_snoc.mpr (.inl
      (issues_bootstrap _ 1000000000 (.fill 11))), ?_⟩), ?_⟩), ?_⟩)
    · rintro ⟨auth, he, -⟩
      cases he
    · rintro ⟨auth, he, htok⟩
      exact hother auth he htok
    · rintro ⟨auth, he, -⟩
      cases he
  have hgrants : ∃ role ∈ (bootstrapSession 1000000000).principal.roles,
      .accountsBan ∈ permissionsForRole role := by
    decide
  have hkeys : r.sessions.keys = {(Uuid.fill 11).format} := by decide +kernel
  clear_value r
  have hgood := (authenticate_iff_live hr htoken .accountsBan hnow
    (b := { Backend.fixture with sessions := r.sessions }) rfl).1
      (bootstrapSession 1000000000).principal
  exact ⟨hkeys, (bootstrapSession 1000000000).principal,
    hgood.mpr ⟨bootstrapSession 1000000000, hlive, by decide, hgrants, rfl⟩⟩

end HelbreathBackend.AdminApi
