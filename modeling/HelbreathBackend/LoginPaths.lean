import HelbreathBackend.AdminTokens
import HelbreathBackend.AuthHandlers
import HelbreathBackend.ClientFrames

/-!
The two ways to log in.

A client logs in with a frame to the gateway, or with a request to the authentication service. The
gateway posts what it has read from the frame, and there the white space around a password is gone;
the request has it still. The two agree on the passwords that have none.
-/

namespace HelbreathBackend.LoginPaths

open HelbreathBackend.Lib HelbreathBackend.Domain HelbreathBackend.Application
open HelbreathBackend.Infrastructure HelbreathBackend.Frame HelbreathBackend.Translate
open HelbreathBackend.ClientFrames HelbreathBackend.Gateway HelbreathBackend.Auth
open HelbreathBackend.AuthHandlers

/-! ### The frame of a login -/

/-- The command is in the frame with the password as it is. -/
def Unchanged (payload : LoginPayload) : Prop :=
  ∀ parseStr version maxPayload, (commandPayload (.login payload)).length ≤ maxPayload →
    ∃ packet, decodeFrame (commandFrame (.login payload)) maxPayload = .ok packet ∧
      translatePacketForVersion parseStr packet .preAuth version = .ok (.login payload)

/-- What a client may send: only the password is not what the parser would make of it. -/
structure Sendable (payload : LoginPayload) : Prop where
  username : Clean 32 payload.username
  clientVersion : Clean 24 payload.clientVersion
  nonempty : payload.password ≠ ""
  noNul : Char.ofNat 0 ∉ payload.password.toList
  fits : payload.password.utf8ByteSize ≤ 128

lemma utf8ByteSize_trim_le (s : String) : (trim s).utf8ByteSize ≤ s.utf8ByteSize := by
  have hsub : (trim s).toList.Sublist s.toList := by
    rw [toList_trim]
    refine List.Sublist.trans ?_ (List.dropWhile_sublist isWhiteSpace)
    rw [← List.reverse_sublist, List.reverse_reverse]
    exact List.dropWhile_sublist _
  rw [← length_utf8, ← length_utf8]
  exact (hsub.flatMap _).length_le

variable {payload : LoginPayload}

lemma Sendable.length_le (h : Sendable payload) :
    (commandPayload (.login payload)).length ≤ 193 := by
  have hname := h.username.fits
  have hversion := h.clientVersion.fits
  have hpassword := h.fits
  simp only [commandPayload, textz_cons_cons, textz_singleton, List.length_append,
    List.length_cons, List.length_nil, length_utf8]
  omega

/-- The frame of a login is translated to the password without the white space around it, or
refused where nothing is left. -/
lemma translate_login (h : Sendable payload) (parseStr : String → Option Uuid)
    (header : PacketHeader) (hopcode : header.opcode = commandOpcode (.login payload))
    (version : ProtocolVersion) :
    translatePacketForVersion parseStr ⟨header, commandPayload (.login payload)⟩ .preAuth version =
      if trim payload.password = "" then .error (.invalidPayload "text payload is empty")
      else .ok (.login { payload with password := trim payload.password }) := by
  have hparse := parseLoginPayload_textz h.username h.noNul h.clientVersion
  have htrim := utf8ByteSize_trim_le payload.password
  have hpassword := h.fits
  rw [bytesToCleanString_utf8 h.noNul] at hparse
  have hcommand : parseCommand parseStr (OpcodeMatrix.forVersion version) header.opcode
      (commandPayload (.login payload)) =
        (do .ok (.login (← parseLoginPayload (textz [payload.username, payload.password,
          payload.clientVersion]))) : Parse ClientCommand) := by
    rw [hopcode]
    cases version <;> rfl
  by_cases hempty : trim payload.password = ""
  · rw [if_pos hempty] at hparse ⊢
    unfold translatePacketForVersion
    rw [hcommand, hparse]
    rfl
  · rw [if_neg hempty, if_neg (by omega)] at hparse
    rw [if_neg hempty]
    refine translate_of_parse parseStr (by rw [hcommand, hparse]; rfl) rfl ?_
    have hname : trim payload.username ≠ "" := by
      rw [h.username.trim_eq]
      exact h.username.nonempty
    exact if_neg (not_or.mpr ⟨hname, hempty⟩)

lemma decodeFrame_login (h : Sendable payload) {maxPayload : ℕ}
    (hmax : (commandPayload (.login payload)).length ≤ maxPayload) :
    ∃ header, header.opcode = commandOpcode (.login payload) ∧
      decodeFrame (commandFrame (.login payload)) maxPayload =
        .ok ⟨header, commandPayload (.login payload)⟩ :=
  ⟨_, rfl, decodeFrame_commandFrame h.length_le hmax⟩

lemma unchanged_iff (h : Sendable payload) :
    Unchanged payload ↔ trim payload.password = payload.password := by
  constructor
  · intro hunchanged
    obtain ⟨packet, hdecode, htranslate⟩ := hunchanged (fun _ => none) .legacyV382 _ le_rfl
    obtain ⟨header, hopcode, hdecode'⟩ := decodeFrame_login h le_rfl
    rw [hdecode, Except.ok.injEq] at hdecode'
    rw [hdecode', translate_login h _ header hopcode] at htranslate
    split at htranslate
    · cases htranslate
    · rw [Except.ok.injEq, ClientCommand.login.injEq] at htranslate
      exact congrArg LoginPayload.password htranslate
  · intro htrim parseStr version maxPayload hmax
    obtain ⟨header, hopcode, hdecode⟩ := decodeFrame_login h hmax
    refine ⟨_, hdecode, ?_⟩
    rw [translate_login h parseStr header hopcode, htrim, if_neg h.nonempty]

/-! ### The two paths -/

/-- The authentication service, and what the world around it is while a login is handled. -/
structure Setting where
  svc : AuthService
  o : Surroundings
  limited : Bool
  newId : CharacterId

namespace Setting

/-- The reply to a request of the router when nothing else goes on, and the database after it. -/
def respond (w : Setting) (q : BackendRequest) (db : Database) : HttpReply × Database :=
  match handlerOf w.svc w.o w.limited q with
  | none => (.error, db)
  | some task =>
    let (body, _, db') := task.runAlone (fun q db => q.run w.o.inet w.o.now w.newId db) () db
    (.response 200 body, db')

/-- The request to the service itself. -/
def directLogin (w : Setting) (req : AuthLoginRequest) (db : Database) : Bool :=
  (w.respond (.authLogin req) db).1.login.any (·.accepted)

/-- A frame of a session before its login: the sessions of the gateway once the router has done what
the command in it asks for. -/
def gatewayLogin (w : Setting) (parseStr : String → Option Uuid) (packetMaxPayload : ℕ)
    (version : ProtocolVersion) (s : SessionId) (frame : Bytes) (sessions : Gateway.Sessions)
    (db : Database) : Gateway.Sessions :=
  match decodeFrame frame packetMaxPayload with
  | .error _ => sessions
  | .ok packet =>
    match translatePacketForVersion parseStr packet .preAuth version with
    | .error _ => sessions
    | .ok command =>
      ((Router.handle (.routeClientCommand s none command)).runAlone w.respond sessions db).2.1

end Setting

/-- Whether the session has an account. -/
def loggedIn (sessions : Gateway.Sessions) (s : SessionId) : Bool :=
  ((sessions.lookup s).bind (·.accountId)).isSome

/-- Logging in through the gateway succeeds exactly when the request with the same credentials
does. -/
def PathsAgree (payload : LoginPayload) : Prop :=
  ∀ (w : Setting) (parseStr : String → Option Uuid) (packetMaxPayload : ℕ)
    (version : ProtocolVersion) (s : SessionId) (remoteIp : String) (sessions : Gateway.Sessions)
    (db : Database), (commandPayload (.login payload)).length ≤ packetMaxPayload →
    sessions.lookup s = some ⟨remoteIp, none, none, none, false⟩ →
    (loggedIn (w.gatewayLogin parseStr packetMaxPayload version s (commandFrame (.login payload))
        sessions db) s = true ↔
      w.directLogin ⟨s, payload.username, payload.password, remoteIp⟩ db = true)

lemma accountId_of_accepted (svc : AuthService) (o : Surroundings) (limited : Bool)
    (req : AuthLoginRequest) :
    (AuthHandlers.login svc o limited req).Returns fun body =>
      ∀ response, body = .login response → response.accepted = true →
        response.accountId.isSome = true := by
  have hrefused : ∀ accountId reason response, refused accountId reason = .login response →
      response.accepted = true → response.accountId.isSome = true := by
    rintro accountId reason _ ⟨⟩
    exact nofun
  unfold AuthHandlers.login
  split
  · exact hrefused _ _
  intro answer
  cases answer with
  | account account =>
    rcases account with _ | account
    · exact hrefused _ _
    change Task.Returns _ (if account.status ≠ .active then _ else _)
    split
    · exact hrefused _ _
    rcases passwordOk o account.username account.passwordHash req.password with err | ok
    · cases err with
      | message text => exact hrefused _ _
      | _ => exact nofun
    cases ok with
    | false => exact hrefused _ _
    | true =>
      dsimp only
      rcases defaultSessionExpiry o svc.sessionTtlSeconds with _ | expiresAt
      · exact nofun
      · intro upserted
        cases upserted with
        | failed text => exact hrefused _ _
        | _ =>
          rintro _ ⟨⟩ -
          rfl
  | failed text => exact hrefused _ _
  | _ => exact nofun

/-- The reply to a login, and what the router makes of it. -/
lemma runAlone_route (w : Setting) (s : SessionId) (sessions : Gateway.Sessions) (db : Database)
    (payload : LoginPayload) :
    ((Router.handle (.routeClientCommand s none (.login payload))).runAlone w.respond
        sessions db).2.1 =
      match (w.respond (.authLogin ⟨s, payload.username, payload.password,
        ((sessions.lookup s).map (·.remoteIp)).getD "0.0.0.0"⟩) db).1.login with
      | some body =>
        if body.accepted then
          FMap.modify sessions s fun e =>
            { e with
              accountId := body.accountId, characterId := none, mapId := none, inWorld := false }
        else sessions
      | none => sessions := by
  change (Task.runAlone w.respond (match (w.respond (.authLogin ⟨s, payload.username,
      payload.password, ((sessions.lookup s).map (·.remoteIp)).getD "0.0.0.0"⟩) db).1.login with
    | some body =>
      if body.accepted then
        Router.updateSession s fun e =>
          { e with
            accountId := body.accountId, characterId := none, mapId := none, inWorld := false }
      else pure ()
    | none => pure ()) sessions _).2.1 = _
  split
  · split
    · rfl
    · rfl
  · rfl

lemma login_response_eq_some_iff {body : Body} {response : AuthLoginResponse} :
    (HttpReply.response 200 body).login = some response ↔ body = .login response := by
  cases body with
  | login response' =>
    change some response' = some response ↔ _
    rw [Option.some.injEq, Body.login.injEq]
  | _ => exact iff_of_false nofun nofun

lemma loggedIn_route (w : Setting) {s : SessionId} {remoteIp : String}
    {sessions : Gateway.Sessions} (db : Database)
    (hs : sessions.lookup s = some ⟨remoteIp, none, none, none, false⟩) (payload : LoginPayload) :
    loggedIn ((Router.handle (.routeClientCommand s none (.login payload))).runAlone w.respond
        sessions db).2.1 s =
      w.directLogin ⟨s, payload.username, payload.password, remoteIp⟩ db := by
  have hout : loggedIn sessions s = false := by rw [loggedIn, hs]; rfl
  rw [runAlone_route, hs, Option.map_some, Option.getD_some, Setting.directLogin]
  rcases hlogin : (w.respond (.authLogin ⟨s, payload.username, payload.password, remoteIp⟩)
    db).1.login with _ | body
  · exact hout
  dsimp only
  cases haccepted : body.accepted with
  | false =>
    rw [if_neg (by decide), hout]
    exact haccepted.symm
  | true =>
    have hreturns := Lib.Task.Returns.runAlone (fun q db => q.run w.o.inet w.o.now w.newId db)
      (accountId_of_accepted w.svc w.o w.limited
        ⟨s, payload.username, payload.password, remoteIp⟩) () db
    have hsome := hreturns body (login_response_eq_some_iff.mp hlogin) haccepted
    rw [if_pos rfl, loggedIn, FMap.lookup_modify, if_pos rfl, hs]
    exact hsome.trans haccepted.symm

/-- A stored password that is not hashed, for the account of the login. -/
def accountOf (username password : String) : Database :=
  { Database.fixture with
    accounts := ⟨[⟨Uuid.fill 1, username, none, "plain:" ++ password, "active"⟩],
      List.pairwise_singleton _ _⟩ }

/-- A service that is up. -/
def quiet : Setting where
  svc := ⟨60, "gateway"⟩
  o := ⟨0, fun t s => some (t + s), some, fun _ _ => .ok false⟩
  limited := false
  newId := Uuid.fill 9

/-- The service takes that password, and no other. -/
lemma directLogin_accountOf {username : String} (hname : trim username = username)
    (s : SessionId) (given password remoteIp : String) :
    quiet.directLogin ⟨s, username, given, remoteIp⟩ (accountOf username password) =
      (given == password) := by
  have hfind : (accountOf username password).findAccountForLogin (trim username) =
      some ⟨Uuid.fill 1, username, "plain:" ++ password, .active⟩ := by
    rw [hname, Database.findAccountForLogin]
    have hrow : (accountOf username password).accounts.rows.find? (fun a => a.username == username)
        = some ⟨Uuid.fill 1, username, none, "plain:" ++ password, "active"⟩ :=
      List.find?_cons_of_pos (beq_self_eq_true username)
    rw [hrow]
    rfl
  have hok : passwordOk quiet.o username ("plain:" ++ password) given =
      .ok (given == password) := by
    rw [passwordOk, AdminApi.stripPrefix_eq_some_iff.mpr rfl]
  have hreply : (quiet.respond (.authLogin ⟨s, username, given, remoteIp⟩)
      (accountOf username password)).1 = .response 200
        (if given == password then .login ⟨true, some (Uuid.fill 1), none⟩
          else refused (some (Uuid.fill 1)) "invalid_credentials") := by
    simp only [Setting.respond, handlerOf, AuthHandlers.login, AuthHandlers.validateCredentials,
      statement, Lib.Task.request, bind, Lib.Task.bind, pure]
    rw [if_neg (show ¬ quiet.limited = true by decide)]
    simp only [Lib.Task.runAlone, Query.run, hfind]
    rw [if_neg (not_not.mpr rfl), hok]
    cases given == password with
    | false => rfl
    | true => rfl
  rw [Setting.directLogin, hreply]
  cases given == password with
  | false => rfl
  | true => rfl

lemma loggedIn_gatewayLogin (h : Sendable payload) (w : Setting)
    (parseStr : String → Option Uuid) {packetMaxPayload : ℕ} (version : ProtocolVersion)
    {s : SessionId} {remoteIp : String} {sessions : Gateway.Sessions} (db : Database)
    (hmax : (commandPayload (.login payload)).length ≤ packetMaxPayload)
    (hs : sessions.lookup s = some ⟨remoteIp, none, none, none, false⟩) :
    loggedIn (w.gatewayLogin parseStr packetMaxPayload version s (commandFrame (.login payload))
      sessions db) s =
        if trim payload.password = "" then false
        else w.directLogin ⟨s, payload.username, trim payload.password, remoteIp⟩ db := by
  obtain ⟨header, hopcode, hdecode⟩ := decodeFrame_login h hmax
  unfold Setting.gatewayLogin
  rw [hdecode]
  dsimp only
  rw [translate_login h parseStr header hopcode]
  by_cases hempty : trim payload.password = ""
  · rw [if_pos hempty, if_pos hempty, loggedIn, hs]
    rfl
  · rw [if_neg hempty, if_neg hempty]
    exact loggedIn_route w db hs _

lemma pathsAgree_iff (h : Sendable payload) :
    PathsAgree payload ↔ trim payload.password = payload.password := by
  constructor
  · intro hagree
    -- the account has the password that was sent
    have hs : ((∅ : Gateway.Sessions).insert (Uuid.fill 2)
        ⟨"0.0.0.0", none, none, none, false⟩).lookup (Uuid.fill 2) =
          some ⟨"0.0.0.0", none, none, none, false⟩ := by
      rw [FMap.lookup_insert_eq, if_pos rfl]
    have hiff := hagree quiet (fun _ => none) _ .legacyV382 (Uuid.fill 2) "0.0.0.0" _
      (accountOf payload.username payload.password) le_rfl hs
    rw [loggedIn_gatewayLogin h _ _ _ _ le_rfl hs,
      directLogin_accountOf h.username.trim_eq, directLogin_accountOf h.username.trim_eq,
      beq_self_eq_true, iff_true_right rfl] at hiff
    split at hiff
    · cases hiff
    · exact beq_iff_eq.mp hiff
  · intro htrim w parseStr packetMaxPayload version s remoteIp sessions db hmax hs
    rw [loggedIn_gatewayLogin h w parseStr version db hmax hs, htrim, if_neg h.nonempty]

/-- **Passwords on their way to authentication**: a password arrives as it was sent, and the two
paths agree on it, exactly when there is no white space around it. -/
theorem password_unchanged_iff (h : Sendable payload) :
    (Unchanged payload ↔ trim payload.password = payload.password) ∧
      (PathsAgree payload ↔ trim payload.password = payload.password) :=
  ⟨unchanged_iff h, pathsAgree_iff h⟩

lemma sendable_neo {password : String} (hne : password ≠ "")
    (hnul : Char.ofNat 0 ∉ password.toList) (hfits : password.utf8ByteSize ≤ 128) :
    Sendable ⟨"neo", password, "4.96"⟩ := by
  have hname : Clean 32 "neo" := clean_of_ends rfl rfl (by decide) (by decide) (by decide)
  have hversion : Clean 24 "4.96" := clean_of_ends rfl rfl (by decide) (by decide) (by decide)
  exact ⟨hname, hversion, hne, hnul, hfits⟩

theorem password_unchanged_p4ss :
    Unchanged ⟨"neo", "p4ss", "4.96"⟩ ∧ PathsAgree ⟨"neo", "p4ss", "4.96"⟩ :=
  have hsend : Sendable ⟨"neo", "p4ss", "4.96"⟩ :=
    sendable_neo (by decide) (by decide) (by decide)
  ⟨(password_unchanged_iff hsend).1.mpr (by decide),
    (password_unchanged_iff hsend).2.mpr (by decide)⟩

/-- A password with a blank in front of it is another one behind the gateway. -/
theorem password_blank_lost :
    Sendable ⟨"neo", " p4ss", "4.96"⟩ ∧ ¬ Unchanged ⟨"neo", " p4ss", "4.96"⟩ ∧
      ¬ PathsAgree ⟨"neo", " p4ss", "4.96"⟩ := by
  have hsend : Sendable ⟨"neo", " p4ss", "4.96"⟩ :=
    sendable_neo (by decide) (by decide) (by decide)
  have htrim : trim " p4ss" ≠ " p4ss" := by decide
  exact ⟨hsend, fun h => htrim ((unchanged_iff hsend).mp h),
    fun h => htrim ((pathsAgree_iff hsend).mp h)⟩

end HelbreathBackend.LoginPaths
