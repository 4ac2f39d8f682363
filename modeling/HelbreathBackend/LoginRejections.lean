import HelbreathBackend.LoginPaths

/-!
What a login that is not accepted tells of the account.

A rejection is made of three things: whether there is an account of that name, which one it is, and
whether it is active. The password, its hash and everything else in the row stay out of it.
-/

namespace HelbreathBackend.LoginRejections

open HelbreathBackend.Lib HelbreathBackend.Domain HelbreathBackend.Application
open HelbreathBackend.Infrastructure HelbreathBackend.Infrastructure.Database
open HelbreathBackend.Gateway HelbreathBackend.Auth HelbreathBackend.LoginPaths

/-! ### What a rejection is made of -/

/-- The outcome is that the login is not accepted. -/
def Rejects (t : Attempt) (db : Database) (outcome : LoginOutcome) : Prop :=
  (t.run db).1 = .ok outcome ∧ outcome.accepted = false

/-- The account of that name, and whether it is active. -/
def standing (db : Database) (username : String) : Option (AccountId × Bool) :=
  (db.findAccountForLogin username).map fun a => (a.id, decide (a.status = .active))

/-- There is an account of that name, and it is not active. -/
def barred (db : Database) (username : String) : Bool :=
  (db.findAccountForLogin username).any fun a => a.status != .active

def rejection : Option (AccountId × Bool) → LoginOutcome
  | none => ⟨false, none, some "invalid_credentials"⟩
  | some (accountId, false) => ⟨false, some accountId, some "account_not_active"⟩
  | some (accountId, true) => ⟨false, some accountId, some "invalid_credentials"⟩

variable {t : Attempt} {db db' : Database} {outcome outcome' : LoginOutcome}

lemma standing_of_find {username : String} {account : AccountAuthRecord}
    (h : db.findAccountForLogin username = some account) :
    standing db username = some (account.id, decide (account.status = .active)) := by
  rw [standing, h, Option.map_some]

/-- **Every rejection is that of the standing**, however it has come about. -/
theorem Rejects.eq_rejection (h : Rejects t db outcome) :
    outcome = rejection (standing db t.username) := by
  obtain ⟨hret, hno⟩ := h
  rw [run_eq] at hret
  rcases hfind : db.findAccountForLogin t.username with _ | account
  · rw [hfind] at hret
    cases hret
    rw [standing, hfind]
    rfl
  rw [standing_of_find hfind]
  rw [hfind] at hret
  dsimp only at hret
  by_cases hstatus : account.status = .active
  swap
  · rw [if_pos hstatus] at hret
    cases hret
    rw [decide_eq_false hstatus]
    rfl
  rw [if_neg (not_not.mpr hstatus)] at hret
  rw [decide_eq_true hstatus]
  rcases hok : passwordOk t.surroundings account.username account.passwordHash t.password with
    err | ok
  · rw [hok] at hret
    cases hret
  rw [hok] at hret
  cases ok with
  | false =>
    cases hret
    rfl
  | true =>
    -- the password is right, so what is returned is accepted
    dsimp only at hret
    split at hret
    · cases hret
    · split at hret
      · cases hret
        cases hno
      · cases hret

/-! ### What is answered -/

/-- What `login` makes of what `validate_credentials` returns. -/
def bodyOf : Except LoginError LoginOutcome → Body
  | .ok outcome => .login ⟨outcome.accepted, outcome.accountId, outcome.reason⟩
  | .error (.repo _) => AuthHandlers.refused none ("internal_error:" ++ "database error")
  | .error (.message text) => AuthHandlers.refused none ("internal_error:" ++ text)
  | .error .panicked => .other

lemma passwordOk_eq_error {o : Surroundings} {username passwordHash password : String}
    {err : LoginError} (h : passwordOk o username passwordHash password = .error err) :
    ∃ text, err = .message text := by
  unfold passwordOk at h
  split at h
  · cases h
  · rcases hverify : o.verifyPassword passwordHash password with text | ok
    · rw [hverify] at h
      cases h
      exact ⟨_, rfl⟩
    · rw [hverify] at h
      cases h

/-- Statement by statement, the handler does what the service does. -/
lemma runAlone_validateCredentials (t : Attempt) (newId : CharacterId) (db : Database) :
    (AuthHandlers.validateCredentials t.service t.surroundings t.sessionId t.username t.password
        t.remoteIp).runAlone
      (fun q db => q.run t.surroundings.inet t.surroundings.now newId db) () db =
        (bodyOf (t.run db).1, (), (t.run db).2) := by
  rw [run_eq]
  simp only [AuthHandlers.validateCredentials, AuthHandlers.statement, Lib.Task.request, bind,
    Lib.Task.bind, pure, Lib.Task.runAlone, AuthHandlers.Query.run]
  rcases db.findAccountForLogin t.username with _ | account
  · rfl
  dsimp only
  split
  · rfl
  rcases hok : passwordOk t.surroundings account.username account.passwordHash t.password with
    err | ok
  · obtain ⟨text, rfl⟩ := passwordOk_eq_error hok
    rfl
  cases ok with
  | false => rfl
  | true =>
    dsimp only
    rcases defaultSessionExpiry t.surroundings t.service.sessionTtlSeconds with _ | expiresAt
    · rfl
    simp only [Lib.Task.runAlone]
    rcases db.upsertSession t.surroundings.inet t.surroundings.now t.sessionId account.id
      t.service.gatewayNode t.remoteIp expiresAt with err | db'
    · rfl
    · rfl

/-- What the handler has the service do with a request. -/
def attempt (w : Setting) (req : AuthLoginRequest) : Attempt :=
  ⟨w.svc, w.o, req.sessionId, trim req.username, req.password, req.remoteIp⟩

lemma respond_login (w : Setting) (req : AuthLoginRequest) (db : Database) :
    (w.respond (.authLogin req) db).1 = .response 200
      (if w.limited then AuthHandlers.refused none "rate_limited"
        else bodyOf ((attempt w req).run db).1) := by
  simp only [Setting.respond, AuthHandlers.handlerOf, AuthHandlers.login]
  split
  · rfl
  · exact congrArg (fun r => HttpReply.response 200 r.1)
      (runAlone_validateCredentials (attempt w req) w.newId db)

/-! ### Two databases -/

/-- The databases differ in nothing but the account of that name. -/
structure DiffersOnlyIn (username : String) (db db' : Database) : Prop where
  accounts : db.accounts.rows.filter (fun a => a.username != username) =
    db'.accounts.rows.filter fun a => a.username != username
  others : { db with accounts := db'.accounts } = db'

/-- There is no account of that name in either, or it is the same one. -/
def SameAccount (username : String) (db db' : Database) : Prop :=
  (db.findAccountForLogin username).map (·.id) = (db'.findAccountForLogin username).map (·.id)

lemma barred_eq (db : Database) (username : String) :
    barred db username = (standing db username).any (!·.2) := by
  rw [barred, standing, Option.any_map]
  congr 1

lemma reason_rejection (s : Option (AccountId × Bool)) :
    (rejection s).reason =
      some (if s.any (!·.2) then "account_not_active" else "invalid_credentials") := by
  rcases s with _ | ⟨accountId, _ | _⟩
  · rfl
  · rfl
  · rfl

lemma eq_of_fst_of_any {α : Type} {s s' : Option (α × Bool)}
    (hfst : s.map Prod.fst = s'.map Prod.fst) (hany : s.any (!·.2) = s'.any (!·.2)) : s = s' := by
  rcases s with _ | ⟨a, active⟩
  · exact (Option.map_eq_none_iff.mp hfst.symm).symm
  rcases s' with _ | ⟨a', active'⟩
  · cases hfst
  · obtain rfl : a = a' := Option.some.inj hfst
    obtain rfl : active = active' := Bool.not_inj hany
    rfl

lemma standing_eq_of_same {username : String} (hsame : SameAccount username db db')
    (hbarred : barred db username = barred db' username) :
    standing db username = standing db' username := by
  refine eq_of_fst_of_any ?_ (by rwa [← barred_eq, ← barred_eq])
  rw [standing, standing, Option.map_map, Option.map_map]
  exact hsame

/-- **Logins that fail**: whether the account is active is told, but no more than that: the hash of
the password is not in the answer, nor what makes the account inactive. -/
theorem rejections_alike (h : Rejects t db outcome) (h' : Rejects t db' outcome') :
    (outcome.reason = outcome'.reason ↔ barred db t.username = barred db' t.username) ∧
      (SameAccount t.username db db' → barred db t.username = barred db' t.username →
        outcome = outcome' ∧ ∀ (w : Setting) (req : AuthLoginRequest), attempt w req = t →
          (w.respond (.authLogin req) db).1 = (w.respond (.authLogin req) db').1) := by
  constructor
  · rw [h.eq_rejection, h'.eq_rejection, reason_rejection, reason_rejection, ← barred_eq,
      ← barred_eq, Option.some.injEq]
    cases barred db t.username <;> cases barred db' t.username <;> decide
  · intro hsame hbarred
    have hout : outcome = outcome' := by
      rw [h.eq_rejection, h'.eq_rejection, standing_eq_of_same hsame hbarred]
    refine ⟨hout, fun w req hreq => ?_⟩
    rw [respond_login, respond_login, hreq, h.1, h'.1, hout]

theorem rejections_alike_neo :
    (quiet.respond (.authLogin ⟨.fill 2, "neo", "0ne", "0.0.0.0"⟩) (accountOf "neo" "p4ss")).1 =
      (quiet.respond (.authLogin ⟨.fill 2, "neo", "0ne", "0.0.0.0"⟩) (accountOf "neo" "z10n")).1 :=
  have hp4ss : Rejects (attempt quiet ⟨.fill 2, "neo", "0ne", "0.0.0.0"⟩) (accountOf "neo" "p4ss")
      ⟨false, some (.fill 1), some "invalid_credentials"⟩ := ⟨by decide +kernel, rfl⟩
  have hz10n : Rejects (attempt quiet ⟨.fill 2, "neo", "0ne", "0.0.0.0"⟩) (accountOf "neo" "z10n")
      ⟨false, some (.fill 1), some "invalid_credentials"⟩ := ⟨by decide +kernel, rfl⟩
  ((rejections_alike hp4ss hz10n).2 rfl rfl).2 quiet _ rfl

/-- Once the account is suspended, the wrong password is answered in another way; and an answer
that carries the account is not what a name without an account gets. -/
theorem rejections_differ :
    let req : AuthLoginRequest := ⟨.fill 2, "neo", "0ne", "0.0.0.0"⟩
    let db := accountOf "neo" "p4ss"
    let suspended := db.setAccountStatus (.fill 1) .suspended
    let absent := { db with accounts := ⟨[], .nil⟩ }
    DiffersOnlyIn "neo" db suspended ∧ DiffersOnlyIn "neo" db absent ∧
      Rejects (attempt quiet req) db ⟨false, some (.fill 1), some "invalid_credentials"⟩ ∧
      Rejects (attempt quiet req) suspended ⟨false, some (.fill 1), some "account_not_active"⟩ ∧
      Rejects (attempt quiet req) absent ⟨false, none, some "invalid_credentials"⟩ ∧
      (quiet.respond (.authLogin req) db).1.login.map (·.reason) ≠
        (quiet.respond (.authLogin req) suspended).1.login.map (·.reason) ∧
      (quiet.respond (.authLogin req) db).1.login.map (·.accountId) ≠
        (quiet.respond (.authLogin req) absent).1.login.map (·.accountId) :=
  ⟨⟨by decide +kernel, rfl⟩, ⟨by decide +kernel, rfl⟩, ⟨by decide +kernel, rfl⟩,
    ⟨by decide +kernel, rfl⟩, ⟨by decide +kernel, rfl⟩, by decide +kernel, by decide +kernel⟩

end HelbreathBackend.LoginRejections
