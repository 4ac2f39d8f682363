import HelbreathBackend.AdminHandlers

/-!
The authentication service.
-/

namespace HelbreathBackend.Auth

open HelbreathBackend.Lib HelbreathBackend.Domain HelbreathBackend.Infrastructure
open HelbreathBackend.AdminApi (stripPrefix)

structure LoginOutcome where
  accepted : Bool
  accountId : Option AccountId
  reason : Option String
  deriving DecidableEq

structure AuthService where
  sessionTtlSeconds : UInt64
  gatewayNode : String

/-- The clock and the libraries, while one call is handled. -/
structure Surroundings where
  now : Time
  /-- `+ Duration::seconds(..)`, `none` where that panics -/
  plusSeconds : Time → ℤ → Option Time
  /-- `::inet` -/
  inet : String → Option String
  /-- `PasswordHash::new` and `verify_password`: the hash may be malformed -/
  verifyPassword : String → String → Except String Bool

inductive LoginError
  | repo (err : RepoError)
  | message (text : String)
  | panicked
  deriving DecidableEq

def defaultSessionExpiry (o : Surroundings) (seconds : UInt64) : Option Time :=
  o.plusSeconds o.now seconds.toInt64.toInt

/-- Whether a password is that of an account: the prefix is there for fixtures. -/
def passwordOk (o : Surroundings) (username passwordHash password : String) :
    Except LoginError Bool :=
  match stripPrefix passwordHash "plain:" with
  | some plain => .ok (password == plain)
  | none => (o.verifyPassword passwordHash password).mapError fun e =>
      .message s!"invalid stored password hash for user {username}: {e}"

def upsertSession (sessionId : SessionId) (accountId : AccountId) (gatewayNode remoteIp : String)
    (expiresAt : Time) : Handler Surroundings Database LoginError Unit := fun o db =>
  match db.upsertSession o.inet o.now sessionId accountId gatewayNode remoteIp expiresAt with
  | .ok db' => (.ok (), db')
  | .error err => (.error (.repo (.database err)), db)

namespace AuthService

def validateCredentials (svc : AuthService) (sessionId : SessionId)
    (username password remoteIp : String) :
    Handler Surroundings Database LoginError LoginOutcome := do
  let maybeAccount ← Handler.look fun db => db.findAccountForLogin username
  match maybeAccount with
  | none => pure ⟨false, none, some "invalid_credentials"⟩
  | some account =>
    if account.status ≠ .active then pure ⟨false, some account.id, some "account_not_active"⟩
    else do
      let o ← Handler.given
      let ok ← Handler.ofExcept (passwordOk o account.username account.passwordHash password)
      if ¬ ok then pure ⟨false, some account.id, some "invalid_credentials"⟩
      else do
        let expiresAt ← Handler.ofOption .panicked (defaultSessionExpiry o svc.sessionTtlSeconds)
        upsertSession sessionId account.id svc.gatewayNode remoteIp expiresAt
        pure ⟨true, some account.id, none⟩

end AuthService

/-! ### Logins -/

/-- A call of `validate_credentials`. -/
structure Attempt where
  service : AuthService
  surroundings : Surroundings
  sessionId : SessionId
  username : String
  password : String
  remoteIp : String

namespace Attempt

def run (t : Attempt) (db : Database) : Except LoginError LoginOutcome × Database :=
  t.service.validateCredentials t.sessionId t.username t.password t.remoteIp t.surroundings db

/-- The login is answered that it is not accepted, and opens no session. -/
def Refused (t : Attempt) (db : Database) : Prop :=
  (∃ outcome, (t.run db).1 = .ok outcome ∧ outcome.accepted = false) ∧
    (t.run db).2.sessions = db.sessions

/-- The password is not that of the account, whose hash is well formed. -/
def Mismatch (t : Attempt) (a : AccountRow) : Prop :=
  passwordOk t.surroundings a.username a.passwordHash t.password = .ok false

end Attempt

variable {db : Database} {a : AccountRow} {t : Attempt}

lemma findAccountForLogin_of_mem (ha : a ∈ db.accounts.rows) :
    db.findAccountForLogin a.username =
      some ⟨a.id, a.username, a.passwordHash, Database.accountStatusOf a.status⟩ := by
  obtain ⟨r, hfind⟩ : ∃ r, (db.accounts.rows.find? fun r => r.username == a.username) = some r :=
    Option.isSome_iff_exists.mp (List.find?_isSome.mpr ⟨a, ha, beq_self_eq_true _⟩)
  have hname := List.find?_some hfind
  rw [beq_iff_eq] at hname
  have hsymm : ∀ k k', accountClash k k' → accountClash k' k := by
    rintro k k' (h | h | ⟨hs, h⟩)
    · exact .inl h.symm
    · exact .inr (.inl h.symm)
    · exact .inr (.inr ⟨h ▸ hs, h.symm⟩)
  obtain rfl : r = a :=
    Table.eq_of_clash hsymm (List.mem_of_find?_eq_some hfind) ha (.inr (.inl hname))
  rw [Database.findAccountForLogin, hfind]
  rfl

/-- What a login does, statement by statement. -/
lemma run_eq (t : Attempt) (db : Database) :
    t.run db =
      match db.findAccountForLogin t.username with
      | none => (.ok ⟨false, none, some "invalid_credentials"⟩, db)
      | some account =>
        if account.status ≠ .active then
          (.ok ⟨false, some account.id, some "account_not_active"⟩, db)
        else
          match passwordOk t.surroundings account.username account.passwordHash t.password with
          | .error err => (.error err, db)
          | .ok false => (.ok ⟨false, some account.id, some "invalid_credentials"⟩, db)
          | .ok true =>
            match defaultSessionExpiry t.surroundings t.service.sessionTtlSeconds with
            | none => (.error .panicked, db)
            | some expiresAt =>
              match db.upsertSession t.surroundings.inet t.surroundings.now t.sessionId account.id
                t.service.gatewayNode t.remoteIp expiresAt with
              | .ok db' => (.ok ⟨true, some account.id, none⟩, db')
              | .error err => (.error (.repo (.database err)), db) := by
  change (match db.findAccountForLogin t.username with
    | none => _
    | some account => _ : Handler Surroundings Database LoginError LoginOutcome) _ db = _
  rcases db.findAccountForLogin t.username with _ | account
  · rfl
  dsimp only
  split
  · rfl
  change (Handler.ofExcept (passwordOk t.surroundings account.username account.passwordHash
    t.password) >>= _) t.surroundings db = _
  rcases passwordOk t.surroundings account.username account.passwordHash t.password with err | ok
  · rfl
  cases ok with
  | false => rfl
  | true =>
    change (Handler.ofOption LoginError.panicked (defaultSessionExpiry t.surroundings
      t.service.sessionTtlSeconds) >>= _) t.surroundings db = _
    rcases defaultSessionExpiry t.surroundings t.service.sessionTtlSeconds with _ | expiresAt
    · rfl
    change (upsertSession t.sessionId account.id t.service.gatewayNode t.remoteIp expiresAt >>=
      _) t.surroundings db = _
    dsimp only
    rcases hup : db.upsertSession t.surroundings.inet t.surroundings.now t.sessionId account.id
      t.service.gatewayNode t.remoteIp expiresAt with err | db'
    · exact Handler.bind_of_error (by rw [upsertSession, hup])
    · rw [Handler.bind_of_ok (by rw [upsertSession, hup])]
      rfl

/-- **Logins**: what decides is the status of the account, and then the password. -/
theorem refused_iff (ha : a ∈ db.accounts.rows) (hname : a.username = t.username) :
    t.Refused db ↔ Database.accountStatusOf a.status ≠ .active ∨ t.Mismatch a := by
  unfold Attempt.Refused Attempt.Mismatch
  rw [run_eq, ← hname, findAccountForLogin_of_mem ha]
  dsimp only
  by_cases hstatus : Database.accountStatusOf a.status = .active
  swap
  · rw [if_pos hstatus]
    exact iff_of_true ⟨⟨_, rfl, rfl⟩, rfl⟩ (.inl hstatus)
  rw [if_neg (not_not.mpr hstatus), or_iff_right (not_not.mpr hstatus)]
  rcases passwordOk t.surroundings a.username a.passwordHash t.password with err | ok
  · exact iff_of_false (fun ⟨⟨_, h, _⟩, _⟩ => nomatch h) nofun
  cases ok with
  | false => exact iff_of_true ⟨⟨_, rfl, rfl⟩, rfl⟩ rfl
  | true =>
    -- what is left either accepts the login or fails
    refine iff_of_false (fun ⟨⟨outcome, hret, haccepted⟩, _⟩ => ?_) nofun
    dsimp only at hret
    split at hret
    · cases hret
    · split at hret
      · cases hret
        cases haccepted
      · cases hret

/-- A login changes nothing but sessions. -/
lemma others_run (t : Attempt) (db : Database) :
    ∃ sessions, (t.run db).2 = { db with sessions := sessions } := by
  have hsame : ∃ sessions, db = { db with sessions := sessions } := ⟨db.sessions, rfl⟩
  rw [run_eq]
  split
  · exact hsame
  split
  · exact hsame
  split
  · exact hsame
  · exact hsame
  split
  · exact hsame
  split
  · next hup =>
    obtain ⟨_, _, -, -, -, hupserted⟩ := Database.upsertSession_eq_ok_iff.mp hup
    exact hupserted.others
  · exact hsame

end HelbreathBackend.Auth
