import HelbreathBackend.AuthService

/-!
Bans, and what keeps an account out.

A moderation is a row among the sanctions, a block is the status of the account, and logins look
at the status alone. So through any history an account is kept out by its standing, which is what
the blocks and unblocks that were carried out have made it.
-/

namespace HelbreathBackend.AdminApi

open HelbreathBackend.Lib HelbreathBackend.Domain HelbreathBackend.Infrastructure
open HelbreathBackend.Auth (Attempt)

/-! ### Histories -/

inductive Moderation
  | mute
  | jail
  | ban
  deriving DecidableEq

inductive AdminOperation
  | login (req : AdminLoginRequest)
  | moderate (action : Moderation) (req : ModerationActionRequest)
  | block (accountId : AccountId)
  | unblock (accountId : AccountId)

def AdminOperation.handler (auth : Option HeaderValue) : AdminOperation → Api Json
  | login req => adminLogin req
  | moderate .mute req => moderationMute auth req
  | moderate .jail req => moderationJail auth req
  | moderate .ban req => moderationBan auth req
  | block accountId => blockAccount auth accountId
  | unblock accountId => unblockAccount auth accountId

/-- An operation with all that comes with it. -/
structure AdminCall where
  operation : AdminOperation
  auth : Option HeaderValue
  outside : Outside
  dbFates : List DbFate

def AdminCall.run (c : AdminCall) (b : Backend) : Except Failure Json × Backend :=
  c.operation.handler c.auth c.outside { b with dbFates := c.dbFates }

/-- What happens to the database of the two services: administration, a tick of the jobs runner, a
login. -/
inductive Event
  | admin (c : AdminCall)
  | tick (now : Time)
  | login (t : Attempt)

def Event.run (b : Backend) : Event → Backend
  | admin c => (c.run b).2
  | tick now => { b with db := (b.db.runTick now).2 }
  | login t => { b with db := (t.run b.db).2 }

def runEvents (b : Backend) (history : List Event) : Backend := history.foldl Event.run b

/-- A ban that names the account has been accepted, and does not end before `now`. -/
def Banned (b : Backend) (history : List Event) (accountId : AccountId) (now : Time) : Prop :=
  ∃ pre c req post endsAt, history = pre ++ .admin c :: post ∧ c.operation = .moderate .ban req ∧
    req.accountId = some accountId ∧ (c.run (runEvents b pre)).1.isOk = true ∧
    sanctionEnd c.outside req.minutes = some endsAt ∧ ∀ time ∈ endsAt, now ≤ time

/-- Every login to an account with such a ban is refused. -/
def KeepsOut (b : Backend) (history : List Event) : Prop :=
  ∀ pre t, pre ++ [.login t] <+: history → ∀ a ∈ b.db.accounts.rows, a.username = t.username →
    Banned b pre a.id t.surroundings.now → t.Refused (runEvents b pre).db

/-! ### The standing of an account -/

/-- The caller may ban accounts, and the statement arrives. -/
def AdminCall.CarriesOut (c : AdminCall) (b : Backend) : Prop :=
  (authenticate c.auth .accountsBan c.outside { b with dbFates := c.dbFates }).1.isOk = true ∧
    c.dbFates.headD .fine ≠ .failed

instance (c : AdminCall) (b : Backend) : Decidable (c.CarriesOut b) := by
  unfold AdminCall.CarriesOut
  infer_instance

/-- The status that an operation gives an account. -/
def AdminOperation.sets (accountId : AccountId) : AdminOperation → Option AccountStatus
  | block id => if id = accountId then some .banned else none
  | unblock id => if id = accountId then some .active else none
  | _ => none

/-- The status that an event gives an account. -/
def Event.sets (b : Backend) (accountId : AccountId) : Event → Option AccountStatus
  | admin c => if c.CarriesOut b then c.operation.sets accountId else none
  | _ => none

/-- The status of an account after a history, by the blocks and unblocks in it. -/
def standing (accountId : AccountId) : Backend → AccountStatus → List Event → AccountStatus
  | _, status, [] => status
  | b, status, e :: history =>
    standing accountId (e.run b) ((e.sets b accountId).getD status) history

/-! ### What an event does to the accounts -/

/-- The accounts are the same. -/
def SameAccounts (b b' : Backend) : Prop := b'.db.accounts = b.db.accounts

lemma sameAccounts_refl (b : Backend) : SameAccounts b b := rfl

lemma sameAccounts_bind {α β ε : Type} {h : Handler Outside Backend ε α}
    {k : α → Handler Outside Backend ε β} (hh : Handler.Keeps SameAccounts h)
    (hk : ∀ a, Handler.Keeps SameAccounts (k a)) : Handler.Keeps SameAccounts (h >>= k) :=
  hh.bind (fun _ _ _ h h' => Eq.trans h' h) hk

lemma sameAccounts_authenticate (auth : Option HeaderValue) (permission : Permission) :
    Handler.Keeps SameAccounts (authenticate auth permission) := by
  intro o b
  obtain ⟨s, hs⟩ := authenticate_sessions auth permission o b
  rw [hs]
  rfl

lemma sameAccounts_query {α : Type} (f : Database → α) : Handler.Keeps SameAccounts (query f) :=
  keeps_query sameAccounts_refl f

lemma sameAccounts_createSanction (input : CreateSanctionInput) :
    Handler.Keeps SameAccounts (createSanction input) := by
  refine sameAccounts_bind (Handler.keeps_given sameAccounts_refl) fun o => ?_
  refine keeps_statement (fun _ => rfl) fun b a db hrun => ?_
  obtain ⟨_, _, -, -, rfl⟩ := Database.of_createSanction (of_map_answer hrun).2
  rfl

lemma sameAccounts_audit (principal : AdminPrincipal) (actionType targetType target : String)
    (payload : Json) :
    Handler.Keeps SameAccounts
      (auditAction principal actionType targetType target payload none) := by
  intro o b
  obtain ⟨logs, fates, hrun⟩ :=
    auditAction_run principal actionType targetType target payload none o b
  rw [hrun]
  rfl

lemma sameAccounts_moderationAction (auth : Option HeaderValue) (req : ModerationActionRequest)
    (action : String) : Handler.Keeps SameAccounts (moderationAction auth req action) := by
  refine sameAccounts_bind (sameAccounts_authenticate _ _) fun principal => ?_
  split
  · exact Handler.keeps_fail sameAccounts_refl _
  · refine sameAccounts_bind (Handler.keeps_given sameAccounts_refl) fun o => ?_
    refine sameAccounts_bind (Handler.keeps_ofOption sameAccounts_refl _ _) fun endsAt => ?_
    refine sameAccounts_bind ((sameAccounts_createSanction _).mapError _) fun _ => ?_
    exact sameAccounts_bind (sameAccounts_audit _ _ _ _ _) fun _ =>
      Handler.keeps_pure sameAccounts_refl _

lemma sameAccounts_adminLogin (req : AdminLoginRequest) :
    Handler.Keeps SameAccounts (adminLogin req) := by
  unfold adminLogin
  split
  · exact Handler.keeps_fail sameAccounts_refl _
  · refine sameAccounts_bind (Handler.keeps_given sameAccounts_refl) fun o => ?_
    refine sameAccounts_bind (.mapError ?_ _) fun record => ?_
    · refine sameAccounts_bind (sameAccounts_query _) fun row => ?_
      split
      · exact Handler.keeps_pure sameAccounts_refl _
      · exact sameAccounts_bind (sameAccounts_query _) fun _ =>
          Handler.keeps_pure sameAccounts_refl _
    · refine sameAccounts_bind (Handler.keeps_ofExcept sameAccounts_refl _) fun principal => ?_
      refine sameAccounts_bind (Handler.keeps_ofOption sameAccounts_refl _ _) fun expiresAt => ?_
      exact sameAccounts_bind (Handler.keeps_change fun b => rfl) fun _ =>
        Handler.keeps_pure sameAccounts_refl _

/-- What `block_account` and `unblock_account` do to the accounts. -/
lemma accounts_changeAccountStatus (auth : Option HeaderValue) (id : AccountId)
    (status : AccountStatus) (actionType : String) (o : Outside) (b : Backend) :
    (changeAccountStatus auth id status actionType o b).2.db.accounts =
      if (authenticate auth .accountsBan o b).1.isOk = true ∧ b.dbFates.headD .fine ≠ .failed then
        (b.db.setAccountStatus id status).accounts
      else b.db.accounts := by
  unfold changeAccountStatus
  obtain ⟨s, hs⟩ := authenticate_sessions auth .accountsBan o b
  rcases hauth : authenticate auth .accountsBan o b with ⟨e | principal, b'⟩
  all_goals obtain rfl : b' = { b with sessions := s } := by rw [← hs, hauth]
  · rw [Handler.bind_of_error hauth, if_neg fun h => absurd h.1 Bool.false_ne_true]
  · have hset : setAccountStatus id status o { b with sessions := s } =
        match b.dbFates.headD .fine with
        | .fine => (.ok (), { b with
            db := b.db.setAccountStatus id status, dbFates := b.dbFates.tail, sessions := s })
        | .failed => (.error (.database .unavailable),
            { b with dbFates := b.dbFates.tail, sessions := s })
        | .lost => (.error (.database .unavailable), { b with
            db := b.db.setAccountStatus id status, dbFates := b.dbFates.tail, sessions := s }) := by
      unfold setAccountStatus statement
      cases b.dbFates.headD .fine <;> rfl
    rw [Handler.bind_of_ok hauth]
    cases hfate : b.dbFates.headD .fine <;> rw [hfate] at hset
    · rw [Handler.bind_of_ok (orDbError_of_ok hset), if_pos ⟨rfl, nofun⟩]
      exact (sameAccounts_bind (sameAccounts_audit _ _ _ _ _) fun _ =>
        Handler.keeps_pure sameAccounts_refl _) o _
    · obtain ⟨err, herr⟩ := orDbError_of_error hset
      rw [Handler.bind_of_error herr, if_neg fun h => h.2 rfl]
    · obtain ⟨err, herr⟩ := orDbError_of_error hset
      rw [Handler.bind_of_error herr, if_pos ⟨rfl, nofun⟩]

/-- **Moderations**: one that is accepted has left a row among the sanctions, active until its
end. -/
theorem exists_row_of_moderationAction {auth : Option HeaderValue} {req : ModerationActionRequest}
    {action : String} {o : Outside} {b b' : Backend} {r : Json}
    (haction : varchar 32 action = .ok action)
    (h : moderationAction auth req action o b = (.ok r, b')) :
    ∃ row ∈ b'.db.sanctions.rows, row.accountId = req.accountId ∧ row.sanctionType = action ∧
      row.status = "active" ∧ sanctionEnd o req.minutes = some row.endsAt := by
  obtain ⟨principal, b₁, -, hrest⟩ := Handler.bind_eq_ok_iff.mp h
  split at hrest
  · exact absurd hrest Handler.fail_ne_ok
  obtain ⟨o', b₂, ho, hrest⟩ := Handler.bind_eq_ok_iff.mp hrest
  obtain ⟨rfl, rfl⟩ := Handler.given_eq_ok_iff.mp ho
  obtain ⟨endsAt, b₃, hofOption, hrest⟩ := Handler.bind_eq_ok_iff.mp hrest
  obtain ⟨hend, rfl⟩ := Handler.ofOption_eq_ok_iff.mp hofOption
  obtain ⟨_, b₄, hcreate, hrest⟩ := Handler.bind_eq_ok_iff.mp hrest
  -- the row that is inserted
  obtain ⟨o', b₅, ho, hcreate⟩ := Handler.bind_eq_ok_iff.mp (Handler.mapError_eq_ok_iff.mp hcreate)
  obtain ⟨rfl, rfl⟩ := Handler.given_eq_ok_iff.mp ho
  obtain ⟨-, db, hinsert, rfl⟩ := statement_eq_ok_iff.mp hcreate
  obtain ⟨row, sanctions, hrow, hins, rfl⟩ :=
    Database.of_createSanction (of_map_answer hinsert).2
  obtain rfl : row = ⟨o.sanctionId, req.accountId, req.characterId, action, req.reason, o.now,
      endsAt, some principal.adminUserId, "active", o.now⟩ :=
    Database.eq_of_sanctionRow haction hrow
  -- which the rest leaves there
  obtain ⟨_, b₆, haudit, hrest⟩ := Handler.bind_eq_ok_iff.mp hrest
  obtain ⟨logs, fates, hrun⟩ := auditAction_run principal s!"moderation.{action}" "moderation"
    (moderationTarget req) (.obj [("reason", .str req.reason),
      ("minutes", (req.minutes.map fun m => Json.num m.toInt).getD .null),
      ("scope", .str req.scope)]) none o
    { b₁ with db := { b₁.db with sanctions := sanctions }, dbFates := b₁.dbFates.tail }
  cases haudit.symm.trans hrun
  obtain ⟨-, rfl⟩ := Handler.pure_eq_ok_iff.mp hrest
  refine ⟨⟨o.sanctionId, req.accountId, req.characterId, action, req.reason, o.now, endsAt,
    some principal.adminUserId, "active", o.now⟩, ?_, rfl, rfl, rfl, hend⟩
  show _ ∈ sanctions.rows
  rw [(Table.insert_eq_some_iff.mp hins).2]
  exact List.mem_append_right _ (List.mem_singleton_self _)

/-! ### Runs -/

lemma accountStatusOf_code (status : AccountStatus) :
    Database.accountStatusOf (Database.AccountStatus.code status) = status := by
  cases status <;> rfl

/-- What becomes of an account: only its status changes, to what the event sets. -/
structure Becomes (a a' : AccountRow) (status : AccountStatus) : Prop where
  id : a'.id = a.id
  username : a'.username = a.username
  passwordHash : a'.passwordHash = a.passwordHash
  status : Database.accountStatusOf a'.status = status

variable {b : Backend} {a : AccountRow}

lemma exists_becomes_same {b' : Backend} (ha : a ∈ b.db.accounts.rows) (h : SameAccounts b b') :
    ∃ a' ∈ b'.db.accounts.rows, Becomes a a' (Database.accountStatusOf a.status) :=
  ⟨a, by rwa [h], rfl, rfl, rfl, rfl⟩

lemma exists_becomes_set (ha : a ∈ b.db.accounts.rows) (id : AccountId) (status : AccountStatus) :
    ∃ a' ∈ (b.db.setAccountStatus id status).accounts.rows,
      Becomes a a' (if id = a.id then status else Database.accountStatusOf a.status) := by
  refine ⟨_, List.mem_map_of_mem ha, ?_⟩
  by_cases hid : id = a.id
  · rw [if_pos (beq_iff_eq.mpr hid.symm), if_pos hid]
    exact ⟨rfl, rfl, rfl, accountStatusOf_code status⟩
  · rw [if_neg fun h => hid (beq_iff_eq.mp h).symm, if_neg hid]
    exact ⟨rfl, rfl, rfl, rfl⟩

/-- `block_account` and `unblock_account`. -/
lemma exists_becomes_changeAccountStatus (auth : Option HeaderValue) (id : AccountId)
    (status : AccountStatus) (actionType : String) (o : Outside) (ha : a ∈ b.db.accounts.rows) :
    ∃ a' ∈ (changeAccountStatus auth id status actionType o b).2.db.accounts.rows, Becomes a a'
      ((if (authenticate auth .accountsBan o b).1.isOk = true ∧ b.dbFates.headD .fine ≠ .failed then
          if id = a.id then some status else none
        else none).getD (Database.accountStatusOf a.status)) := by
  rw [accounts_changeAccountStatus]
  split
  · rw [apply_ite (fun s => Option.getD s (Database.accountStatusOf a.status))]
    exact exists_becomes_set ha id status
  · exact ⟨a, ha, rfl, rfl, rfl, rfl⟩

/-- **One event**: it leaves every account as it sets it. -/
theorem exists_becomes_event (e : Event) (ha : a ∈ b.db.accounts.rows) :
    ∃ a' ∈ (e.run b).db.accounts.rows,
      Becomes a a' ((e.sets b a.id).getD (Database.accountStatusOf a.status)) := by
  cases e with
  | tick now => exact exists_becomes_same ha rfl
  | login t =>
    obtain ⟨sessions, hs⟩ := Auth.others_run t b.db
    refine exists_becomes_same ha ?_
    show (t.run b.db).2.accounts = _
    rw [hs]
  | admin c =>
    obtain ⟨operation, auth, o, dbFates⟩ := c
    cases operation with
    | login req =>
      simp only [Event.run, AdminCall.run, AdminOperation.handler, Event.sets, AdminOperation.sets,
        ite_self]
      have hsame := sameAccounts_adminLogin req o { b with dbFates := dbFates }
      exact exists_becomes_same ha hsame
    | moderate action req =>
      simp only [Event.run, AdminCall.run, Event.sets, AdminOperation.sets, ite_self]
      have hsame (text : String) :=
        sameAccounts_moderationAction auth req text o { b with dbFates := dbFates }
      cases action with
      | mute => exact exists_becomes_same ha (hsame "mute")
      | jail => exact exists_becomes_same ha (hsame "jail")
      | ban => exact exists_becomes_same ha (hsame "ban")
    | block id =>
      exact exists_becomes_changeAccountStatus (b := { b with dbFates := dbFates }) auth id .banned
        "accounts.block" o ha
    | unblock id =>
      exact exists_becomes_changeAccountStatus (b := { b with dbFates := dbFates }) auth id .active
        "accounts.unblock" o ha

/-- **A history**: it leaves every account with its standing. -/
theorem exists_becomes_run (history : List Event) (ha : a ∈ b.db.accounts.rows) :
    ∃ a' ∈ (runEvents b history).db.accounts.rows,
      Becomes a a' (standing a.id b (Database.accountStatusOf a.status) history) := by
  induction history generalizing b a with
  | nil => exact ⟨a, ha, rfl, rfl, rfl, rfl⟩
  | cons e history ih =>
    obtain ⟨a₁, ha₁, hid, hname, hhash, hstatus⟩ := exists_becomes_event e ha
    obtain ⟨a', ha', hbecomes⟩ := ih ha₁
    rw [hid, hstatus] at hbecomes
    exact ⟨a', ha', hbecomes.id.trans hid, hbecomes.username.trans hname,
      hbecomes.passwordHash.trans hhash, hbecomes.status⟩

/-! ### What keeps an account out -/

/-- **Bans**: in a history, bans keep the accounts they name out exactly when at each login to a
banned account its standing does, or the password. -/
theorem keepsOut_iff (b : Backend) (history : List Event) :
    KeepsOut b history ↔
      ∀ pre t, pre ++ [.login t] <+: history → ∀ a ∈ b.db.accounts.rows, a.username = t.username →
        Banned b pre a.id t.surroundings.now →
          standing a.id b (Database.accountStatusOf a.status) pre ≠ .active ∨ t.Mismatch a := by
  refine forall₃_congr fun pre t _ => forall₄_congr fun a ha hname _ => ?_
  obtain ⟨a', ha', hid, hname', hhash, hstatus⟩ := exists_becomes_run pre ha
  rw [Auth.refused_iff ha' (hname'.trans hname), hstatus, Attempt.Mismatch, Attempt.Mismatch,
    hname', hhash]

/-- The account is banned for good, and logs in. -/
theorem banned_logs_in :
    let b : Backend := { Backend.fixture with
      sessions := (∅ : FMap String AdminSession).insert "token"
        ⟨⟨.fill 20, "gm@localhost", [.gm]⟩, 100⟩ }
    let ban : AdminCall := ⟨.moderate .ban ⟨"account", some (.fill 1), none, "cheating", none⟩,
      some (.text "Bearer token"), .fixture, []⟩
    let login : Attempt := ⟨⟨3600, "gateway-1"⟩, ⟨1, fun t s => some (t + 1000000 * s), some,
      fun _ _ => .ok false⟩, .fill 2, "smoke", "testpass", "10.0.0.1"⟩
    ¬ KeepsOut b [.admin ban, .login login] := by
  intro b ban login h
  have hbanned : Banned b [.admin ban] (.fill 1) 1 :=
    ⟨[], ban, _, [], none, rfl, rfl, rfl, by decide +kernel, rfl, nofun⟩
  obtain ⟨⟨outcome, hret, haccepted⟩, -⟩ :=
    h [.admin ban] login (List.prefix_refl _) _ (List.mem_singleton_self _) rfl hbanned
  have hlogin : (login.run (runEvents b [.admin ban]).db).1 = .ok ⟨true, some (.fill 1), none⟩ := by
    decide +kernel
  rw [hlogin] at hret
  cases hret
  cases haccepted

end HelbreathBackend.AdminApi
