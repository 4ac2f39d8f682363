import HelbreathBackend.AdminHandlers

/-!
Who can log in as an administrator.

The stored administrators are looked up by the exact email, among the active ones; the bootstrap
credential is compared ignoring the case of letters, and only after that lookup has found nobody.
-/

namespace HelbreathBackend.AdminApi

open HelbreathBackend.Lib HelbreathBackend.Domain HelbreathBackend.Infrastructure
open HelbreathBackend.Application (trim)

variable {o : Outside} {b : Backend} {req : AdminLoginRequest}

/-- The row `find_admin_for_login` looks for. -/
def adminRow (db : Database) (email : String) : Option AdminUserRow :=
  db.adminUsers.rows.find? fun u => u.email == email && u.status == "active"

/-- The request is the bootstrap credential. -/
def MatchesBootstrap (settings : Settings) (req : AdminLoginRequest) : Prop :=
  eqIgnoreAsciiCase (trim req.email) settings.bootstrapAdminEmail = true ∧
    req.password = settings.bootstrapAdminPassword

lemma loginPrincipal_eq_ok_iff {record : Option AdminAuthRecord} {p : AdminPrincipal} :
    loginPrincipal o req record = .ok p ↔
      (∃ r, record = some r ∧ o.verifyPassword r.passwordHash req.password = .ok true ∧
          p = ⟨r.id, r.email, r.roles⟩) ∨
        (record = none ∧ MatchesBootstrap o.settings req ∧
          p = ⟨o.principalId, req.email, [.superAdmin]⟩) := by
  cases record with
  | none =>
    simp only [loginPrincipal, MatchesBootstrap, reduceCtorEq, false_and, exists_false, false_or,
      true_and, Bool.and_eq_true, beq_iff_eq]
    split
    · next h => simp [h, eq_comm]
    · next h => simp [h]
  | some r =>
    simp only [loginPrincipal, Option.some.injEq, exists_eq_left', reduceCtorEq, false_and,
      or_false]
    rcases o.verifyPassword r.passwordHash req.password with e | _ | _ <;> simp [eq_comm]

lemma findAdminForLogin_eq_ok_iff {email : String} {record : Option AdminAuthRecord}
    {b' : Backend} :
    (findAdminForLogin email) o b = (.ok record, b') ↔
      b.dbFates.headD .fine = .fine ∧
        ((adminRow b.db email = none ∧ record = none ∧
            b' = { b with dbFates := b.dbFates.tail }) ∨
          ∃ u, adminRow b.db email = some u ∧ b.dbFates.tail.headD .fine = .fine ∧
            record = some ⟨u.id, u.email, u.passwordHash, rolesOf b.db u.id⟩ ∧
            b' = { b with dbFates := b.dbFates.tail.tail }) := by
  rw [findAdminForLogin, Handler.bind_eq_ok_iff]
  simp only [query_eq_ok_iff]
  constructor
  · rintro ⟨row, b₁, ⟨hfate, hrow, rfl⟩, hrest⟩
    refine ⟨hfate, ?_⟩
    cases row with
    | none =>
      obtain ⟨rfl, rfl⟩ := Handler.pure_eq_ok_iff.mp hrest
      exact .inl ⟨hrow, rfl, rfl⟩
    | some u =>
      obtain ⟨roles, b₂, hroles, hret⟩ := Handler.bind_eq_ok_iff.mp hrest
      obtain ⟨hfate', rfl, rfl⟩ := query_eq_ok_iff.mp hroles
      obtain ⟨rfl, rfl⟩ := Handler.pure_eq_ok_iff.mp hret
      exact .inr ⟨u, hrow, hfate', rfl, rfl⟩
  · rintro ⟨hfate, ⟨hrow, rfl, rfl⟩ | ⟨u, hrow, hfate', rfl, rfl⟩⟩
    · exact ⟨none, _, ⟨hfate, hrow, rfl⟩, rfl⟩
    · refine ⟨some u, _, ⟨hfate, hrow, rfl⟩, Handler.bind_eq_ok_iff.mpr ⟨_, _, ?_, rfl⟩⟩
      exact query_eq_ok_iff.mpr ⟨hfate', rfl, rfl⟩

/-- What a login that succeeds does: it opens a session for its principal. -/
lemma adminLogin_eq_ok_iff {r : Json} {b' : Backend} :
    adminLogin req o b = (.ok r, b') ↔
      ¬ (trim req.email = "" ∨ req.password = "") ∧
        ∃ record b₁ principal expiresAt,
          findAdminForLogin (trim req.email) o b = (.ok record, b₁) ∧
          loginPrincipal o req record = .ok principal ∧ newExpiry o = some expiresAt ∧
          b' = { b₁ with sessions := b₁.sessions.insert o.token.format ⟨principal, expiresAt⟩ } ∧
          r = .obj [("ok", .bool true), ("token", .str o.token.format),
            ("expires_at_unix", .num (expiresAt / 1000000))] := by
  unfold adminLogin
  split
  · next hblank => exact iff_of_false Handler.fail_ne_ok fun h => h.1 hblank
  · next hblank =>
    simp only [Handler.bind_eq_ok_iff, Handler.given_eq_ok_iff, orDbError,
      Handler.mapError_eq_ok_iff, Handler.ofExcept_eq_ok_iff, Handler.ofOption_eq_ok_iff,
      Handler.change_eq_ok_iff, Handler.pure_eq_ok_iff]
    constructor
    · rintro ⟨_, _, ⟨rfl, rfl⟩, record, b₁, hfind, principal, _, ⟨hp, rfl⟩, expiresAt, _,
        ⟨hexp, rfl⟩, _, _, rfl, rfl, rfl⟩
      exact ⟨hblank, record, b₁, principal, expiresAt, hfind, hp, hexp, rfl, rfl⟩
    · rintro ⟨-, record, b₁, principal, expiresAt, hfind, hp, hexp, rfl, rfl⟩
      exact ⟨o, b, ⟨rfl, rfl⟩, record, b₁, hfind, principal, b₁, ⟨hp, rfl⟩, expiresAt, b₁,
        ⟨hexp, rfl⟩, (), _, rfl, rfl, rfl⟩

/-- **Who gets in**: the stored administrator whose password it is, or the bootstrap credential
where the lookup finds nobody. -/
theorem adminLogin_succeeds_iff :
    (∃ r b', adminLogin req o b = (.ok r, b')) ↔
      ¬ (trim req.email = "" ∨ req.password = "") ∧ (newExpiry o).isSome ∧
        b.dbFates.headD .fine = .fine ∧
        ((∃ u, adminRow b.db (trim req.email) = some u ∧ b.dbFates.tail.headD .fine = .fine ∧
            o.verifyPassword u.passwordHash req.password = .ok true) ∨
          (adminRow b.db (trim req.email) = none ∧ MatchesBootstrap o.settings req)) := by
  simp only [adminLogin_eq_ok_iff, findAdminForLogin_eq_ok_iff, loginPrincipal_eq_ok_iff,
    Option.isSome_iff_exists]
  constructor
  · rintro ⟨r, b', hblank, record, b₁, p, expiresAt, ⟨hfate, hrow⟩, hp, hexp, -⟩
    refine ⟨hblank, ⟨expiresAt, hexp⟩, hfate, ?_⟩
    rcases hrow with ⟨hnone, rfl, -⟩ | ⟨u, hu, hfate', rfl, -⟩
    · rcases hp with ⟨_, hr, -⟩ | ⟨-, hm, -⟩
      · cases hr
      · exact .inr ⟨hnone, hm⟩
    · rcases hp with ⟨r, hr, hv, -⟩ | ⟨hr, -⟩
      · cases hr
        exact .inl ⟨u, hu, hfate', hv⟩
      · cases hr
  · rintro ⟨hblank, ⟨expiresAt, hexp⟩, hfate, ⟨u, hu, hfate', hv⟩ | ⟨hnone, hm⟩⟩
    · exact ⟨_, _, hblank, _, _, _, expiresAt, ⟨hfate, .inr ⟨u, hu, hfate', rfl, rfl⟩⟩,
        .inl ⟨_, rfl, hv, rfl⟩, hexp, rfl, rfl⟩
    · exact ⟨_, _, hblank, _, _, _, expiresAt, ⟨hfate, .inl ⟨hnone, rfl, rfl⟩⟩,
        .inr ⟨rfl, hm, rfl⟩, hexp, rfl, rfl⟩

/-! ### The bypass -/

/-- An active administrator has the email, and the password is theirs. -/
def VerifiedBy (o : Outside) (db : Database) (req : AdminLoginRequest) : Prop :=
  ∃ u ∈ db.adminUsers.rows, u.email = trim req.email ∧ u.status = "active" ∧
    o.verifyPassword u.passwordHash req.password = .ok true

/-- An administrator, of whatever status, has the bootstrap email, whatever the case of its
letters. -/
def BootstrapTaken (settings : Settings) (db : Database) : Prop :=
  ∃ u ∈ db.adminUsers.rows, eqIgnoreAsciiCase u.email settings.bootstrapAdminEmail = true

/-- The request takes the bootstrap way in although an administrator has its email. -/
structure Bypasses (o : Outside) (b : Backend) (req : AdminLoginRequest) : Prop where
  email : trim req.email ≠ ""
  password : req.password ≠ ""
  bootstrap : MatchesBootstrap o.settings req
  taken : BootstrapTaken o.settings b.db
  inactive : ∀ u ∈ b.db.adminUsers.rows, u.email = trim req.email → u.status ≠ "active"
  answered : b.dbFates.headD .fine = .fine
  lasts : (newExpiry o).isSome

lemma adminRow_eq_none_iff {db : Database} {email : String} :
    adminRow db email = none ↔ ∀ u ∈ db.adminUsers.rows, u.email = email → u.status ≠ "active" := by
  rw [adminRow, List.find?_eq_none]
  simp

lemma of_adminRow {db : Database} {email : String} {u : AdminUserRow}
    (h : adminRow db email = some u) :
    u ∈ db.adminUsers.rows ∧ u.email = email ∧ u.status = "active" := by
  have hu := List.find?_some h
  simp only [Bool.and_eq_true, beq_iff_eq] at hu
  exact ⟨List.mem_of_find?_eq_some h, hu⟩

/-- **The bootstrap credential beside stored administrators**: a login succeeds only for an active
administrator with that email whose password it is, or for the bootstrap credential while no
administrator has the bootstrap email, exactly for the requests that are no bypass. -/
theorem adminLogin_sound_iff (o : Outside) (b : Backend) (req : AdminLoginRequest) :
    (∀ r b', adminLogin req o b = (.ok r, b') →
        VerifiedBy o b.db req ∨
          (¬ BootstrapTaken o.settings b.db ∧ MatchesBootstrap o.settings req)) ↔
      ¬ Bypasses o b req := by
  constructor
  · intro h hb
    have hnone := adminRow_eq_none_iff.mpr hb.inactive
    obtain ⟨r, b', hok⟩ := adminLogin_succeeds_iff.mpr
      ⟨not_or.mpr ⟨hb.email, hb.password⟩, hb.lasts, hb.answered, .inr ⟨hnone, hb.bootstrap⟩⟩
    rcases h r b' hok with ⟨u, hu, hemail, hactive, -⟩ | ⟨hfree, -⟩
    · exact hb.inactive u hu hemail hactive
    · exact hfree hb.taken
  · intro hb r b' hok
    obtain ⟨hblank, hlasts, hfate, ⟨u, hu, -, hv⟩ | ⟨hnone, hm⟩⟩ :=
      adminLogin_succeeds_iff.mp ⟨r, b', hok⟩
    · obtain ⟨hmem, hemail, hactive⟩ := of_adminRow hu
      exact .inl ⟨u, hmem, hemail, hactive, hv⟩
    · refine .inr ⟨fun htaken => hb ?_, hm⟩
      exact ⟨(not_or.mp hblank).1, (not_or.mp hblank).2, hm, htaken,
        adminRow_eq_none_iff.mp hnone, hfate, hlasts⟩

/-- The stored administrator has a password of its own, and the bootstrap password opens a session
under its email in another case. -/
theorem bootstrap_beside_stored :
    let b : Backend := { Backend.fixture with
      db := { Database.fixture with
        adminUsers := ⟨[⟨.fill 20, "admin@localhost", "$argon2id$s3cret", "active"⟩],
          List.pairwise_singleton _ _⟩ } }
    let req : AdminLoginRequest := ⟨"Admin@localhost", "change_me_now"⟩
    (∃ r b', adminLogin req Outside.fixture b = (.ok r, b')) ∧
      ¬ VerifiedBy Outside.fixture b.db req ∧ BootstrapTaken Outside.fixture.settings b.db := by
  intro b req
  refine ⟨adminLogin_succeeds_iff.mpr ⟨by decide +kernel, rfl, rfl, .inr ⟨?_, ?_⟩⟩, ?_, ?_⟩
  · decide +kernel
  · exact ⟨by decide +kernel, rfl⟩
  · rintro ⟨u, hu, hemail, -⟩
    rw [List.mem_singleton.mp hu] at hemail
    exact absurd hemail (by decide +kernel)
  · exact ⟨_, List.mem_singleton_self _, by decide +kernel⟩

end HelbreathBackend.AdminApi
