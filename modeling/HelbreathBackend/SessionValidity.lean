import HelbreathBackend.Infrastructure
import HelbreathBackend.Lib.Transition

/-!
The sessions that authorise something.

What `get_session_account` answers depends on the state of the session's row alone. So it goes by
what has been done to that row: the last login, the closings, and the ticks of the jobs runner
after the session's expiry, each at its time.
-/

namespace HelbreathBackend.Infrastructure

open HelbreathBackend.Lib HelbreathBackend.Domain

namespace Database

inductive SessionCall
  | upsert (sessionId : SessionId) (accountId : AccountId) (gatewayNode remoteIp : String)
      (expiresAt : Time)
  | close (sessionId : SessionId)
  | bind (sessionId : SessionId) (accountId : AccountId) (characterId : CharacterId)
  | setStatus (accountId : AccountId) (status : AccountStatus)
  | tick

variable (inet : String → Option String)

/-- A call, at a time. -/
def sessionCall (db : Database) : Time × SessionCall → Database
  | (now, .upsert sessionId accountId gatewayNode remoteIp expiresAt) =>
    match db.upsertSession inet now sessionId accountId gatewayNode remoteIp expiresAt with
    | .ok db' => db'
    | .error _ => db
  | (now, .close sessionId) => db.closeSession now sessionId
  | (now, .bind sessionId accountId characterId) =>
    (db.bindSessionCharacter now sessionId accountId characterId).2
  | (_, .setStatus accountId status) => db.setAccountStatus accountId status
  | (now, .tick) => (db.runTick now).2

/-! ### What the history says -/

/-- The call logs the session in to the account, until `expiresAt`. -/
def LogsIn (accounts : Accounts) (sessionId : SessionId) (accountId : AccountId)
    (expiresAt : Time) : SessionCall → Prop
  | .upsert sessionId' accountId' gatewayNode remoteIp expiresAt' =>
    sessionId' = sessionId ∧ accountId' = accountId ∧ expiresAt' = expiresAt ∧
      (inet remoteIp).isSome ∧ (∃ node, varchar 64 gatewayNode = .ok node) ∧
      ∃ a ∈ accounts.rows, a.id = accountId
  | _ => False

/-- The call ends such a login. -/
def Ends (accounts : Accounts) (sessionId : SessionId) (expiresAt : Time) :
    Time × SessionCall → Prop
  | (_, .upsert sessionId' accountId' gatewayNode remoteIp _) =>
    sessionId' = sessionId ∧ (inet remoteIp).isSome ∧
      (∃ node, varchar 64 gatewayNode = .ok node) ∧ ∃ a ∈ accounts.rows, a.id = accountId'
  | (_, .close sessionId') => sessionId' = sessionId
  | (now, .tick) => expiresAt < now
  | _ => False

/-- The session has been logged in to the account, and that has not been ended. -/
def LoggedIn (accounts : Accounts) (sessionId : SessionId) (accountId : AccountId)
    (expiresAt : Time) (history : List (Time × SessionCall)) : Prop :=
  Since (fun _ call => LogsIn inet accounts sessionId accountId expiresAt call.2)
    (fun call => ¬ Ends inet accounts sessionId expiresAt call) history

/-- The account was made active, or was so at the start, and has not been blocked since. -/
def StaysActive (accounts : Accounts) (accountId : AccountId)
    (history : List (Time × SessionCall)) : Prop :=
  Since (fun _ call => call.2 = .setStatus accountId .active)
      (fun call => ∀ status, call.2 ≠ .setStatus accountId status) history ∨
    ((∃ a ∈ accounts.rows, a.id = accountId ∧ a.status = "active") ∧
      ∀ call ∈ history, ∀ status, call.2 ≠ .setStatus accountId status)

/-! ### What the rows say -/

section

variable (db : Database)

/-- The session is open, for the account, until `expiresAt`. -/
def OpenFor (sessionId : SessionId) (accountId : AccountId) (expiresAt : Time) : Prop :=
  ∃ s ∈ db.sessions.rows,
    s.id = sessionId ∧ s.state ≠ "closed" ∧ s.accountId = some accountId ∧ s.expiresAt = expiresAt

/-- The account is there, and it is active. -/
def IsActive (accountId : AccountId) : Prop :=
  ∃ a ∈ db.accounts.rows, a.id = accountId ∧ a.status = "active"

instance (accountId : AccountId) : Decidable (db.IsActive accountId) :=
  inferInstanceAs (Decidable (∃ a ∈ db.accounts.rows, a.id = accountId ∧ a.status = "active"))

/-- An open session has no time of closing. -/
def Unclosed : Prop := ∀ s ∈ db.sessions.rows, s.state ≠ "closed" → s.closedAt = none

end

variable {inet} {db db' : Database} {sessionId : SessionId} {accountId : AccountId}
  {expiresAt now : Time}

/-- **The answer**: `get_session_account` answers the account the session is open for. -/
theorem getSessionAccount_eq_some_iff :
    db.getSessionAccount sessionId = some accountId ↔
      ∃ expiresAt, db.OpenFor sessionId accountId expiresAt := by
  rw [getSessionAccount, Option.bind_eq_some_iff]
  constructor
  · rintro ⟨s, hfind, ha⟩
    have hs := List.find?_some hfind
    simp only [Bool.and_eq_true, beq_iff_eq, bne_iff_ne] at hs
    exact ⟨_, s, List.mem_of_find?_eq_some hfind, hs.1, hs.2, ha, rfl⟩
  · rintro ⟨expiresAt, s, hmem, hid, hopen, ha, -⟩
    obtain ⟨r, hfind⟩ := Option.isSome_iff_exists.mp (List.find?_isSome.mpr ⟨s, hmem, by
      simp [hid, hopen]⟩ : (db.sessions.rows.find? fun s =>
        s.id == sessionId && s.state != "closed").isSome)
    have hr := List.find?_some hfind
    simp only [Bool.and_eq_true, beq_iff_eq] at hr
    obtain rfl : r = s := Table.eq_of_clash (fun _ _ => Eq.symm)
      (List.mem_of_find?_eq_some hfind) hmem (hr.1.trans hid.symm)
    exact ⟨r, hfind, ha⟩

lemma openFor_upserted {sid : SessionId} {aid : AccountId} {node ip : String} {exp : Time}
    (h : Upserted db now sid aid node ip exp db') :
    db'.OpenFor sessionId accountId expiresAt ↔
      (sid = sessionId ∧ aid = accountId ∧ exp = expiresAt) ∨
        (db.OpenFor sessionId accountId expiresAt ∧ sid ≠ sessionId) := by
  by_cases hknown : ∃ s ∈ db.sessions.rows, s.id = sid
  · rw [OpenFor, h.known hknown, Table.exists_updated_iff]
    constructor
    · rintro ⟨s, hs, ⟨hp, hid, -, ha, he⟩ | ⟨hp, hid, hopen⟩⟩
      · exact .inl ⟨(beq_iff_eq.mp hp).symm.trans hid, Option.some.inj ha, he⟩
      · exact .inr ⟨⟨s, hs, hid, hopen⟩, fun hsid =>
          (beq_eq_false_iff_ne.mp hp) (hid.trans hsid.symm)⟩
    · rintro (⟨rfl, rfl, rfl⟩ | ⟨⟨s, hs, hid, hopen⟩, hne⟩)
      · obtain ⟨s, hs, hid⟩ := hknown
        exact ⟨s, hs, .inl ⟨beq_iff_eq.mpr hid, hid, by simp [authenticated], rfl, rfl⟩⟩
      · exact ⟨s, hs, .inr ⟨beq_eq_false_iff_ne.mpr (hid ▸ hne.symm), hid, hopen⟩⟩
  · simp only [OpenFor, h.new hknown, List.mem_append, List.mem_singleton]
    constructor
    · rintro ⟨s, hs | rfl, hid, hopen, ha, he⟩
      · exact .inr ⟨⟨s, hs, hid, hopen, ha, he⟩, fun hsid => hknown ⟨s, hs, hid.trans hsid.symm⟩⟩
      · exact .inl ⟨hid, Option.some.inj ha, he⟩
    · rintro (⟨rfl, rfl, rfl⟩ | ⟨⟨s, hs, h⟩, -⟩)
      · exact ⟨_, .inr rfl, rfl, by simp, rfl, rfl⟩
      · exact ⟨s, .inl hs, h⟩

lemma openFor_closeSession {sid : SessionId} :
    (db.closeSession now sid).OpenFor sessionId accountId expiresAt ↔
      db.OpenFor sessionId accountId expiresAt ∧ sid ≠ sessionId := by
  refine Table.exists_updated_iff.trans ?_
  constructor
  · rintro ⟨s, hs, ⟨hp, hid, hopen, -⟩ | ⟨hp, hid, hopen⟩⟩
    · exact absurd rfl hopen
    · exact ⟨⟨s, hs, hid, hopen⟩, fun hsid => (beq_eq_false_iff_ne.mp hp) (hid.trans hsid.symm)⟩
  · rintro ⟨⟨s, hs, hid, hopen⟩, hne⟩
    exact ⟨s, hs, .inr ⟨beq_eq_false_iff_ne.mpr (hid ▸ hne.symm), hid, hopen⟩⟩

lemma openFor_bindSession {sid : SessionId} {aid : AccountId} {characterId : CharacterId} :
    (db.bindSession now sid aid characterId).2.OpenFor sessionId accountId expiresAt ↔
      db.OpenFor sessionId accountId expiresAt := by
  refine Table.exists_updated_iff.trans (exists_congr fun s => and_congr_right fun _ => ?_)
  rcases hp : binds sid aid s with _ | _
  · simp
  · simp only [binds, Bool.and_eq_true, bne_iff_ne] at hp
    simp [hp.2]

lemma openFor_runTick (h : db.Unclosed) :
    (db.runTick now).2.OpenFor sessionId accountId expiresAt ↔
      db.OpenFor sessionId accountId expiresAt ∧ ¬ expiresAt < now := by
  refine Table.exists_updated_iff.trans ?_
  constructor
  · rintro ⟨s, hs, ⟨hp, hid, hopen, -⟩ | ⟨hp, hid, hopen, ha, he⟩⟩
    · exact absurd rfl hopen
    · refine ⟨⟨s, hs, hid, hopen, ha, he⟩, fun hlt => ?_⟩
      simp [expired, h s hs hopen, he, hlt] at hp
  · rintro ⟨⟨s, hs, hid, hopen, ha, he⟩, hlt⟩
    exact ⟨s, hs, .inr ⟨by simp [expired, he, hlt], hid, hopen, ha, he⟩⟩

/-! ### One call -/

lemma logsIn_congr {accounts accounts' : Accounts}
    (h : ∀ id, (∃ a ∈ accounts'.rows, a.id = id) ↔ ∃ a ∈ accounts.rows, a.id = id)
    (call : SessionCall) :
    LogsIn inet accounts' sessionId accountId expiresAt call ↔
      LogsIn inet accounts sessionId accountId expiresAt call := by
  cases call <;> simp only [LogsIn, h]

lemma ends_congr {accounts accounts' : Accounts}
    (h : ∀ id, (∃ a ∈ accounts'.rows, a.id = id) ↔ ∃ a ∈ accounts.rows, a.id = id)
    (call : Time × SessionCall) :
    Ends inet accounts' sessionId expiresAt call ↔ Ends inet accounts sessionId expiresAt call := by
  obtain ⟨now, call⟩ := call
  cases call <;> simp only [Ends, h]

/-- **The session after a call** is open for who was logged in by it, or before it and not ended
by it. -/
theorem openFor_sessionCall (h : db.Unclosed) (call : Time × SessionCall) :
    (sessionCall inet db call).OpenFor sessionId accountId expiresAt ↔
      LogsIn inet db.accounts sessionId accountId expiresAt call.2 ∨
        (db.OpenFor sessionId accountId expiresAt ∧
          ¬ Ends inet db.accounts sessionId expiresAt call) := by
  obtain ⟨now, call⟩ := call
  cases call with
  | upsert sid aid gatewayNode remoteIp exp =>
    rw [sessionCall]
    split
    · next db' hok =>
      obtain ⟨ip, node, hip, hnode, hacc, hup⟩ := upsertSession_eq_ok_iff.mp hok
      rw [openFor_upserted hup]
      simp only [LogsIn, Ends, hip, hnode, Option.isSome_some, Except.ok.injEq, exists_eq',
        true_and]
      constructor
      · rintro (⟨rfl, rfl, rfl⟩ | ⟨hopen, hne⟩)
        · exact .inl ⟨rfl, rfl, rfl, hacc⟩
        · exact .inr ⟨hopen, fun h => hne h.1⟩
      · rintro (⟨rfl, rfl, rfl, -⟩ | ⟨hopen, hne⟩)
        · exact .inl ⟨rfl, rfl, rfl⟩
        · exact .inr ⟨hopen, fun h => hne ⟨h, hacc⟩⟩
    · next err herr =>
      have hno : ¬ ((inet remoteIp).isSome ∧ (∃ node, varchar 64 gatewayNode = .ok node) ∧
          ∃ a ∈ db.accounts.rows, a.id = aid) := by
        rintro ⟨hip, ⟨node, hnode⟩, hacc⟩
        obtain ⟨ip, hip⟩ := Option.isSome_iff_exists.mp hip
        obtain ⟨db', hok, -⟩ := exists_upsertSession hip hnode hacc
        exact absurd (herr.symm.trans hok) (by simp)
      constructor
      · exact fun hopen => .inr ⟨hopen, fun hend => hno hend.2⟩
      · rintro (⟨-, rfl, -, hrest⟩ | hopen)
        · exact absurd hrest hno
        · exact hopen.1
  | close sid =>
    refine openFor_closeSession.trans ?_
    simp [LogsIn, Ends]
  | bind sid aid characterId =>
    simp only [LogsIn, Ends, not_false_iff, and_true, false_or]
    rw [sessionCall]
    obtain he | he := db.bindSessionCharacter_snd now sid aid characterId
    · rw [he]
    · rw [he, openFor_bindSession]
  | setStatus aid status =>
    simp only [LogsIn, Ends, not_false_iff, and_true, false_or]
    rfl
  | tick =>
    refine (openFor_runTick h).trans ?_
    simp [LogsIn, Ends]

lemma unclosed_sessionCall (h : db.Unclosed) (call : Time × SessionCall) :
    (sessionCall inet db call).Unclosed := by
  obtain ⟨now, call⟩ := call
  cases call with
  | upsert sid aid gatewayNode remoteIp exp =>
    rw [sessionCall]
    split
    · next db' hok =>
      obtain ⟨ip, node, -, -, -, hup⟩ := upsertSession_eq_ok_iff.mp hok
      intro s hs
      by_cases hknown : ∃ s ∈ db.sessions.rows, s.id = sid
      · rw [hup.known hknown] at hs
        exact (Table.forall_updated_iff h).mpr (fun _ _ _ _ => rfl) s hs
      · rw [hup.new hknown, List.mem_append, List.mem_singleton] at hs
        rcases hs with hs | rfl
        · exact h s hs
        · exact fun _ => rfl
    · exact h
  | close sid => exact (Table.forall_updated_iff h).mpr fun s _ _ hopen => absurd rfl hopen
  | bind sid aid characterId =>
    rw [sessionCall]
    obtain he | he := db.bindSessionCharacter_snd now sid aid characterId
    · rw [he]
      exact h
    · rw [he]
      refine (Table.forall_updated_iff h).mpr fun s hs hb _ => ?_
      simp only [binds, Bool.and_eq_true, bne_iff_ne] at hb
      exact h s hs hb.2
  | setStatus aid status => exact h
  | tick => exact (Table.forall_updated_iff h).mpr fun s _ _ hopen => absurd rfl hopen

/-- Only `set_account_status` changes accounts. -/
lemma accounts_sessionCall (inet : String → Option String) (db : Database)
    (call : Time × SessionCall) :
    (sessionCall inet db call).accounts.rows = db.accounts.rows ∧
        (∀ a st, call.2 ≠ .setStatus a st) ∨
      ∃ a st, call.2 = .setStatus a st ∧
        (sessionCall inet db call).accounts.rows = (db.setAccountStatus a st).accounts.rows := by
  obtain ⟨now, call⟩ := call
  cases call with
  | setStatus aid status => exact .inr ⟨aid, status, rfl, rfl⟩
  | upsert sid aid gatewayNode remoteIp exp =>
    refine .inl ⟨?_, by simp⟩
    rw [sessionCall]
    split
    · next db' hok =>
      obtain ⟨ip, node, -, -, -, hup⟩ := upsertSession_eq_ok_iff.mp hok
      obtain ⟨sessions, rfl⟩ := hup.others
      rfl
    · rfl
  | close sid => exact .inl ⟨rfl, by simp⟩
  | bind sid aid characterId =>
    refine .inl ⟨?_, by simp⟩
    rw [sessionCall]
    obtain he | he := db.bindSessionCharacter_snd now sid aid characterId <;>
      rw [he]
    rfl
  | tick => exact .inl ⟨rfl, by simp⟩

lemma ids_sessionCall (call : Time × SessionCall) (id : AccountId) :
    (∃ a ∈ (sessionCall inet db call).accounts.rows, a.id = id) ↔
      ∃ a ∈ db.accounts.rows, a.id = id := by
  obtain ⟨h, -⟩ | ⟨a, st, -, h⟩ := accounts_sessionCall inet db call
  · rw [h]
  · rw [h]
    refine Table.exists_updated_iff.trans (exists_congr fun acc => and_congr_right fun _ => ?_)
    cases acc.id == a <;> simp

lemma isActive_sessionCall (call : Time × SessionCall) :
    (sessionCall inet db call).IsActive accountId ↔
      ((∃ a ∈ db.accounts.rows, a.id = accountId) ∧ call.2 = .setStatus accountId .active) ∨
        (db.IsActive accountId ∧ ∀ status, call.2 ≠ .setStatus accountId status) := by
  obtain ⟨h, hno⟩ | ⟨a, st, hcall, h⟩ := accounts_sessionCall inet db call
  · rw [IsActive, h]
    simp [hno, IsActive]
  · rw [IsActive, h, hcall]
    refine Table.exists_updated_iff.trans ?_
    by_cases ha : a = accountId
    · subst ha
      have hcode : AccountStatus.code st = "active" ↔ st = .active := by
        cases st <;> simp [AccountStatus.code]
      simp only [SessionCall.setStatus.injEq, true_and, ne_eq, forall_eq', and_false, or_false,
        hcode]
      constructor
      · rintro ⟨acc, hacc, ⟨-, hid, hst⟩ | ⟨hne, hid, -⟩⟩
        · exact ⟨⟨acc, hacc, hid⟩, hst⟩
        · exact absurd hid (beq_eq_false_iff_ne.mp hne)
      · rintro ⟨⟨acc, hacc, hid⟩, hst⟩
        exact ⟨acc, hacc, .inl ⟨beq_iff_eq.mpr hid, hid, hst⟩⟩
    · simp only [SessionCall.setStatus.injEq, ha, false_and, and_false, ne_eq, not_false_iff,
        implies_true, and_true, false_or]
      refine exists_congr fun acc => and_congr_right fun _ => ?_
      constructor
      · rintro (⟨hid, hid', -⟩ | ⟨-, hactive⟩)
        · exact absurd ((beq_iff_eq.mp hid).symm.trans hid') ha
        · exact hactive
      · intro hactive
        exact .inr ⟨beq_eq_false_iff_ne.mpr fun hid => ha (hid.symm.trans hactive.1), hactive⟩

/-! ### Histories -/

/-- What the database records of a history. -/
structure Recorded (inet : String → Option String) (db₀ db : Database)
    (history : List (Time × SessionCall)) : Prop where
  unclosed : db.Unclosed
  ids : ∀ id, (∃ a ∈ db.accounts.rows, a.id = id) ↔ ∃ a ∈ db₀.accounts.rows, a.id = id
  sessions : ∀ sessionId accountId expiresAt, db.OpenFor sessionId accountId expiresAt ↔
    LoggedIn inet db₀.accounts sessionId accountId expiresAt history
  active : ∀ accountId, db.IsActive accountId ↔
    (∃ a ∈ db₀.accounts.rows, a.id = accountId) ∧ StaysActive db₀.accounts accountId history

lemma recorded_nil {db₀ : Database} (hempty : db₀.sessions.rows = []) :
    Recorded inet db₀ db₀ [] where
  unclosed := by
    intro s hs
    rw [hempty] at hs
    cases hs
  ids _ := Iff.rfl
  sessions _ _ _ := by
    refine iff_of_false ?_ not_since_nil
    rintro ⟨s, hs, -⟩
    rw [hempty] at hs
    cases hs
  active accountId := by
    constructor
    · rintro ⟨a, ha, hid, hst⟩
      exact ⟨⟨a, ha, hid⟩, .inr ⟨⟨a, ha, hid, hst⟩, fun call hcall => by cases hcall⟩⟩
    · rintro ⟨-, hsince | ⟨hactive, -⟩⟩
      · exact absurd hsince not_since_nil
      · exact hactive

lemma Recorded.snoc {db₀ : Database} {history : List (Time × SessionCall)}
    (h : Recorded inet db₀ db history) (call : Time × SessionCall) :
    Recorded inet db₀ (sessionCall inet db call) (history ++ [call]) where
  unclosed := unclosed_sessionCall h.unclosed call
  ids id := (ids_sessionCall call id).trans (h.ids id)
  sessions sid aid exp := by
    rw [openFor_sessionCall h.unclosed, logsIn_congr h.ids, ends_congr h.ids, h.sessions]
    simp only [LoggedIn]
    rw [since_snoc]
  active aid := by
    rw [isActive_sessionCall, h.active, h.ids, and_assoc, ← and_or_left]
    refine and_congr_right fun _ => ?_
    have hkeep : ((∃ a ∈ db₀.accounts.rows, a.id = aid ∧ a.status = "active") ∧
        ∀ c ∈ history ++ [call], ∀ status, c.2 ≠ .setStatus aid status) ↔
        ((∃ a ∈ db₀.accounts.rows, a.id = aid ∧ a.status = "active") ∧
          ∀ c ∈ history, ∀ status, c.2 ≠ .setStatus aid status) ∧
            ∀ status, call.2 ≠ .setStatus aid status := by
      rw [List.forall_mem_append, List.forall_mem_singleton, and_assoc]
    rw [StaysActive, StaysActive, since_snoc, hkeep, or_assoc, ← or_and_right]

lemma recorded_run {db₀ : Database} (hempty : db₀.sessions.rows = [])
    (history : List (Time × SessionCall)) :
    Recorded inet db₀ (history.foldl (sessionCall inet) db₀) history := by
  induction history using List.reverseRecOn with
  | nil => exact recorded_nil hempty
  | append_singleton history call ih =>
    rw [List.foldl_append]
    exact ih.snoc call

/-- **Authorisation goes by the history**: after any calls from an empty table of sessions, what
`get_session_account` answers at a time `t` is an open session that has not expired, of an active
account, exactly when a login of the session that nothing has ended has not expired at `t` either
and its account has stayed active. -/
theorem session_account_valid_iff (db₀ : Database) (hempty : db₀.sessions.rows = [])
    (history : List (Time × SessionCall)) (sessionId : SessionId) (t : Time) :
    let db := history.foldl (sessionCall inet) db₀
    (∀ accountId, db.getSessionAccount sessionId = some accountId →
        (∃ s ∈ db.sessions.rows, s.id = sessionId ∧ s.state ≠ "closed" ∧ t ≤ s.expiresAt) ∧
          db.IsActive accountId) ↔
      ∀ accountId expiresAt, LoggedIn inet db₀.accounts sessionId accountId expiresAt history →
        t ≤ expiresAt ∧ StaysActive db₀.accounts accountId history := by
  intro db
  have hrec : Recorded inet db₀ db history := recorded_run hempty history
  constructor
  · intro h accountId expiresAt hin
    have hopen := (hrec.sessions sessionId accountId expiresAt).mpr hin
    obtain ⟨⟨s, hs, hid, -, ht⟩, hactive⟩ :=
      h accountId (getSessionAccount_eq_some_iff.mpr ⟨expiresAt, hopen⟩)
    refine ⟨?_, ((hrec.active accountId).mp hactive).2⟩
    obtain ⟨s', hs', hid', -, -, rfl⟩ := hopen
    obtain rfl : s = s' :=
      Table.eq_of_clash (fun _ _ => Eq.symm) hs hs' (hid.trans hid'.symm)
    exact ht
  · intro h accountId hsome
    obtain ⟨expiresAt, hopen⟩ := getSessionAccount_eq_some_iff.mp hsome
    have hin := (hrec.sessions sessionId accountId expiresAt).mp hopen
    obtain ⟨ht, hactive⟩ := h accountId expiresAt hin
    obtain ⟨s, hs, hid, hst, -, rfl⟩ := hopen
    refine ⟨⟨s, hs, hid, hst, ht⟩, (hrec.active accountId).mpr ⟨?_, hactive⟩⟩
    -- who is logged in has an account
    obtain ⟨pre, ⟨now, call⟩, post, -, hlogs, -⟩ := hin
    cases call with
    | upsert sid aid gatewayNode remoteIp exp =>
      obtain ⟨-, -, -, -, -, hacc⟩ := hlogs
      exact hacc
    | _ => cases hlogs

/-- A session is logged in, closed and logged in again, its account is blocked and unblocked, and a
tick comes when the first login would have expired. -/
theorem session_account_valid_iff_login :
    let login (expiresAt : Time) : SessionCall :=
      .upsert (.fill 3) (.fill 1) "gateway-1" "127.0.0.1" expiresAt
    let history : List (Time × SessionCall) :=
      [(0, login 100), (10, .setStatus (.fill 1) .banned), (20, .setStatus (.fill 1) .active),
        (30, .close (.fill 3)), (40, login 200), (150, .tick)]
    let db := history.foldl (sessionCall some) fixture
    db.getSessionAccount (.fill 3) = some (.fill 1) ∧
      ∀ accountId, db.getSessionAccount (.fill 3) = some accountId →
        (∃ s ∈ db.sessions.rows, s.id = .fill 3 ∧ s.state ≠ "closed" ∧ 160 ≤ s.expiresAt) ∧
          db.IsActive accountId := by
  intro login history
  refine ⟨by decide +kernel, (session_account_valid_iff fixture rfl history (.fill 3) 160).mpr ?_⟩
  intro accountId expiresAt hin
  -- the second login is the one that has not been ended
  replace hin : LoggedIn some fixture.accounts (.fill 3) accountId expiresAt ([] ++
    [(0, login 100)] ++ [(10, .setStatus (.fill 1) .banned)] ++
      [(20, .setStatus (.fill 1) .active)] ++ [(30, .close (.fill 3))] ++ [(40, login 200)] ++
        [(150, .tick)]) := hin
  simp only [LoggedIn, since_snoc, LogsIn, Ends, login, not_since_nil, not_true_eq_false, and_false, false_and,
    or_false, false_or] at hin
  obtain ⟨⟨-, rfl, rfl, -⟩, -⟩ := hin
  refine ⟨by decide, .inl ⟨[(0, login 100), (10, .setStatus (.fill 1) .banned)],
    (20, .setStatus (.fill 1) .active), [(30, .close (.fill 3)), (40, login 200), (150, .tick)], rfl,
    rfl, fun call hcall status he => ?_⟩⟩
  simp only [List.mem_cons, List.not_mem_nil, or_false] at hcall
  rcases hcall with rfl | rfl | rfl <;> cases he

/-- A session that has expired, or whose account is blocked, still authorises. -/
theorem expired_and_blocked_authorise :
    let login : Time × SessionCall :=
      (0, .upsert (.fill 3) (.fill 1) "gateway-1" "127.0.0.1" 100)
    let expired := [login, (50, .tick)].foldl (sessionCall some) fixture
    let blocked := [login, (10, .setStatus (.fill 1) .banned)].foldl (sessionCall some) fixture
    (expired.getSessionAccount (.fill 3) = some (.fill 1) ∧
      ∀ s ∈ expired.sessions.rows, ¬ 101 ≤ s.expiresAt) ∧
    (blocked.getSessionAccount (.fill 3) = some (.fill 1) ∧ ¬ blocked.IsActive (.fill 1)) := by
  exact ⟨⟨by decide +kernel, by decide +kernel⟩, by decide +kernel, by decide +kernel⟩

end Database

end HelbreathBackend.Infrastructure
