import HelbreathBackend.DeletedCharacters
import HelbreathBackend.GatewayAndAuth
import HelbreathBackend.WorldPosts

/-!
Whose characters are played.

A session plays a character because the selection of it was accepted, the selection was accepted
because the account of the session owns the character, and a session has an account because a login
of its own connection has proved the password of that account. So nothing reaches the world in the
name of a character unless the connection it comes from has proved the password of the account that
owns it, whatever is lost, given up or late in between.
-/

namespace HelbreathBackend.CharacterOwners

open HelbreathBackend.Lib HelbreathBackend.Lib.Contract HelbreathBackend.Domain
open HelbreathBackend.Infrastructure HelbreathBackend.Infrastructure.Database
open HelbreathBackend.Auth HelbreathBackend.AuthHandlers HelbreathBackend.Gateway
open HelbreathBackend.Application (trim InternalCommand)
open HelbreathBackend.Grants HelbreathBackend.GatewaySystem HelbreathBackend.GatewayTrace
open HelbreathBackend.RouterRun HelbreathBackend.Authorisation HelbreathBackend.WorldPosts
open HelbreathBackend.DeletedCharacters HelbreathBackend.GatewayAndAuth

/-! ### Characters and their selections -/

/-- The selection of the character was answered for the session. -/
def Selected (s : SessionId) (c : CharacterId) (l : List Exchange) : Prop :=
  ∃ req r body, (BackendRequest.authCharacterSelect req, r) ∈ l ∧ req.sessionId = s ∧
    r.characterSelect = some body ∧ body.characterId = some c

lemma Selected.mono {s : SessionId} {c : CharacterId} {l l' : List Exchange} (h : Selected s c l)
    (hl : l ⊆ l') : Selected s c l' := by
  obtain ⟨req, r, body, hin, hrest⟩ := h
  exact ⟨req, r, body, hl hin, hrest⟩

/-- A character that a session has been granted was selected. -/
lemma selected_of_granted {s : SessionId} {c : CharacterId} {l : List Exchange}
    (h : (granted (history s l)).characterId = some c) : Selected s c l := by
  induction l using List.reverseRecOn with
  | nil => cases h
  | append_singleton l x ih =>
    have hold : (granted (history s l)).characterId = some c → Selected s c (l ++ [x]) :=
      fun hc => (ih hc).mono (List.subset_append_left _ _)
    by_cases he : sessionOf x.1 = s
    · rw [history_own he, granted_snoc] at h
      rcases grant_characterId h with ⟨req, body, hq, hbody, hcid⟩ | ⟨hc, -⟩
      · refine ⟨req, x.2, body, List.mem_append_right _ ?_, ?_, hbody, hcid⟩
        · rw [← hq]
          exact List.mem_singleton_self x
        · rw [← he, hq]
          rfl
      · exact hold hc
    · rw [history_other he] at h
      exact hold h

/-- The command that the router works on names a character that was selected before it came to the
command, and so does every request of the world. -/
structure Named (g : Gateway) : Prop where
  running : ∀ s cmd t, g.current = some (cmd, t) → SentBy s cmd → ∃ start a,
    (caching s start a).Meets t any g.sessions g.exchanges ∧ start <+: g.exchanges ∧
      ∀ c, a = some c → Selected s c start
  posted : ∀ pre q, PostedAfter g pre q → ∀ m env c, q = .worldRoute m env →
    env.characterId = some c → Selected env.sessionId c pre

lemma named_start : Named .start where
  running s cmd t hc := by cases hc
  posted := by
    rintro pre q (⟨r, post, he⟩ | ⟨-, c, k, hc⟩)
    · simp [Gateway.start] at he
    · cases hc

section

variable {parseStr : String → Option Uuid} {packetMaxPayload : ℕ} {g g' : Gateway}
  {a : GatewaySystem.Action}

/-- The request that the router has come to. -/
lemma selected_of_running (ht : Traced g) (hr : Routed g)
    (hrun : ∀ s cmd t, g.current = some (cmd, t) → SentBy s cmd → ∃ start a,
      (caching s start a).Meets t any g.sessions g.exchanges ∧ start <+: g.exchanges ∧
        ∀ c, a = some c → Selected s c start)
    {cmd : InternalCommand} {m : MapId} {env : WorldRouteEnvelope} {k : HttpReply → Router Unit}
    (hc : g.current = some (cmd, .call (.worldRoute m env) k)) {c : CharacterId}
    (hcid : env.characterId = some c) : Selected env.sessionId c g.exchanges := by
  obtain ⟨s, conn, hby, -⟩ := hr.connected ht hc
  obtain ⟨⟨hown, -⟩, -⟩ := hr.running s cmd _ hc hby g.sessions (.inl rfl)
  obtain ⟨start, a, hmeets, -, ha⟩ := hrun s cmd _ hc hby
  obtain ⟨he, hnone | ha'⟩ := (hmeets g.sessions (.inl rfl)).1 m env rfl
  · rw [hnone] at hcid
    cases hcid
  · have hsel := ha c (ha'.symm.trans hcid)
    rw [he]
    have hs : env.sessionId = s := hown
    rwa [hs]

/-- What a command caches that the router takes up was granted, and so selected. -/
lemma running_taken (hr : Routed g) (hnone : g.current = none) {cmd : InternalCommand}
    {s : SessionId} (hby : SentBy s cmd) : ∃ start a,
      (caching s start a).Meets (Router.handle cmd) any g.sessions g.exchanges ∧
        start <+: g.exchanges ∧ ∀ c, a = some c → Selected s c start := by
  refine ⟨g.exchanges, (g.sessions.lookup s).bind (·.characterId), caching_handle hby ?_,
    List.prefix_rfl, fun c hc => ?_⟩
  · intro e he
    rw [he]
    rfl
  · obtain ⟨e, he, hec⟩ := Option.bind_eq_some_iff.mp hc
    have hbetween : Between g s := fun c' t' hcur => by
      rw [hnone] at hcur
      cases hcur
    have hauth := (hr.settled s hbetween).entry e he
    refine selected_of_granted ?_
    rw [← hauth]
    exact hec

lemma named_step (ht : Traced g) (hr : Routed g) (hn : Named g) (ht' : Traced g')
    (hr' : Routed g') (h : GatewaySteps.Step parseStr packetMaxPayload g a g') : Named g' := by
  have hrun : ∀ s cmd t, g'.current = some (cmd, t) → SentBy s cmd → ∃ start a,
      (caching s start a).Meets t any g'.sessions g'.exchanges ∧ start <+: g'.exchanges ∧
        ∀ c, a = some c → Selected s c start := by
    intro s cmd t hc hby
    cases h with
    | @accept x remoteIp hl =>
      obtain ⟨s', conn, hby', hconn⟩ := hr.connected ht hc
      obtain rfl := hby.unique hby'
      obtain ⟨start, a, hmeets, hstart⟩ := hn.running s cmd t hc hby
      refine ⟨start, a, hmeets.stable (.inl (Finmap.lookup_insert_of_ne _ ?_)), hstart⟩
      rintro rfl
      rw [hl] at hconn
      cases hconn
    | task | queue => exact hn.running s cmd t hc hby
    | @remove x conn hl hst =>
      obtain ⟨start, a, hmeets, hstart⟩ := hn.running s cmd t hc hby
      refine ⟨start, a, hmeets.stable ?_, hstart⟩
      have hlook : (g.sessions.erase x).lookup s = if s = x then none else g.sessions.lookup s :=
        FMap.lookup_erase_eq g.sessions x s
      by_cases hs : s = x
      · exact .inr (hlook.trans (if_pos hs))
      · exact .inl (hlook.trans (if_neg hs))
    | @recv cmd' rest hnone hq =>
      cases hc
      exact running_taken hr hnone hby
    | @sync cmd' f k hcur =>
      cases hc
      obtain ⟨start, a, hmeets, hstart⟩ := hn.running s cmd _ hcur hby
      exact ⟨start, a, (hmeets g.sessions (.inl rfl)).2, hstart⟩
    | @reply cmd' q k hcur r =>
      cases hc
      obtain ⟨start, a, hmeets, hpre, ha⟩ := hn.running s cmd _ hcur hby
      exact ⟨start, a, (hmeets g.sessions (.inl rfl)).2 r, hpre.trans (List.prefix_append _ _), ha⟩
    | finish => cases hc
  refine ⟨hrun, fun pre q hq m env c he hcid => ?_⟩
  rcases postedAfter_cases h hq with hq | ⟨rfl, cmd, k, hc⟩
  · exact hn.posted pre q hq m env c he hcid
  · rw [he] at hc
    exact selected_of_running ht' hr' hrun hc hcid

/-- **What the router names to the world was selected.** -/
theorem named_of_reached (h : (GatewaySystem.system parseStr packetMaxPayload).Reached g) :
    Named g := by
  refine h.invariant_of Named (J := fun g => Traced g ∧ Routed g)
    (fun hg => ⟨traced_of_reached hg, routed_of_reached hg⟩) ?_ ?_
  · rintro g rfl
    exact named_start
  · intro g a g' hj hj' hn _ hst
    exact named_step hj.1 hj.2 hn hj'.1 hj'.2 (GatewaySteps.step_cases hst)

end

/-! ### What the handlers rely on -/

/-- The login names an active account and has its password. -/
def Proves (accounts : Accounts) (verify : String → String → Except String Bool)
    (req : AuthLoginRequest) (accountId : AccountId) : Prop :=
  ∃ row ∈ accounts.rows, row.id = accountId ∧ row.username = trim req.username ∧
    accountStatusOf row.status = .active ∧ ∀ o : Surroundings, o.verifyPassword = verify →
      passwordOk o row.username row.passwordHash req.password = .ok true

/-- Which accounts the sessions have proved, and whose the characters are. -/
structure Facts where
  proved : SessionId → AccountId → Prop
  owned : CharacterId → AccountId → Prop

/-- The facts are among others, which may be known later. -/
structure Facts.Within (E E' : Facts) : Prop where
  proved : ∀ s a, E.proved s a → E'.proved s a
  owned : ∀ c a, E.owned c a → E'.owned c a

lemma Facts.Within.refl (E : Facts) : E.Within E := ⟨fun _ _ h => h, fun _ _ h => h⟩

lemma Facts.Within.trans {E E' E'' : Facts} (h : E.Within E') (h' : E'.Within E'') :
    E.Within E'' :=
  ⟨fun s a ha => h'.proved s a (h.proved s a ha), fun c a ha => h'.owned c a (h.owned c a ha)⟩

variable (accounts : Accounts) (E : Facts)

/-- What the database answers. -/
def Truthful : Query → Answer → Prop
  | .findAccountForLogin username, .account (some record) =>
    ∃ row ∈ accounts.rows, row.username = username ∧
      record = ⟨row.id, row.username, row.passwordHash, accountStatusOf row.status⟩
  | .getSessionAccount sessionId, .sessionAccount (some accountId) => E.proved sessionId accountId
  | .loadCharacter accountId _, .character (some character) => E.owned character.id accountId
  | _, _ => True

/-- A session is only given to an account that it has proved. -/
def Backed : Query → Prop
  | .upsertSession sessionId accountId .. => E.proved sessionId accountId
  | _ => True

/-- What the responses say is so. -/
def Reports (q : BackendRequest) (body : Body) : Prop :=
  ∀ req response c, q = .authCharacterSelect req → body = .characterSelect response →
    response.characterId = some c → ∃ a, E.proved req.sessionId a ∧ E.owned c a

variable {accounts E} {verify : String → String → Except String Bool}

lemma reports_of_other {q : BackendRequest} (hq : ∀ req, q ≠ .authCharacterSelect req)
    (body : Body) : Reports E q body := fun req _ _ he => absurd he (hq req)

lemma reports_notSelected (q : BackendRequest) (reason : String) :
    Reports E q (notSelected reason) := by
  rintro req _ c - ⟨⟩ hc
  cases hc

/-- A handler that works for the account of its session. -/
lemma withAccount_serves {sessionId : SessionId} {invalid failed : Body}
    {work : AccountId → AuthTask} {Q : Body → Prop} (hinvalid : Q invalid) (hfailed : Q failed)
    (hwork : ∀ a, E.proved sessionId a →
      (work a).ServesUnder (Truthful accounts E) (Backed E) Q) :
    (withAccount sessionId invalid failed work).ServesUnder (Truthful accounts E) (Backed E) Q := by
  refine ⟨trivial, fun answer hanswer => ?_⟩
  cases answer with
  | sessionAccount accountId =>
    rcases accountId with _ | accountId
    · exact hinvalid
    · exact hwork accountId hanswer
  | _ => exact hfailed

lemma login_serves {svc : AuthService} {o : Surroundings} {limited : Bool}
    {req : AuthLoginRequest} (ho : o.verifyPassword = verify)
    (hproved : ∀ a, Proves accounts verify req a → E.proved req.sessionId a) :
    (login svc o limited req).ServesUnder (Truthful accounts E) (Backed E)
      (Reports E (.authLogin req)) := by
  have hdone : ∀ body, Reports E (.authLogin req) body :=
    reports_of_other fun _ he => by cases he
  unfold login
  split
  · exact hdone _
  refine ⟨trivial, fun answer hanswer => ?_⟩
  cases answer with
  | account record =>
    rcases record with _ | record
    · exact hdone _
    obtain ⟨row, hrow, hname, rfl⟩ := hanswer
    change Task.ServesUnder _ _ _ (if accountStatusOf row.status ≠ .active then _ else _)
    split
    · exact hdone _
    next hstatus =>
    rw [not_not] at hstatus
    dsimp only
    rcases hpassword : passwordOk o row.username row.passwordHash req.password with err | ok
    · cases err <;> exact hdone _
    cases ok with
    | false => exact hdone _
    | true =>
      dsimp only
      rcases defaultSessionExpiry o svc.sessionTtlSeconds with _ | expiresAt
      · exact hdone _
      have hsame : ∀ o' : Surroundings, o'.verifyPassword = verify →
          passwordOk o' row.username row.passwordHash req.password = .ok true := by
        intro o' ho'
        rw [← hpassword]
        unfold passwordOk
        rw [ho', ho]
      refine ⟨hproved row.id ⟨row, hrow, rfl, hname, hstatus, hsame⟩, fun answer' _ => ?_⟩
      cases answer' <;> exact hdone _
  | _ => exact hdone _

lemma selectCharacter_serves (req : AuthCharacterSelectRequest) :
    (selectCharacter req).ServesUnder (Truthful accounts E) (Backed E)
      (Reports E (.authCharacterSelect req)) := by
  refine withAccount_serves (reports_notSelected _ _) (reports_notSelected _ _) fun a ha => ?_
  refine ⟨trivial, fun loaded hloaded => ?_⟩
  cases loaded with
  | character character =>
    rcases character with _ | character
    · exact reports_notSelected _ _
    refine ⟨trivial, fun bound _ => ?_⟩
    cases bound with
    | rows rows =>
      change Task.ServesUnder _ _ _ (if rows = 0 then _ else _)
      split
      · exact reports_notSelected _ _
      · rintro req' response c ⟨⟩ ⟨⟩ hc
        obtain rfl : character.id = c := Option.some.inj hc
        exact ⟨a, ha, hloaded⟩
    | _ => exact reports_notSelected _ _
  | _ => exact reports_notSelected _ _

lemma deleteCharacter_serves (req : AuthCharacterDeleteRequest) :
    (deleteCharacter req).ServesUnder (Truthful accounts E) (Backed E)
      (Reports E (.authCharacterDelete req)) := by
  have hdone : ∀ body, Reports E (.authCharacterDelete req) body :=
    reports_of_other fun _ he => by cases he
  refine withAccount_serves (hdone _) (hdone _) fun a _ => ⟨trivial, fun marked _ => ?_⟩
  cases marked with
  | rows rows =>
    change Task.ServesUnder _ _ _ (if 0 < rows then _ else _)
    split
    · exact ⟨trivial, fun _ _ => hdone _⟩
    · exact hdone _
  | _ => exact hdone _

/-- **Every handler** gives its session only to an account that the session has proved, and reports
only characters of such an account. -/
lemma handlerOf_serves {svc : AuthService} {o : Surroundings} {limited : Bool}
    {q : BackendRequest} {task : AuthTask} (h : handlerOf svc o limited q = some task)
    (ho : o.verifyPassword = verify)
    (hproved : ∀ req, q = .authLogin req → ∀ a, Proves accounts verify req a →
      E.proved req.sessionId a) :
    task.ServesUnder (Truthful accounts E) (Backed E) (Reports E q) := by
  cases q with
  | authLogin req =>
    cases h
    exact login_serves ho (hproved req rfl)
  | authLogout req =>
    cases h
    have hdone : ∀ body, Reports E (.authLogout req) body :=
      reports_of_other fun _ he => by cases he
    exact ⟨trivial, fun _ _ => hdone _⟩
  | authCharacterList sessionId =>
    cases h
    have hdone : ∀ body, Reports E (.authCharacterList sessionId) body :=
      reports_of_other fun _ he => by cases he
    refine withAccount_serves (hdone _) (hdone _) fun a _ => ⟨trivial, fun answer _ => ?_⟩
    cases answer <;> exact hdone _
  | authCharacterCreate req =>
    cases h
    have hdone : ∀ body, Reports E (.authCharacterCreate req) body :=
      reports_of_other fun _ he => by cases he
    refine withAccount_serves (hdone _) (hdone _) fun a _ => ⟨trivial, fun answer _ => ?_⟩
    cases answer with
    | character character => cases character <;> exact hdone _
    | _ => exact hdone _
  | authCharacterDelete req =>
    cases h
    exact deleteCharacter_serves req
  | authCharacterSelect req =>
    cases h
    exact selectCharacter_serves req
  | worldRoute m env => cases h

/-! ### The statements -/

section

variable {db : Database} {inet : String → Option String} {now : Time} {newId : CharacterId}

/-- No statement changes an account. -/
lemma accounts_run (query : Query) : (query.run inet now newId db).2.accounts = db.accounts := by
  cases query with
  | upsertSession sessionId accountId gatewayNode remoteIp expiresAt =>
    simp only [Query.run]
    split
    · next db' hok =>
      obtain ⟨ip, node, -, -, -, hup⟩ := upsertSession_eq_ok_iff.mp hok
      obtain ⟨sessions, rfl⟩ := hup.others
      rfl
    · rfl
  | createCharacter accountId params =>
    simp only [Query.run]
    split
    · next character db' hok =>
      obtain ⟨-, name, slot, m, characters, -, -, -, -, -, rfl⟩ :=
        createCharacter_eq_ok_iff.mp hok
      rfl
    · rfl
    · rfl
  | findAccountForLogin | closeSession | getSessionAccount | listCharacters | markDeleted
  | unbindSessions | loadCharacter | bindSession => rfl

/-- A character keeps its account. -/
lemma owned_run {c : CharacterId} {a : AccountId}
    (h : ∃ row ∈ db.characters.rows, row.id = c ∧ row.accountId = a) (query : Query) :
    ∃ row ∈ (query.run inet now newId db).2.characters.rows, row.id = c ∧ row.accountId = a := by
  obtain ⟨row, hrow, hid, hacc⟩ := h
  cases query with
  | upsertSession sessionId accountId gatewayNode remoteIp expiresAt =>
    simp only [Query.run]
    split
    · next db' hok =>
      obtain ⟨ip, node, -, -, -, hup⟩ := upsertSession_eq_ok_iff.mp hok
      obtain ⟨sessions, rfl⟩ := hup.others
      exact ⟨row, hrow, hid, hacc⟩
    · exact ⟨row, hrow, hid, hacc⟩
  | createCharacter accountId params =>
    simp only [Query.run]
    split
    · next character db' hok =>
      obtain ⟨-, name, slot, m, characters, -, -, -, hins, -, rfl⟩ :=
        createCharacter_eq_ok_iff.mp hok
      refine ⟨row, ?_, hid, hacc⟩
      rw [(Table.insert_eq_some_iff.mp hins).2]
      exact List.mem_append_left _ hrow
    · exact ⟨row, hrow, hid, hacc⟩
    · exact ⟨row, hrow, hid, hacc⟩
  | markDeleted accountId characterId =>
    change ∃ row ∈ (db.markDeleted now accountId characterId).2.characters.rows, _
    rw [rows_markDeleted, Table.exists_updated_iff]
    refine ⟨row, hrow, ?_⟩
    cases deletes accountId characterId row
    · exact .inr ⟨rfl, hid, hacc⟩
    · exact .inl ⟨rfl, hid, hacc⟩
  | findAccountForLogin | closeSession | getSessionAccount | listCharacters | unbindSessions
  | loadCharacter | bindSession => exact ⟨row, hrow, hid, hacc⟩

/-- The sessions that a statement leaves have the accounts that they had, but for one that a login
has given to another. -/
lemma sessions_run {P : SessionId → AccountId → Prop} {query : Query}
    (hold : ∀ row ∈ db.sessions.rows, ∀ a, row.accountId = some a → P row.id a)
    (hquery : ∀ s a node ip expiresAt, query = .upsertSession s a node ip expiresAt → P s a) :
    ∀ row ∈ (query.run inet now newId db).2.sessions.rows, ∀ a, row.accountId = some a →
      P row.id a := by
  have hupdate : ∀ (p : SessionRow → Bool) (f : SessionRow → SessionRow),
      (∀ row, (f row).id = row.id ∧ (f row).accountId = row.accountId) →
      ∀ row ∈ db.sessions.rows.map (fun row => if p row then f row else row),
        ∀ a, row.accountId = some a → P row.id a := by
    intro p f hf
    refine (Table.forall_updated_iff hold).mpr fun row hrow _ a ha => ?_
    rw [(hf row).2] at ha
    rw [(hf row).1]
    exact hold row hrow a ha
  cases query with
  | upsertSession sessionId accountId gatewayNode remoteIp expiresAt =>
    have hown := hquery _ _ _ _ _ rfl
    simp only [Query.run]
    split
    · next db' hok =>
      obtain ⟨ip, node, -, -, -, hup⟩ := upsertSession_eq_ok_iff.mp hok
      by_cases hknown : ∃ s ∈ db.sessions.rows, s.id = sessionId
      · rw [hup.known hknown]
        refine (Table.forall_updated_iff hold).mpr fun row _ hid a ha => ?_
        rw [beq_iff_eq] at hid
        obtain rfl : accountId = a := Option.some.inj ha
        show P row.id accountId
        rw [hid]
        exact hown
      · rw [hup.new hknown]
        intro row hrow a ha
        rcases List.mem_append.mp hrow with hrow | hrow
        · exact hold row hrow a ha
        · obtain rfl := List.mem_singleton.mp hrow
          obtain rfl : accountId = a := Option.some.inj ha
          exact hown
    · exact hold
  | createCharacter accountId params =>
    simp only [Query.run]
    split
    · next character db' hok =>
      obtain ⟨-, name, slot, m, characters, -, -, -, -, -, rfl⟩ :=
        createCharacter_eq_ok_iff.mp hok
      exact hold
    · exact hold
    · exact hold
  | closeSession | unbindSessions | bindSession => exact hupdate _ _ fun _ => ⟨rfl, rfl⟩
  | findAccountForLogin | getSessionAccount | listCharacters | markDeleted | loadCharacter =>
    exact hold

/-- **The database answers truly.** -/
lemma truthful_run {accounts : Accounts} {E : Facts} (query : Query) (haccounts : db.accounts =
    accounts) (hproved : ∀ row ∈ db.sessions.rows, ∀ a, row.accountId = some a → E.proved row.id a)
    (howned : ∀ c a, (∃ row ∈ db.characters.rows, row.id = c ∧ row.accountId = a) → E.owned c a) :
    Truthful accounts E query (query.run inet now newId db).1 := by
  cases query with
  | findAccountForLogin username =>
    change Truthful accounts E _ (.account (db.findAccountForLogin username))
    rcases hfind : db.findAccountForLogin username with _ | record
    · trivial
    obtain ⟨row, hrow, rfl⟩ := Option.map_eq_some_iff.mp hfind
    refine ⟨row, ?_, ?_, rfl⟩
    · rw [← haccounts]
      exact List.mem_of_find?_eq_some hrow
    · simpa using List.find?_some hrow
  | getSessionAccount sessionId =>
    change Truthful accounts E _ (.sessionAccount (db.getSessionAccount sessionId))
    rcases hget : db.getSessionAccount sessionId with _ | a
    · trivial
    obtain ⟨row, hrow, ha⟩ := Option.bind_eq_some_iff.mp hget
    have hid := List.find?_some hrow
    rw [Bool.and_eq_true, beq_iff_eq] at hid
    have hown := hproved row (List.mem_of_find?_eq_some hrow) a ha
    rw [hid.1] at hown
    exact hown
  | loadCharacter accountId characterId =>
    change Truthful accounts E _ (.character (db.loadCharacter accountId characterId))
    rcases hload : db.loadCharacter accountId characterId with _ | character
    · trivial
    obtain ⟨row, hrow, rfl⟩ := Option.map_eq_some_iff.mp hload
    have hrest := List.find?_some hrow
    rw [Bool.and_eq_true, Bool.and_eq_true, beq_iff_eq] at hrest
    exact howned row.id accountId ⟨row, List.mem_of_find?_eq_some hrow, rfl, hrest.1.1⟩
  | listCharacters | upsertSession | closeSession | createCharacter | markDeleted | unbindSessions
  | bindSession => trivial

end

/-! ### Runs -/

/-- The router has made the request. -/
def Asked (g : Gateway) (q : BackendRequest) : Prop :=
  (∃ r, (q, r) ∈ g.exchanges) ∨ ∃ c k, g.current = some (c, .call q k)

variable {parseStr : String → Option Uuid} {packetMaxPayload : ℕ}

lemma asked_gateway {g g' : Gateway} {b : GatewaySystem.Action} {q : BackendRequest}
    (h : GatewaySystem.step parseStr packetMaxPayload g b = some g') (hq : Asked g q) :
    Asked g' q := by
  by_cases hb : ∃ r, b = .reply r
  · obtain ⟨r, rfl⟩ := hb
    cases GatewaySteps.step_cases h with
    | task _ ht => cases ht
    | queue _ hq => cases hq
    | @reply c q' k hc =>
      rcases hq with ⟨r', hin⟩ | ⟨c', k', hc'⟩
      · exact .inl ⟨r', List.mem_append_left _ hin⟩
      · rw [hc] at hc'
        cases hc'
        exact .inl ⟨r, List.mem_append_right _ List.mem_cons_self⟩
  · have hb : ∀ r, b ≠ .reply r := fun r he => hb ⟨r, he⟩
    rcases hq with ⟨r', hin⟩ | ⟨c', k', hc'⟩
    · refine .inl ⟨r', ?_⟩
      rwa [GatewaySteps.exchanges_eq hb (GatewaySteps.step_cases h)]
    · exact .inr ⟨c', k', (waiting_step hb h hc').trans hc'⟩

section

variable (db₀ : Database) (verify : String → String → Except String Bool)

/-- A session has proved the accounts that the logins asked for it prove; nothing is asked of the
sessions that were there before the gateway. -/
def facts (d : Deployment) : Facts where
  proved s a := (∃ row ∈ db₀.sessions.rows, row.id = s) ∨
    ∃ req, Asked d.gateway (.authLogin req) ∧ req.sessionId = s ∧ Proves db₀.accounts verify req a
  owned c a := ∃ row ∈ d.db.characters.rows, row.id = c ∧ row.accountId = a

structure Honest (d : Deployment) : Prop where
  accounts : d.db.accounts = db₀.accounts
  late : ∀ q ∈ d.late, Asked d.gateway q
  sessions : ∀ row ∈ d.db.sessions.rows, ∀ a, row.accountId = some a →
    (facts db₀ verify d).proved row.id a
  handlers : ∀ i r, d.handlers.lookup i = some r → ∀ E, (facts db₀ verify d).Within E →
    r.task.ServesUnder (Truthful db₀.accounts E) (Backed E) (Reports E r.request)
  exchanges : ∀ q status body, (q, HttpReply.response status body) ∈ d.gateway.exchanges →
    Reports (facts db₀ verify d) q body

/-- The passwords are all verified in the same way. -/
def Verifies (_ : Deployment) (a : GatewayAndAuth.Action) : Prop :=
  match a with
  | .arrive o _ | .arriveLate _ o _ => o.verifyPassword = verify
  | _ => True

end

variable {db₀ : Database} {svc : AuthService} {inet : String → Option String}
  {d d' : Deployment} {a : GatewayAndAuth.Action}

lemma asked_step (h : Step parseStr packetMaxPayload svc inet d a d') {q : BackendRequest}
    (hq : Asked d.gateway q) : Asked d'.gateway q := by
  rcases gateway_step h with hsame | ⟨b, hb⟩
  · rwa [hsame]
  · exact asked_gateway hb hq

/-- What is known stays so. -/
lemma facts_step (h : Step parseStr packetMaxPayload svc inet d a d') :
    (facts db₀ verify d).Within (facts db₀ verify d') := by
  refine ⟨fun s acc hproved => ?_, fun c acc howned => ?_⟩
  · rcases hproved with hold | ⟨req, hreq, hrest⟩
    · exact .inl hold
    · exact .inr ⟨req, asked_step h hreq, hrest⟩
  · cases h with
    | execute => exact owned_run howned _
    | gateway | worldReply | arrive | arriveLate | answer | giveUp | lose | fail | timeout | drop =>
      exact howned

lemma truthful_failed (query : Query) (text : String) :
    Truthful accounts E query (.failed text) := by
  cases query <;> trivial

lemma Reports.mono {E' : Facts} {q : BackendRequest} {body : Body} (h : Reports E q body)
    (hE : E.Within E') : Reports E' q body := by
  intro req response c hq hbody hc
  obtain ⟨acc, hproved, howned⟩ := h req response c hq hbody hc
  exact ⟨acc, hE.proved _ _ hproved, hE.owned _ _ howned⟩

/-- A handler that a request has started. -/
lemma started_serves {q : BackendRequest} {o : Surroundings} {limited : Bool} {task : AuthTask}
    (hq : Asked d.gateway q) (htask : handlerOf svc o limited q = some task)
    (ho : o.verifyPassword = verify) (hE : (facts db₀ verify d).Within E) :
    task.ServesUnder (Truthful db₀.accounts E) (Backed E) (Reports E q) := by
  refine handlerOf_serves htask ho fun req he acc hproves => hE.proved _ _ (.inr ?_)
  rw [he] at hq
  exact ⟨req, hq, rfl, hproves⟩

lemma reports_timeout {q : BackendRequest} {body : Body} (h : timeoutBody q = some body) :
    Reports E q body := by
  refine reports_of_other (fun req he => ?_) body
  rw [he] at h
  cases h

/-- A handler goes on with an answer. -/
lemma Honest.answered (hd : Honest db₀ verify d) {i : ℕ} {q : BackendRequest} {query : Query}
    {k : Answer → AuthTask} (hl : d.handlers.lookup i = some ⟨q, .call query k⟩)
    (hE : (facts db₀ verify d).Within E) {answer : Answer}
    (hanswer : Truthful db₀.accounts E query answer) :
    (k answer).ServesUnder (Truthful db₀.accounts E) (Backed E) (Reports E q) :=
  (hd.handlers i _ hl E hE).2 answer hanswer

lemma honest_handlers (hd : Honest db₀ verify d) (ha : Verifies verify d a)
    (h : Step parseStr packetMaxPayload svc inet d a d') {i : ℕ} {r : Running}
    (hl : d'.handlers.lookup i = some r) (hE : (facts db₀ verify d').Within E) :
    r.task.ServesUnder (Truthful db₀.accounts E) (Backed E) (Reports E r.request) := by
  have hE₀ : (facts db₀ verify d).Within E := (facts_step h).trans hE
  cases h with
  | gateway | worldReply | giveUp | lose => exact hd.handlers i r hl E hE₀
  | answer | drop => exact hd.handlers i r (FMap.lookup_of_erase hl).2 E hE₀
  | arrive hc _ htask =>
    rcases FMap.lookup_insert_cases hl with ⟨-, rfl⟩ | ⟨-, hl⟩
    · exact started_serves (.inr ⟨_, _, hc⟩) htask ha hE₀
    · exact hd.handlers i r hl E hE₀
  | arriveLate hq htask =>
    rcases FMap.lookup_insert_cases hl with ⟨-, rfl⟩ | ⟨-, hl⟩
    · exact started_serves (hd.late _ hq) htask ha hE₀
    · exact hd.handlers i r hl E hE₀
  | @execute j now newId seen q query k hj =>
    rcases FMap.lookup_insert_cases hl with ⟨-, rfl⟩ | ⟨-, hl⟩
    · refine hd.answered hj hE₀ ?_
      cases seen
      · exact truthful_failed _ _
      · exact truthful_run query hd.accounts
          (fun row hrow acc hacc => hE₀.proved _ _ (hd.sessions row hrow acc hacc))
          fun c acc howned => hE₀.owned _ _ howned
    · exact hd.handlers i r hl E hE₀
  | @fail j text q query k hj =>
    rcases FMap.lookup_insert_cases hl with ⟨-, rfl⟩ | ⟨-, hl⟩
    · exact hd.answered hj hE₀ (truthful_failed _ _)
    · exact hd.handlers i r hl E hE₀
  | timeout hj hbody =>
    rcases FMap.lookup_insert_cases hl with ⟨-, rfl⟩ | ⟨-, hl⟩
    · exact reports_timeout hbody
    · exact hd.handlers i r hl E hE₀

lemma honest_exchanges (hs : Served d) (hd : Honest db₀ verify d)
    (h : Step parseStr packetMaxPayload svc inet d a d') {q : BackendRequest} {status : ℕ}
    {body : Body} (hin : (q, HttpReply.response status body) ∈ d'.gateway.exchanges) :
    Reports (facts db₀ verify d') q body := by
  have hE : (facts db₀ verify d).Within (facts db₀ verify d') := facts_step h
  have hold : (q, HttpReply.response status body) ∈ d.gateway.exchanges →
      Reports (facts db₀ verify d') q body := fun hin => (hd.exchanges q status body hin).mono hE
  cases h with
  | arrive | arriveLate | execute | fail | timeout | drop => exact hold hin
  | gateway hb hg =>
    dsimp only at hin
    rw [GatewaySteps.exchanges_eq hb (GatewaySteps.step_cases hg)] at hin
    exact hold hin
  | worldReply hc hg =>
    rw [GatewaySteps.reply_eq hc hg] at hin
    rcases List.mem_append.mp hin with hin | hin
    · exact hold hin
    · cases List.mem_singleton.mp hin
      exact reports_of_other (fun _ he => by cases he) body
  | @answer i q' body' g hserving hl hg =>
    obtain ⟨c, q'', k, task, hc, hl'⟩ := hs.serving i hserving
    rw [hl] at hl'
    cases hl'
    rw [GatewaySteps.reply_eq hc hg] at hin
    rcases List.mem_append.mp hin with hin | hin
    · exact hold hin
    · cases List.mem_singleton.mp hin
      exact hd.handlers i _ hl _ hE
  | giveUp hc _ hg | lose hc _ hg =>
    rw [GatewaySteps.reply_eq hc hg] at hin
    rcases List.mem_append.mp hin with hin | hin
    · exact hold hin
    · cases List.mem_singleton.mp hin

lemma honest_step (hs : Served d) (hd : Honest db₀ verify d) (ha : Verifies verify d a)
    (h : Step parseStr packetMaxPayload svc inet d a d') : Honest db₀ verify d' where
  accounts := by
    cases h with
    | execute => exact (accounts_run _).trans hd.accounts
    | gateway | worldReply | arrive | arriveLate | answer | giveUp | lose | fail | timeout | drop =>
      exact hd.accounts
  late q hq := by
    have hold : q ∈ d.late → Asked d'.gateway q := fun hq => asked_step h (hd.late q hq)
    cases h with
    | @lose c q' k g hc _ hg =>
      rcases List.mem_cons.mp hq with rfl | hq
      · exact asked_gateway hg (.inr ⟨_, _, hc⟩)
      · exact hold hq
    | arriveLate => exact hold (List.mem_of_mem_erase hq)
    | gateway | worldReply | arrive | answer | giveUp | execute | fail | timeout | drop =>
      exact hold hq
  sessions := by
    have hE : (facts db₀ verify d).Within (facts db₀ verify d') := facts_step h
    have hold : ∀ row ∈ d.db.sessions.rows, ∀ acc, row.accountId = some acc →
        (facts db₀ verify d').proved row.id acc := fun row hrow acc hacc =>
      hE.proved _ _ (hd.sessions row hrow acc hacc)
    cases h with
    | @execute i now newId seen q query k hl =>
      refine sessions_run hold ?_
      rintro s acc node ip expiresAt rfl
      exact hE.proved _ _ (hd.handlers i _ hl _ (Facts.Within.refl _)).1
    | gateway | worldReply | arrive | arriveLate | answer | giveUp | lose | fail | timeout | drop =>
      exact hold
  handlers i r hl E hE := honest_handlers hd ha h hl hE
  exchanges q status body hin := honest_exchanges hs hd h hin

theorem honest_of_reached (h : (system parseStr packetMaxPayload svc inet db₀).ReachedBy
    (Verifies verify) d) : Honest db₀ verify d := by
  refine h.invariant_of (Honest db₀ verify) (J := Served) (fun hd => served_of_reached hd) ?_ ?_
  · rintro d rfl
    refine ⟨rfl, fun q hq => ?_, fun row hrow acc hacc => .inl ⟨row, hrow, rfl⟩, fun i r hl => ?_,
      fun q status body hin => ?_⟩
    · cases hq
    · cases hl
    · cases hin
  · intro d a d' hs _ hd ha hst
    exact honest_step hs hd ha (step_cases hst)

lemma response_of_characterSelect {r : HttpReply} {body : AuthCharacterSelectResponse}
    (h : r.characterSelect = some body) :
    ∃ status, r = .response status (.characterSelect body) := by
  unfold HttpReply.characterSelect at h
  split at h
  · next body' hbody =>
    obtain rfl := Option.some.inj h
    unfold HttpReply.body at hbody
    split at hbody
    · next status body'' =>
      split at hbody
      · exact ⟨status, by rw [hbody]⟩
      · cases hbody
    · cases hbody
  · cases h

/-- **Whose characters are played.** In every run of the gateway, the authentication service and its
database, whatever is lost, given up, late or interleaved: a session that the gateway has begun is
only ever given to an account whose password a login of that very session has proved; and what the
router names to the world for a session is a character that belongs to an account whose password a
login of that very session has proved. -/
theorem played_by_owner (h : (system parseStr packetMaxPayload svc inet db₀).ReachedBy
    (Verifies verify) d) :
    (∀ row ∈ d.db.sessions.rows, (∀ old ∈ db₀.sessions.rows, old.id ≠ row.id) →
      ∀ acc, row.accountId = some acc → ∃ req, Asked d.gateway (.authLogin req) ∧
        req.sessionId = row.id ∧ Proves db₀.accounts verify req acc) ∧
    ∀ pre m env c, PostedAfter d.gateway pre (.worldRoute m env) → env.characterId = some c →
      (∀ old ∈ db₀.sessions.rows, old.id ≠ env.sessionId) →
      ∃ row ∈ d.db.characters.rows, row.id = c ∧ ∃ req, Asked d.gateway (.authLogin req) ∧
        req.sessionId = env.sessionId ∧ Proves db₀.accounts verify req row.accountId := by
  have hd := honest_of_reached h
  refine ⟨fun row hrow hnew acc hacc => ?_, fun pre m env c hpost hc hnew => ?_⟩
  · rcases hd.sessions row hrow acc hacc with ⟨old, hold, hid⟩ | hproved
    · exact absurd hid (hnew old hold)
    · exact hproved
  · obtain ⟨req, r, body, hin, hs, hbody, hcid⟩ :=
      (named_of_reached (gateway_reached h.reached)).posted pre _ hpost m env c rfl hc
    have hin' : (BackendRequest.authCharacterSelect req, r) ∈ d.gateway.exchanges := by
      rcases hpost with ⟨r', post, he⟩ | ⟨he, -⟩
      · rw [he]
        exact List.mem_append_left _ hin
      · rwa [he]
    obtain ⟨status, rfl⟩ := response_of_characterSelect hbody
    obtain ⟨acc, hproved, row, hrow, hid, hacc⟩ :=
      hd.exchanges _ _ _ hin' req body c rfl rfl hcid
    rw [hs] at hproved
    rcases hproved with ⟨old, hold, hid'⟩ | hproved
    · exact absurd hid' (hnew old hold)
    · rw [← hacc] at hproved
      exact ⟨row, hrow, hid, hproved⟩

/-- A session logs in, selects the character of its account and enters the world. -/
def entering (s : SessionId) : List GatewayAndAuth.Action :=
  loggedIn s 0 ++ selected s 1 ++ taken s enterWorldFrame ++ [.gateway .sync]

/-- The account is the one that has logged in. -/
theorem played_by_owner_entering : ∃ d, playedSystem.Reached d ∧
    posting d.gateway = some (.worldRoute 1 ⟨.fill 7, some (.fill 5), .enterWorld⟩) ∧
    ∃ row ∈ d.db.characters.rows, row.id = .fill 5 ∧ ∃ req,
      Asked d.gateway (.authLogin req) ∧ req.sessionId = .fill 7 ∧
        Proves played.accounts (fun _ _ => .error "malformed") req row.accountId := by
  obtain ⟨d, hexec, hpost⟩ : ∃ d,
      playedSystem.exec (fun _ _ => True) (start played) (entering (.fill 7)) = some d ∧
        posting d.gateway = some (.worldRoute 1 ⟨.fill 7, some (.fill 5), .enterWorld⟩) := by
    have h : (playedSystem.exec (fun _ _ => True) (start played) (entering (.fill 7))).any
        (fun d => decide (posting d.gateway =
          some (.worldRoute 1 ⟨.fill 7, some (.fill 5), .enterWorld⟩))) = true := by
      decide +kernel
    obtain ⟨d, hd, hp⟩ := (Option.any_eq_true _ _).mp h
    exact ⟨d, hd, of_decide_eq_true hp⟩
  have hverifies : ∀ a ∈ entering (.fill 7), ∀ u,
      Verifies (fun _ _ => .error "malformed") u a := by
    simp [entering, loggedIn, selected, taken, handled, Verifies, surroundings]
  have hd := (System.ReachedBy.init (S := playedSystem) (C := Verifies fun _ _ =>
    .error "malformed") rfl).exec_of_forall hverifies hexec
  obtain ⟨-, hworld⟩ := played_by_owner hd
  obtain ⟨row, hrow, hid, hreq⟩ := hworld _ _ _ (.fill 5) (postedAfter_of_posting hpost) rfl
    fun old hold => by cases hold
  exact ⟨d, hd.reached, hpost, row, hrow, hid, hreq⟩

end HelbreathBackend.CharacterOwners
