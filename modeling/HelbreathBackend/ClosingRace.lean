import HelbreathBackend.CharacterSlots
import HelbreathBackend.EarlyRemoval
import HelbreathBackend.GatewayAndAuth

/-!
A login that is still running when the session is closed.

A session stays closed in every run in which no statement opens it after its closing, and in which
its closing is not left out while it is open. A login that the router has given up is not bound to
either.
-/

namespace HelbreathBackend.ClosingRace

open HelbreathBackend.Lib HelbreathBackend.Lib.Contract HelbreathBackend.Domain
open HelbreathBackend.Infrastructure HelbreathBackend.Infrastructure.Database
open HelbreathBackend.Auth HelbreathBackend.AuthHandlers HelbreathBackend.Gateway
open HelbreathBackend.Frame
open HelbreathBackend.Gateway.Router HelbreathBackend.Grants HelbreathBackend.GatewayAndAuth
open HelbreathBackend.Application (InternalCommand)
open HelbreathBackend.GatewaySystem (Gateway)
open HelbreathBackend.GatewayTrace (SentBy)
open HelbreathBackend.EarlyRemoval (leaves)

/-! ### Statements -/

/-- The session has a row that is not closed. -/
def IsOpen (db : Database) (s : SessionId) : Prop :=
  ∃ row ∈ db.sessions.rows, row.id = s ∧ row.state ≠ "closed"

instance (db : Database) (s : SessionId) : Decidable (IsOpen db s) :=
  inferInstanceAs (Decidable (∃ row ∈ db.sessions.rows, row.id = s ∧ row.state ≠ "closed"))

/-- The session a statement opens. -/
def opens : Query → List SessionId
  | .upsertSession sessionId .. => [sessionId]
  | _ => []

section

variable {db : Database} {s : SessionId}

lemma isOpen_of_upserted {now : Time} {sessionId : SessionId} {accountId : AccountId}
    {node ip : String} {expiresAt : Time} {db' : Database}
    (hup : Upserted db now sessionId accountId node ip expiresAt db') (h : IsOpen db' s) :
    s = sessionId ∨ IsOpen db s := by
  by_cases hknown : ∃ row ∈ db.sessions.rows, row.id = sessionId
  · rw [IsOpen, hup.known hknown, Table.exists_updated_iff] at h
    obtain ⟨row, hrow, ⟨hp, he, -⟩ | ⟨-, hopen⟩⟩ := h
    · exact .inl (he.symm.trans (beq_iff_eq.mp hp))
    · exact .inr ⟨row, hrow, hopen⟩
  · simp only [IsOpen, hup.new hknown, List.mem_append, List.mem_singleton] at h
    obtain ⟨row, hrow | rfl, he, hopen⟩ := h
    · exact .inr ⟨row, hrow, he, hopen⟩
    · exact .inl he.symm

/-- **A session that is open after a statement** has been opened by it, or was open before and is
not closed by it. -/
theorem isOpen_of_run {inet : String → Option String} {now : Time} {newId : CharacterId}
    {query : Query} (h : IsOpen (query.run inet now newId db).2 s) :
    s ∈ opens query ∨ IsOpen db s ∧ s ∉ closes query := by
  cases query with
  | upsertSession sessionId accountId gatewayNode remoteIp expiresAt =>
    simp only [Query.run] at h
    split at h
    · next db' hok =>
      obtain ⟨ip, node, -, -, -, hup⟩ := upsertSession_eq_ok_iff.mp hok
      rcases isOpen_of_upserted hup h with rfl | hopen
      · exact .inl (List.mem_singleton.mpr rfl)
      · exact .inr ⟨hopen, List.not_mem_nil⟩
    · exact .inr ⟨h, List.not_mem_nil⟩
  | closeSession sessionId =>
    obtain ⟨row, hrow, ⟨-, -, hopen⟩ | ⟨hp, he, hopen⟩⟩ := Table.exists_updated_iff.mp h
    · exact absurd rfl hopen
    · refine .inr ⟨⟨row, hrow, he, hopen⟩, fun hs => (beq_eq_false_iff_ne.mp hp) ?_⟩
      exact he.trans (List.mem_singleton.mp hs)
  | createCharacter accountId params =>
    refine .inr ⟨?_, List.not_mem_nil⟩
    simp only [Query.run] at h
    split at h
    · next character db' hok =>
      obtain ⟨-, name, slot, m, characters, -, -, -, -, -, rfl⟩ := createCharacter_eq_ok_iff.mp hok
      exact h
    · exact h
    · exact h
  | unbindSessions =>
    obtain ⟨row, hrow, ⟨-, hopen⟩ | ⟨-, hopen⟩⟩ := Table.exists_updated_iff.mp h
    · exact .inr ⟨⟨row, hrow, hopen⟩, List.not_mem_nil⟩
    · exact .inr ⟨⟨row, hrow, hopen⟩, List.not_mem_nil⟩
  | bindSession =>
    obtain ⟨row, hrow, ⟨hp, he, -⟩ | ⟨-, hopen⟩⟩ := Table.exists_updated_iff.mp h
    · simp only [binds, Bool.and_eq_true, bne_iff_ne] at hp
      exact .inr ⟨⟨row, hrow, he, hp.2⟩, List.not_mem_nil⟩
    · exact .inr ⟨⟨row, hrow, hopen⟩, List.not_mem_nil⟩
  | findAccountForLogin | getSessionAccount | listCharacters | markDeleted | loadCharacter =>
    exact .inr ⟨h, List.not_mem_nil⟩

end

/-! ### The condition -/

/-- The session that the next statement of a handler opens. -/
def nextOpens : AuthTask → List SessionId
  | .call q _ => opens q
  | _ => []

/-- A handler is about to close the session. -/
def Pending (handlers : FMap ℕ Running) (s : SessionId) : Prop :=
  handlers.HasValue fun r => s ∈ nextCloses r.task

instance (handlers : FMap ℕ Running) (s : SessionId) : Decidable (Pending handlers s) :=
  inferInstanceAs (Decidable (handlers.HasValue _))

section

variable (d : Deployment)

/-- The session that a step opens. -/
def opened : Action → List SessionId
  | .execute i .. => ((d.handlers.lookup i).map fun r => nextOpens r.task).getD []
  | _ => []

/-- The session whose closing a step leaves out. -/
def leftOpen : Action → List SessionId
  | .fail i _ | .timeout i | .drop i =>
    ((d.handlers.lookup i).map fun r => nextCloses r.task).getD []
  | .giveUp =>
    match d.serving, d.gateway.current with
    | none, some (_, .call q _) => logoutOf q
    | _, _ => []
  | _ => []

/-- The handlers that a step has nothing to do with. -/
def others : Action → FMap ℕ Running
  | .fail i _ | .timeout i | .drop i => d.handlers.erase i
  | _ => d.handlers

/-- A session is not opened after its closing, and not left open instead of its closing, unless
another handler is about to close it. -/
def Timely (a : Action) : Prop :=
  (∀ s ∈ opened d a, s ∈ d.passed → Pending d.handlers s) ∧
    ∀ s ∈ leftOpen d a, IsOpen d.db s → Pending (others d a) s

instance (a : Action) : Decidable (Timely d a) :=
  inferInstanceAs (Decidable ((∀ s ∈ opened d a, _) ∧ ∀ s ∈ leftOpen d a, _))

/-- The commands that the router has done with. -/
def processed (g : Gateway) : List InternalCommand :=
  match g.current with
  | some _ => g.handled.dropLast
  | none => g.handled

/-- No handler of a request for the session is running. -/
def Finished (s : SessionId) : Prop :=
  ¬ d.handlers.HasValue fun r => sessionOf r.request = s

instance (s : SessionId) : Decidable (Finished d s) :=
  inferInstanceAs (Decidable (¬ d.handlers.HasValue _))

end

/-! ### Closings -/

variable {parseStr : String → Option Uuid} {packetMaxPayload : ℕ} {svc : AuthService}
  {inet : String → Option String} {db : Database} {d d' : Deployment} {a : Action}
  {s : SessionId}

lemma pending_iff {handlers : FMap ℕ Running} :
    Pending handlers s ↔ ∃ i r, handlers.lookup i = some r ∧ s ∈ nextCloses r.task :=
  FMap.hasValue_iff.trans (by simp only [decide_eq_true_eq])

/-- The closing of the session is through, or a handler is about to do it. -/
def Settled (d : Deployment) (s : SessionId) : Prop := s ∈ d.passed ∨ Pending d.handlers s

lemma settled_step (hd : Served d) (h : Step parseStr packetMaxPayload svc inet d a d')
    (hs : Settled d s) : Settled d' s := by
  rcases hs with hs | hs
  · exact .inl (passed_step h hs)
  · obtain ⟨i, r, hl, hr⟩ := pending_iff.mp hs
    rcases handler_kept h hd.fresh hl with hl | hpassed
    · exact .inr (pending_iff.mpr ⟨i, r, hl, hr⟩)
    · exact .inl (hpassed s hr)

/-- The logouts that have been asked for close their sessions, and no other handler does. -/
structure Tracked (d : Deployment) : Prop where
  own : ∀ i r, d.handlers.lookup i = some r →
    r.task.Asks fun q => ∀ s ∈ closes q, sessionOf r.request = s
  logout : ∀ i r s, d.handlers.lookup i = some r → r.request = .authLogout ⟨s⟩ →
    s ∈ d.passed ∨ s ∈ nextCloses r.task
  replied : ∀ s reply, (BackendRequest.authLogout ⟨s⟩, reply) ∈ d.gateway.exchanges → Settled d s

lemma asks_withAccount {P : Query → Prop} {sessionId : SessionId} {invalid failed : Body}
    {work : AccountId → AuthTask}
    (h : P (.getSessionAccount sessionId)) (hw : ∀ accountId, (work accountId).Asks P) :
    (withAccount sessionId invalid failed work).Asks P := by
  refine ⟨h, fun answer => ?_⟩
  cases answer with
  | sessionAccount accountId =>
    rcases accountId with _ | accountId
    · trivial
    · exact hw accountId
  | _ => trivial

lemma asks_validateCredentials {o : Surroundings} {sessionId : SessionId}
    {username password remoteIp : String} :
    (validateCredentials svc o sessionId username password remoteIp).Asks
      fun query => closes query = [] := by
  refine ⟨rfl, fun found => ?_⟩
  cases found with
  | account account =>
    rcases account with _ | account
    · trivial
    change Task.Asks _ (if account.status ≠ .active then _ else _)
    split
    · trivial
    rcases passwordOk o account.username account.passwordHash password with err | ok
    · cases err <;> trivial
    cases ok with
    | false => trivial
    | true =>
      dsimp only
      rcases defaultSessionExpiry o svc.sessionTtlSeconds with _ | expiresAt
      · trivial
      · refine ⟨rfl, fun answer => ?_⟩
        cases answer <;> trivial
  | _ => trivial

lemma asks_login {o : Surroundings} {limited : Bool} {req : AuthLoginRequest} :
    (login svc o limited req).Asks fun query => closes query = [] := by
  unfold login
  split
  · trivial
  · exact asks_validateCredentials

/-- Handlers close a session only for a logout. -/
lemma handlerOf_asks {o : Surroundings} {limited : Bool} {q : BackendRequest} {task : AuthTask}
    (h : handlerOf svc o limited q = some task) :
    task.Asks fun query => ∀ s ∈ closes query, sessionOf q = s := by
  cases q with
  | authLogin req =>
    obtain rfl := Option.some.inj h
    refine asks_login.mono fun query hnone s hs => ?_
    rw [hnone] at hs
    cases hs
  | authLogout req =>
    obtain rfl := Option.some.inj h
    refine ⟨fun s hs => (List.mem_singleton.mp hs).symm, fun _ => trivial⟩
  | authCharacterList sessionId =>
    obtain rfl := Option.some.inj h
    refine asks_withAccount (List.forall_mem_nil _) fun accountId =>
      ⟨List.forall_mem_nil _, fun answer => ?_⟩
    cases answer <;> trivial
  | authCharacterCreate req =>
    obtain rfl := Option.some.inj h
    refine asks_withAccount (List.forall_mem_nil _) fun accountId =>
      ⟨List.forall_mem_nil _, fun answer => ?_⟩
    cases answer with
    | character character => cases character <;> trivial
    | _ => trivial
  | authCharacterDelete req =>
    obtain rfl := Option.some.inj h
    refine asks_withAccount (List.forall_mem_nil _) fun accountId =>
      ⟨List.forall_mem_nil _, fun answer => ?_⟩
    cases answer with
    | rows rows =>
      change Task.Asks _ (if 0 < rows then _ else _)
      split
      · exact ⟨List.forall_mem_nil _, fun _ => trivial⟩
      · trivial
    | _ => trivial
  | authCharacterSelect req =>
    obtain rfl := Option.some.inj h
    refine asks_withAccount (List.forall_mem_nil _) fun accountId =>
      ⟨List.forall_mem_nil _, fun answer => ?_⟩
    cases answer with
    | character character =>
      rcases character with _ | character
      · trivial
      refine ⟨List.forall_mem_nil _, fun bound => ?_⟩
      cases bound with
      | rows rows =>
        change Task.Asks _ (if rows = 0 then _ else _)
        split <;> trivial
      | _ => trivial
    | _ => trivial
  | worldRoute => cases h

/-- What the exchanges are after a step: a new one is with the service that the router called. -/
lemma exchanges_step (hd : Served d) (h : Step parseStr packetMaxPayload svc inet d a d')
    {q : BackendRequest} {reply : HttpReply} (hx : (q, reply) ∈ d'.gateway.exchanges) :
    (q, reply) ∈ d.gateway.exchanges ∨ (∃ m env, q = .worldRoute m env) ∨
      (∃ i task, d.serving = some i ∧ d.handlers.lookup i = some ⟨q, task⟩) ∨
      ∀ s ∈ logoutOf q, s ∈ d'.passed := by
  have hreply : ∀ {c q₀ k r g}, d.gateway.current = some (c, .call q₀ k) →
      GatewaySystem.step parseStr packetMaxPayload d.gateway (.reply r) = some g →
      (q, reply) ∈ g.exchanges → (q, reply) ∈ d.gateway.exchanges ∨ q = q₀ := by
    intro c q₀ k r g hc hg hx
    rw [GatewaySteps.reply_eq hc hg] at hx
    rcases List.mem_append.mp hx with hx | hx
    · exact .inl hx
    · cases List.mem_singleton.mp hx
      exact .inr rfl
  cases h with
  | arrive | arriveLate | execute | fail | timeout | drop => exact .inl hx
  | gateway ha hg =>
    rw [GatewaySteps.exchanges_eq ha (GatewaySteps.step_cases hg)] at hx
    exact .inl hx
  | worldReply hc hg =>
    rcases hreply hc hg hx with hx | rfl
    · exact .inl hx
    · exact .inr (.inl ⟨_, _, rfl⟩)
  | @answer i q₁ body g hs hl hg =>
    obtain ⟨c, q₀, k, task, hc, hl'⟩ := hd.serving i hs
    rcases hreply hc hg hx with hx | rfl
    · exact .inl hx
    · exact .inr (.inr (.inl ⟨i, task, hs, hl'⟩))
  | @giveUp c q₁ k g i hc hs hg =>
    obtain ⟨c, q₀, k, task, hc, hl⟩ := hd.serving i hs
    rcases hreply hc hg hx with hx | rfl
    · exact .inl hx
    · exact .inr (.inr (.inl ⟨i, task, hs, hl⟩))
  | lose hc _ hg =>
    rcases hreply hc hg hx with hx | rfl
    · exact .inl hx
    · exact .inr (.inr (.inr fun s hs => List.mem_append_right _ hs))

lemma tracked_step (hd : Served d) (ht : Tracked d)
    (h : Step parseStr packetMaxPayload svc inet d a d') : Tracked d' where
  own i r hl := by
    rcases handler_cases h hl with hl | ⟨task, hl, hasks, -⟩ | ⟨-, -, o, limited, hq⟩
    · exact ht.own i r hl
    · exact hasks _ (ht.own i ⟨r.request, task⟩ hl)
    · exact handlerOf_asks hq
  logout i r s hl hr := by
    rcases handler_cases h hl with hl | ⟨task, hl, -, hpassed⟩ | ⟨-, -, o, limited, hq⟩
    · exact (ht.logout i r s hl hr).imp_left (passed_step h)
    · rcases ht.logout i ⟨r.request, task⟩ s hl hr with hs | hs
      · exact .inl (passed_step h hs)
      · exact .inl (hpassed s hs)
    · rw [hr] at hq
      obtain hq := Option.some.inj hq
      rw [← hq]
      exact .inr (List.mem_singleton.mpr rfl)
  replied s reply hx := by
    rcases exchanges_step hd h hx with hx | ⟨m, env, ⟨⟩⟩ | ⟨i, task, -, hl⟩ | hpassed
    · exact settled_step hd h (ht.replied s reply hx)
    · refine settled_step hd h ((ht.logout i _ s hl rfl).imp_right fun hs => ?_)
      exact pending_iff.mpr ⟨i, _, hl, hs⟩
    · exact .inl (hpassed s (List.mem_singleton.mpr rfl))

theorem tracked_of_reached (h : (system parseStr packetMaxPayload svc inet db).Reached d) :
    Tracked d := by
  refine h.invariant_of Tracked served_of_reached ?_
    fun d a d' hd _ ht _ hst => tracked_step hd ht (step_cases hst)
  rintro d rfl
  refine ⟨fun i r hl => ?_, fun i r s hl => ?_, fun s reply hx => ?_⟩
  · cases hl
  · cases hl
  · cases hx

/-- A session whose closing is through stays closed, unless it is about to be closed again. -/
def StaysClosed (d : Deployment) : Prop :=
  ∀ s ∈ d.passed, ¬ Pending d.handlers s → ¬ IsOpen d.db s

lemma pending_insert {handlers : FMap ℕ Running} {i : ℕ} {r : Running}
    (hi : ∀ r', handlers.lookup i = some r' → s ∉ nextCloses r'.task)
    (h : Pending handlers s) : Pending (handlers.insert i r) s := by
  obtain ⟨j, r', hl, hs⟩ := pending_iff.mp h
  refine pending_iff.mpr ⟨j, r', (Finmap.lookup_insert_of_ne _ ?_).trans hl, hs⟩
  rintro rfl
  exact hi r' hl hs

/-- The handler that goes on had no closing of that session before it. -/
lemma pending_insert_of {handlers : FMap ℕ Running} {i : ℕ} {r r' : Running}
    (hl : handlers.lookup i = some r) (hs : s ∉ nextCloses r.task) (h : Pending handlers s) :
    Pending (handlers.insert i r') s := by
  refine pending_insert (fun r₁ hr₁ => ?_) h
  rw [hl] at hr₁
  cases hr₁
  exact hs

lemma pending_erase {handlers : FMap ℕ Running} {i : ℕ} {r : Running}
    (hl : handlers.lookup i = some r) (hs : s ∉ nextCloses r.task) (h : Pending handlers s) :
    Pending (handlers.erase i) s := by
  obtain ⟨j, r', hl', hs'⟩ := pending_iff.mp h
  refine pending_iff.mpr ⟨j, r', (Finmap.lookup_erase_ne ?_).trans hl', hs'⟩
  rintro rfl
  cases hl.symm.trans hl'
  exact hs hs'

lemma pending_of_erase {handlers : FMap ℕ Running} {i : ℕ} (r : Running)
    (h : Pending (handlers.erase i) s) : Pending (handlers.insert i r) s := by
  obtain ⟨j, r', hl, hs⟩ := pending_iff.mp h
  obtain ⟨hne, hl⟩ := FMap.lookup_of_erase hl
  exact pending_iff.mpr ⟨j, r', (Finmap.lookup_insert_of_ne _ hne).trans hl, hs⟩

lemma closes_of_opens {query : Query} (h : s ∈ opens query) : closes query = [] := by
  cases query <;> first | rfl | cases h

/-- A closing that is left out, in a step that leaves the other handlers. -/
lemma staysClosed_leftOpen {handlers : FMap ℕ Running} {closing : List SessionId}
    (hc : StaysClosed d) (hkeep : ∀ s, s ∉ closing → Pending d.handlers s → Pending handlers s)
    (hleft : ∀ s ∈ closing, IsOpen d.db s → Pending handlers s) :
    ∀ s ∈ d.passed ++ closing, ¬ Pending handlers s → ¬ IsOpen d.db s := by
  intro s hs hp hopen
  by_cases hclosing : s ∈ closing
  · exact hp (hleft s hclosing hopen)
  · have hpassed := (List.mem_append.mp hs).resolve_right hclosing
    exact hc s hpassed (fun hpend => hp (hkeep s hclosing hpend)) hopen

theorem staysClosed_step (hd : Served d) (hc : StaysClosed d) (ha : Timely d a)
    (h : Step parseStr packetMaxPayload svc inet d a d') : StaysClosed d' := by
  cases h with
  | gateway | worldReply | giveUp => exact hc
  | arrive | arriveLate =>
    refine fun s hs hp => hc s hs fun hpend => hp (pending_insert (fun r hl => ?_) hpend)
    exact absurd (hd.fresh _ r hl) (lt_irrefl _)
  | @answer i q body g _ hl _ =>
    exact fun s hs hp => hc s hs fun hpend => hp (pending_erase hl List.not_mem_nil hpend)
  | @lose c q k g hcall hs _ =>
    refine staysClosed_leftOpen hc (fun _ _ hp => hp) fun s hq => ha.2 s ?_
    simpa [leftOpen, hs, hcall] using hq
  | @execute i now newId seen q query k hl =>
    have hkeep : ∀ s, s ∉ closes query → Pending d.handlers s →
        Pending (d.handlers.insert i ⟨q, k (if seen then (query.run inet now newId d.db).1
          else .failed "database query timed out")⟩) s :=
      fun s hs => pending_insert_of hl hs
    intro s hs hp hopen
    rcases isOpen_of_run hopen with hopens | ⟨hopen, hno⟩
    · have hnone := closes_of_opens hopens
      have hpassed : s ∈ d.passed := by simpa [hnone] using hs
      refine hp (hkeep s (by simp [hnone]) (ha.1 s ?_ hpassed))
      simpa [opened, hl, nextOpens] using hopens
    · have hpassed := (List.mem_append.mp hs).resolve_right hno
      exact hc s hpassed (fun hpend => hp (hkeep s hno hpend)) hopen
  | @fail i text q query k hl =>
    refine staysClosed_leftOpen hc (fun s hs => pending_insert_of hl hs)
      fun s hs hopen => pending_of_erase _ (ha.2 s ?_ hopen)
    simpa [leftOpen, hl, nextCloses] using hs
  | @timeout i q task body hl _ =>
    refine staysClosed_leftOpen hc (fun s hs => pending_insert_of hl hs)
      fun s hs hopen => pending_of_erase _ (ha.2 s ?_ hopen)
    simpa [leftOpen, hl] using hs
  | @drop i q task hl _ =>
    refine staysClosed_leftOpen hc (fun s hs => pending_erase hl hs)
      fun s hs hopen => ha.2 s ?_ hopen
    simpa [leftOpen, hl] using hs

/-! ### What the router has done -/

/-- No condition on what the others do, and none on what the task does. -/
def freely : Contract Gateway.Sessions BackendRequest HttpReply where
  rely _ _ := True
  guar _ _ := True
  may _ _ _ := True
  rely_refl _ := trivial
  rely_trans _ _ := trivial
  guar_refl _ := trivial

/-- The service has been asked to log the session out. -/
def AskedToClose (s : SessionId) (l : List Exchange) : Prop :=
  ∃ reply, (BackendRequest.authLogout ⟨s⟩, reply) ∈ l

lemma AskedToClose.snoc {l : List Exchange} (h : AskedToClose s l) (x : Exchange) :
    AskedToClose s (l ++ [x]) := by
  obtain ⟨reply, hr⟩ := h
  exact ⟨reply, List.mem_append_left _ hr⟩

/-- **A logout and a disconnection ask for the session to be closed**, whatever the state is and
whatever is replied. -/
lemma meets_handle {c : InternalCommand} (hby : SentBy s c) (hc : leaves c = true)
    (σ : Gateway.Sessions) (l : List Exchange) :
    freely.Meets (Router.handle c) (fun _ _ => AskedToClose s) σ l := by
  have hclose : ∀ σ l, freely.Meets (do routeAuthLogout s; removeSession s)
      (fun _ _ => AskedToClose s) σ l := by
    intro σ l
    exact meets_request fun σ' _ => ⟨trivial, fun reply =>
      meets_modify fun σ' _ => ⟨trivial, fun _ _ => ⟨reply, by simp⟩⟩⟩
  cases hby with
  | disconnection reason => exact hclose σ l
  | command cmd =>
    cases cmd with
    | logout =>
      change freely.Meets (resolveMapId s none >>= fun m => routeLogout s m) _ σ l
      refine Meets.bind (meets_read fun σ' _ => meets_pure fun σ' _ => ?_)
      refine Meets.bind (meets_read fun σ' _ => meets_request fun σ' _ => ⟨trivial, fun reply => ?_⟩)
      exact meets_pure fun σ' _ => hclose σ' _
    | _ => cases hc

/-- The router has asked to close the sessions that it has done with. -/
structure Asked (g : Gateway) : Prop where
  done : ∀ s, ∀ c ∈ processed g, SentBy s c → leaves c = true → AskedToClose s g.exchanges
  running : ∀ s c t, g.current = some (c, t) → SentBy s c → leaves c = true →
    freely.Meets t (fun _ _ => AskedToClose s) g.sessions g.exchanges
  taken : ∀ c t, g.current = some (c, t) → ∃ pre, g.handled = pre ++ [c]

lemma asked_step {g g' : Gateway} {a : GatewaySystem.Action} (hg : Asked g)
    (h : GatewaySteps.Step parseStr packetMaxPayload g a g') : Asked g' := by
  have hprocessed : ∀ {c t}, g.current = some (c, t) → processed g = g.handled.dropLast := by
    intro c t hc
    rw [processed, hc]
  cases h with
  | accept | task | queue | remove =>
    refine ⟨hg.done, fun s c t hc hby hl => ?_, hg.taken⟩
    exact (hg.running s c t hc hby hl).stable trivial
  | @recv cmd rest hc hq =>
    refine ⟨fun s c hin => ?_, ?_, ?_⟩
    · have hin : c ∈ (g.handled ++ [cmd]).dropLast := hin
      rw [List.dropLast_concat] at hin
      refine hg.done s c ?_
      rwa [processed, hc]
    · rintro s c t ⟨⟩ hby hl
      exact meets_handle hby hl _ _
    · rintro c t ⟨⟩
      exact ⟨g.handled, rfl⟩
  | @sync cmd f k hc =>
    refine ⟨fun s c hin => hg.done s c ?_, ?_, ?_⟩
    · rwa [hprocessed hc]
    · rintro s c t ⟨⟩ hby hl
      exact ((hg.running s cmd _ hc hby hl) _ trivial).2
    · rintro c t ⟨⟩
      exact hg.taken cmd _ hc
  | @reply cmd q k hc r =>
    refine ⟨fun s c hin hby hl => (hg.done s c ?_ hby hl).snoc _, ?_, ?_⟩
    · rwa [hprocessed hc]
    · rintro s c t ⟨⟩ hby hl
      exact ((hg.running s cmd _ hc hby hl) _ trivial).2 r
    · rintro c t ⟨⟩
      exact hg.taken cmd _ hc
  | @finish cmd hc =>
    refine ⟨fun s c hin hby hl => ?_, fun s c t hc' => ?_, fun c t hc' => ?_⟩
    · obtain ⟨pre, hpre⟩ := hg.taken cmd _ hc
      have hin : c ∈ g.handled := hin
      rw [hpre] at hin
      rcases List.mem_append.mp hin with hin | hin
      · refine hg.done s c ?_ hby hl
        rwa [hprocessed hc, hpre, List.dropLast_concat]
      · obtain rfl := List.mem_singleton.mp hin
        exact hg.running s c _ hc hby hl g.sessions trivial
    · cases hc'
    · cases hc'

theorem asked_of_reached {g : Gateway}
    (h : (GatewaySystem.system parseStr packetMaxPayload).Reached g) : Asked g := by
  refine h.invariant Asked ?_ fun g a g' hg _ hst => asked_step hg (GatewaySteps.step_cases hst)
  rintro g rfl
  refine ⟨fun s c hin => ?_, fun s c t hc => ?_, fun c t hc => ?_⟩
  · cases hin
  · cases hc
  · cases hc

/-! ### Runs -/

lemma staysClosed_of_timely (h : (system parseStr packetMaxPayload svc inet db).ReachedBy Timely d) :
    StaysClosed d := by
  refine h.invariant_of StaysClosed served_of_reached ?_
    fun d a d' hd _ hc ha hst => staysClosed_step hd hc ha (step_cases hst)
  rintro d rfl
  exact fun s hs => absurd hs List.not_mem_nil

/-- **A closed session stays closed**, in every run in which no statement opens it after its
closing and its closing is not left out while it is open: when the router has done with a logout
or the disconnection of the session, and no handler runs for it, it has no row but a closed one. -/
theorem closed_of_timely (h : (system parseStr packetMaxPayload svc inet db).ReachedBy Timely d)
    {c : InternalCommand} (hc : c ∈ processed d.gateway) (hby : SentBy s c)
    (hleaves : leaves c = true) (hf : Finished d s) : ¬ IsOpen d.db s := by
  have ht := tracked_of_reached h.reached
  obtain ⟨reply, hx⟩ := (asked_of_reached (gateway_reached h.reached)).done s c hc hby hleaves
  have hnone : ¬ Pending d.handlers s := by
    intro hp
    obtain ⟨i, r, hl, hs⟩ := pending_iff.mp hp
    refine hf (FMap.hasValue_iff.mpr ⟨i, r, hl, decide_eq_true ?_⟩)
    obtain ⟨q, task⟩ := r
    cases task with
    | call query k => exact (ht.own i _ hl).1 s hs
    | ret | sync => exact absurd hs List.not_mem_nil
  exact staysClosed_of_timely h s ((ht.replied s reply hx).resolve_right hnone) hnone

/-! ### Two runs -/

def smokeSystem : System Deployment Action :=
  system (fun _ => none) 65535 ⟨3600, "gw-1"⟩ some fixture

/-- A client sends its login, and the handler of the request finds the account. -/
def loginBegun : List Action :=
  [.gateway (.accept (.fill 7) "10.0.0.1"), .gateway (.read (.fill 7) smokeFrame),
    .gateway (.frame (.fill 7) true), .gateway (.send (.fill 7)), .gateway .recv, .gateway .sync,
    .gateway .sync, .arrive surroundings false, .execute 0 0 (.fill 0) true]

/-- The client closes the socket, and the router has the session closed. -/
def socketClosed : List Action :=
  [.gateway (.read (.fill 7) []), .gateway (.disconnect (.fill 7)), .gateway (.remove (.fill 7)),
    .gateway .recv, .arrive surroundings false, .execute 1 0 (.fill 0) true, .answer,
    .gateway .sync, .gateway .finish]

/-- The login is answered before the socket is closed. -/
theorem closed_of_timely_answered :
    ∃ d, smokeSystem.Reached d ∧ d.db.sessions.rows.length = 1 ∧ ¬ IsOpen d.db (.fill 7) := by
  obtain ⟨d, hd, hp⟩ := smokeSystem.exists_reachedBy Timely (s := start fixture) rfl
    (loginBegun ++ [.execute 0 0 (.fill 0) true, .answer, .gateway .sync, .gateway .finish] ++
      socketClosed)
    (fun d => InternalCommand.disconnectSession (.fill 7) "socket_closed" ∈ processed d.gateway ∧
      Finished d (.fill 7) ∧ d.db.sessions.rows.length = 1) (by decide +kernel)
  obtain ⟨hc, hf, hrows⟩ := of_decide_eq_true hp
  exact ⟨d, hd.reached, hrows, closed_of_timely hd hc (.disconnection _) rfl hf⟩

/-- The router gives the login up, the session is closed, and then the login opens it. -/
theorem late_login_reopens :
    ∃ d, smokeSystem.Reached d ∧
      InternalCommand.disconnectSession (.fill 7) "socket_closed" ∈ processed d.gateway ∧
      Finished d (.fill 7) ∧ IsOpen d.db (.fill 7) := by
  obtain ⟨d, hd, hp⟩ := smokeSystem.exists_reachedBy (fun _ _ => True) (s := start fixture) rfl
    (loginBegun ++ [.giveUp, .gateway .finish] ++ socketClosed ++
      [.execute 0 0 (.fill 0) true, .drop 0])
    (fun d => InternalCommand.disconnectSession (.fill 7) "socket_closed" ∈ processed d.gateway ∧
      Finished d (.fill 7) ∧ IsOpen d.db (.fill 7)) (by decide +kernel)
  exact ⟨d, hd, of_decide_eq_true hp⟩

end HelbreathBackend.ClosingRace
