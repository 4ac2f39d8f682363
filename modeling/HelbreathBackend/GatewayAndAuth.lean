import HelbreathBackend.AuthHandlers
import HelbreathBackend.GatewaySteps
import HelbreathBackend.RouterRun

/-!
The gateway and the authentication service together.

A request of the router starts a handler, which has the database run its statements one by one.
The router waits for the reply, or gives the request up: its handler then goes on or is dropped,
and a request that was given up on its way may arrive later. Statements of different handlers come
in any order. A statement may fail, or be run with the handler not told so.
-/

namespace HelbreathBackend.GatewayAndAuth

open HelbreathBackend.Lib HelbreathBackend.Domain HelbreathBackend.Infrastructure
open HelbreathBackend.Auth HelbreathBackend.AuthHandlers HelbreathBackend.Gateway
open HelbreathBackend.Application (InternalCommand)
open HelbreathBackend.Grants HelbreathBackend.GatewaySystem
open HelbreathBackend.GatewayTrace HelbreathBackend.Frame

/-- A handler and the request it is for. -/
structure Running where
  request : BackendRequest
  task : AuthTask

structure Deployment where
  gateway : Gateway
  db : Database
  handlers : FMap ℕ Running
  nextHandler : ℕ
  /-- the handler of the request that the router is waiting with -/
  serving : Option ℕ
  /-- requests that have been given up before they arrived -/
  late : List BackendRequest
  /-- history: the sessions of the logouts that have been given up on their way, or whose statement
  has been run or left out -/
  passed : List SessionId

inductive Action
  | gateway (a : GatewaySystem.Action)
  /-- the world service replies -/
  | worldReply (r : HttpReply)
  | arrive (o : Surroundings) (limited : Bool)
  | arriveLate (q : BackendRequest) (o : Surroundings) (limited : Bool)
  /-- the handler has returned, and its response reaches the router -/
  | answer
  | giveUp
  /-- a statement is run; where that is not seen, the handler is told that it has failed -/
  | execute (i : ℕ) (now : Time) (newId : CharacterId) (seen : Bool)
  | fail (i : ℕ) (text : String)
  /-- the handler's own time is up -/
  | timeout (i : ℕ)
  /-- a handler nobody waits for has ended or is dropped -/
  | drop (i : ℕ)

/-! ### Closings -/

/-- The session a statement closes. -/
def closes : Query → List SessionId
  | .closeSession sessionId => [sessionId]
  | _ => []

/-- The session that the next statement of a handler closes. -/
def nextCloses : AuthTask → List SessionId
  | .call q _ => closes q
  | _ => []

def logoutOf : BackendRequest → List SessionId
  | .authLogout req => [req.sessionId]
  | _ => []

/-- What `login` and `logout` respond when their time is up. -/
def timeoutBody : BackendRequest → Option Body
  | .authLogin _ => some (refused none "timeout")
  | .authLogout _ => some .other
  | _ => none

/-! ### Steps -/

section

variable (parseStr : String → Option Uuid) (packetMaxPayload : ℕ) (svc : AuthService)
  (inet : String → Option String) (db : Database)

def start : Deployment := ⟨.start, db, ∅, 0, none, [], []⟩

def stepGateway (d : Deployment) (a : GatewaySystem.Action) : Option Deployment :=
  match a with
  | .reply _ => none
  | a =>
    (GatewaySystem.step parseStr packetMaxPayload d.gateway a).map fun g => { d with gateway := g }

def worldReply (d : Deployment) (r : HttpReply) : Option Deployment :=
  match d.gateway.current with
  | some (_, .call (.worldRoute ..) _) =>
    (GatewaySystem.step parseStr packetMaxPayload d.gateway (.reply r)).map fun g =>
      { d with gateway := g }
  | _ => none

def arrive (d : Deployment) (o : Surroundings) (limited : Bool) : Option Deployment :=
  match d.gateway.current, d.serving with
  | some (_, .call q _), none =>
    (handlerOf svc o limited q).map fun task =>
      { d with
        handlers := d.handlers.insert d.nextHandler ⟨q, task⟩
        nextHandler := d.nextHandler + 1
        serving := some d.nextHandler }
  | _, _ => none

def arriveLate (d : Deployment) (q : BackendRequest) (o : Surroundings) (limited : Bool) :
    Option Deployment :=
  if q ∈ d.late then
    (handlerOf svc o limited q).map fun task =>
      { d with
        handlers := d.handlers.insert d.nextHandler ⟨q, task⟩
        nextHandler := d.nextHandler + 1
        late := d.late.erase q }
  else none

def answer (d : Deployment) : Option Deployment :=
  match d.serving with
  | some i =>
    match d.handlers.lookup i with
    | some ⟨_, .ret body⟩ =>
      (GatewaySystem.step parseStr packetMaxPayload d.gateway (.reply (.response 200 body))).map
        fun g => { d with gateway := g, handlers := d.handlers.erase i, serving := none }
    | _ => none
  | none => none

def giveUp (d : Deployment) : Option Deployment :=
  match d.gateway.current with
  | some (_, .call (.worldRoute ..) _) => none
  | some (_, .call q _) =>
    (GatewaySystem.step parseStr packetMaxPayload d.gateway (.reply .error)).map fun g =>
      match d.serving with
      | some _ => { d with gateway := g, serving := none }
      | none => { d with gateway := g, late := q :: d.late, passed := d.passed ++ logoutOf q }
  | _ => none

def execute (d : Deployment) (i : ℕ) (now : Time) (newId : CharacterId) (seen : Bool) :
    Option Deployment :=
  match d.handlers.lookup i with
  | some ⟨q, .call query k⟩ =>
    let (ans, db) := query.run inet now newId d.db
    let ans := if seen then ans else .failed "database query timed out"
    some { d with
      db := db
      handlers := d.handlers.insert i ⟨q, k ans⟩
      passed := d.passed ++ closes query }
  | _ => none

def fail (d : Deployment) (i : ℕ) (text : String) : Option Deployment :=
  match d.handlers.lookup i with
  | some ⟨q, .call query k⟩ =>
    some { d with
      handlers := d.handlers.insert i ⟨q, k (.failed text)⟩
      passed := d.passed ++ closes query }
  | _ => none

def timeout (d : Deployment) (i : ℕ) : Option Deployment := do
  let running ← d.handlers.lookup i
  let body ← timeoutBody running.request
  some { d with
    handlers := d.handlers.insert i ⟨running.request, .ret body⟩
    passed := d.passed ++ nextCloses running.task }

def drop (d : Deployment) (i : ℕ) : Option Deployment := do
  let running ← d.handlers.lookup i
  if d.serving = some i then none
  else
    some { d with
      handlers := d.handlers.erase i
      passed := d.passed ++ nextCloses running.task }

def step (d : Deployment) : Action → Option Deployment
  | .gateway a => stepGateway parseStr packetMaxPayload d a
  | .worldReply r => worldReply parseStr packetMaxPayload d r
  | .arrive o limited => arrive svc d o limited
  | .arriveLate q o limited => arriveLate svc d q o limited
  | .answer => answer parseStr packetMaxPayload d
  | .giveUp => giveUp parseStr packetMaxPayload d
  | .execute i now newId seen => execute inet d i now newId seen
  | .fail i text => fail d i text
  | .timeout i => timeout d i
  | .drop i => drop d i

def system : System Deployment Action where
  init d := d = start db
  step := step parseStr packetMaxPayload svc inet

/-- What the steps do. -/
inductive Step (d : Deployment) : Action → Deployment → Prop
  | gateway {a : GatewaySystem.Action} {g : Gateway} (ha : ∀ r, a ≠ .reply r)
    (h : GatewaySystem.step parseStr packetMaxPayload d.gateway a = some g) :
    Step d (.gateway a) { d with gateway := g }
  | worldReply {r : HttpReply} {g : Gateway} {c : InternalCommand} {m : MapId}
    {env : WorldRouteEnvelope} {k : HttpReply → Router Unit}
    (hc : d.gateway.current = some (c, .call (.worldRoute m env) k))
    (h : GatewaySystem.step parseStr packetMaxPayload d.gateway (.reply r) = some g) :
    Step d (.worldReply r) { d with gateway := g }
  | arrive {o : Surroundings} {limited : Bool} {c : InternalCommand} {q : BackendRequest}
    {k : HttpReply → Router Unit} {task : AuthTask}
    (hc : d.gateway.current = some (c, .call q k)) (hs : d.serving = none)
    (h : handlerOf svc o limited q = some task) :
    Step d (.arrive o limited) { d with
      handlers := d.handlers.insert d.nextHandler ⟨q, task⟩
      nextHandler := d.nextHandler + 1
      serving := some d.nextHandler }
  | arriveLate {q : BackendRequest} {o : Surroundings} {limited : Bool} {task : AuthTask}
    (hq : q ∈ d.late) (h : handlerOf svc o limited q = some task) :
    Step d (.arriveLate q o limited) { d with
      handlers := d.handlers.insert d.nextHandler ⟨q, task⟩
      nextHandler := d.nextHandler + 1
      late := d.late.erase q }
  | answer {i : ℕ} {q : BackendRequest} {body : Body} {g : Gateway} (hs : d.serving = some i)
    (hl : d.handlers.lookup i = some ⟨q, .ret body⟩)
    (h : GatewaySystem.step parseStr packetMaxPayload d.gateway (.reply (.response 200 body)) =
      some g) :
    Step d .answer { d with gateway := g, handlers := d.handlers.erase i, serving := none }
  | giveUp {c : InternalCommand} {q : BackendRequest} {k : HttpReply → Router Unit} {g : Gateway}
    {i : ℕ} (hc : d.gateway.current = some (c, .call q k)) (hs : d.serving = some i)
    (h : GatewaySystem.step parseStr packetMaxPayload d.gateway (.reply .error) = some g) :
    Step d .giveUp { d with gateway := g, serving := none }
  | lose {c : InternalCommand} {q : BackendRequest} {k : HttpReply → Router Unit} {g : Gateway}
    (hc : d.gateway.current = some (c, .call q k)) (hs : d.serving = none)
    (h : GatewaySystem.step parseStr packetMaxPayload d.gateway (.reply .error) = some g) :
    Step d .giveUp { d with
      gateway := g
      serving := none
      late := q :: d.late
      passed := d.passed ++ logoutOf q }
  | execute {i : ℕ} {now : Time} {newId : CharacterId} {seen : Bool} {q : BackendRequest}
    {query : Query} {k : Answer → AuthTask} (h : d.handlers.lookup i = some ⟨q, .call query k⟩) :
    Step d (.execute i now newId seen) { d with
      db := (query.run inet now newId d.db).2
      handlers := d.handlers.insert i ⟨q, k (if seen then (query.run inet now newId d.db).1
        else .failed "database query timed out")⟩
      passed := d.passed ++ closes query }
  | fail {i : ℕ} {text : String} {q : BackendRequest} {query : Query} {k : Answer → AuthTask}
    (h : d.handlers.lookup i = some ⟨q, .call query k⟩) :
    Step d (.fail i text) { d with
      handlers := d.handlers.insert i ⟨q, k (.failed text)⟩
      passed := d.passed ++ closes query }
  | timeout {i : ℕ} {q : BackendRequest} {task : AuthTask} {body : Body}
    (h : d.handlers.lookup i = some ⟨q, task⟩) (hb : timeoutBody q = some body) :
    Step d (.timeout i) { d with
      handlers := d.handlers.insert i ⟨q, .ret body⟩
      passed := d.passed ++ nextCloses task }
  | drop {i : ℕ} {q : BackendRequest} {task : AuthTask}
    (h : d.handlers.lookup i = some ⟨q, task⟩) (hs : d.serving ≠ some i) :
    Step d (.drop i) { d with
      handlers := d.handlers.erase i
      passed := d.passed ++ nextCloses task }

end

variable {parseStr : String → Option Uuid} {packetMaxPayload : ℕ} {svc : AuthService}
  {inet : String → Option String} {db : Database} {d d' : Deployment}

/-- **Every step is one of these.** -/
theorem step_cases {a : Action} (h : step parseStr packetMaxPayload svc inet d a = some d') :
    Step parseStr packetMaxPayload svc inet d a d' := by
  cases a with
  | gateway a =>
    simp only [step, stepGateway] at h
    split at h
    · cases h
    · next hno =>
      obtain ⟨g, hg, rfl⟩ := Option.map_eq_some_iff.mp h
      exact .gateway hno hg
  | worldReply r =>
    simp only [step, worldReply] at h
    split at h
    · next c m env k hc =>
      obtain ⟨g, hg, rfl⟩ := Option.map_eq_some_iff.mp h
      exact .worldReply hc hg
    · cases h
  | arrive o limited =>
    simp only [step, arrive] at h
    split at h
    · next c q k hc hs =>
      obtain ⟨task, ht, rfl⟩ := Option.map_eq_some_iff.mp h
      exact .arrive hc hs ht
    · cases h
  | arriveLate q o limited =>
    simp only [step, arriveLate] at h
    split at h
    · next hq =>
      obtain ⟨task, ht, rfl⟩ := Option.map_eq_some_iff.mp h
      exact .arriveLate hq ht
    · cases h
  | answer =>
    simp only [step, answer] at h
    split at h
    · next i hs =>
      split at h
      · next q body hl =>
        obtain ⟨g, hg, rfl⟩ := Option.map_eq_some_iff.mp h
        exact .answer hs hl hg
      · cases h
    · cases h
  | giveUp =>
    simp only [step, giveUp] at h
    split at h
    · cases h
    · next c q k _ hc =>
      obtain ⟨g, hg, rfl⟩ := Option.map_eq_some_iff.mp h
      rcases hs : d.serving with _ | i
      · exact .lose hc hs hg
      · exact .giveUp hc hs hg
    · cases h
  | execute i now newId seen =>
    simp only [step, execute] at h
    split at h
    · next q query k hl =>
      cases h
      exact .execute hl
    · cases h
  | fail i text =>
    simp only [step, fail] at h
    split at h
    · next q query k hl =>
      cases h
      exact .fail hl
    · cases h
  | timeout i =>
    obtain ⟨⟨q, task⟩, hl, h⟩ := Option.bind_eq_some_iff.mp h
    obtain ⟨body, hb, h⟩ := Option.bind_eq_some_iff.mp h
    cases h
    exact .timeout hl hb
  | drop i =>
    obtain ⟨⟨q, task⟩, hl, h⟩ := Option.bind_eq_some_iff.mp h
    split at h
    · cases h
    · next hs =>
      cases h
      exact .drop hl hs

lemma gateway_step {a : Action} (h : Step parseStr packetMaxPayload svc inet d a d') :
    d'.gateway = d.gateway ∨ ∃ b, GatewaySystem.step parseStr packetMaxPayload d.gateway b =
      some d'.gateway := by
  cases h with
  | gateway _ h | worldReply _ h | answer _ _ h | giveUp _ _ h | lose _ _ h => exact .inr ⟨_, h⟩
  | arrive | arriveLate | execute | fail | timeout | drop => exact .inl rfl

/-- The gateway of a deployment runs as a gateway does on its own. -/
theorem gateway_reached (h : (system parseStr packetMaxPayload svc inet db).Reached d) :
    (GatewaySystem.system parseStr packetMaxPayload).Reached d.gateway := by
  refine h.projected (T := GatewaySystem.system parseStr packetMaxPayload) (·.gateway) ?_
    fun d a d' hst => gateway_step (step_cases hst)
  rintro d rfl
  rfl

/-! ### Handlers -/

/-- A handler that a step has moved on. -/
structure Advanced (d d' : Deployment) (i : ℕ) (r : Running) : Prop where
  ran : ∃ task, d.handlers.lookup i = some ⟨r.request, task⟩ ∧
    (∀ P : Query → Prop, task.Asks P → r.task.Asks P) ∧ ∀ s ∈ nextCloses task, s ∈ d'.passed

lemma handler_cases {a : Action} (h : Step parseStr packetMaxPayload svc inet d a d') {i : ℕ}
    {r : Running} (hl : d'.handlers.lookup i = some r) :
    d.handlers.lookup i = some r ∨ Advanced d d' i r ∨
      (i = d.nextHandler ∧ d'.nextHandler = d.nextHandler + 1 ∧
        ∃ o limited, handlerOf svc o limited r.request = some r.task) := by
  cases h with
  | gateway | worldReply | giveUp | lose => exact .inl hl
  | @arrive o limited c q k task _ _ h | @arriveLate q o limited task _ h =>
    rcases FMap.lookup_insert_cases hl with ⟨hi, hv⟩ | ⟨-, hl⟩
    · cases hv
      exact .inr (.inr ⟨hi, rfl, o, limited, h⟩)
    · exact .inl hl
  | answer | drop =>
    obtain ⟨-, hl⟩ := FMap.lookup_of_erase hl
    exact .inl hl
  | @execute j _ _ _ q query k hj | @fail j _ q query k hj =>
    rcases FMap.lookup_insert_cases hl with ⟨hi, hv⟩ | ⟨-, hl⟩
    · cases hv
      refine .inr (.inl ⟨.call query k, hi ▸ hj, fun P hP => hP.2 _, ?_⟩)
      exact fun s hs => List.mem_append_right _ hs
    · exact .inl hl
  | @timeout j q task body hj _ =>
    rcases FMap.lookup_insert_cases hl with ⟨hi, hv⟩ | ⟨-, hl⟩
    · cases hv
      exact .inr (.inl ⟨task, hi ▸ hj, fun _ _ => trivial, fun s hs => List.mem_append_right _ hs⟩)
    · exact .inl hl

lemma passed_step {a : Action} (h : Step parseStr packetMaxPayload svc inet d a d')
    {s : SessionId} (hs : s ∈ d.passed) : s ∈ d'.passed := by
  cases h with
  | gateway | worldReply | arrive | arriveLate | answer | giveUp => exact hs
  | lose | execute | fail | timeout | drop => exact List.mem_append_left _ hs

lemma handler_kept {a : Action} (h : Step parseStr packetMaxPayload svc inet d a d')
    (hfresh : ∀ i r, d.handlers.lookup i = some r → i < d.nextHandler) {i : ℕ} {r : Running}
    (hl : d.handlers.lookup i = some r) :
    d'.handlers.lookup i = some r ∨ ∀ s ∈ nextCloses r.task, s ∈ d'.passed := by
  cases h with
  | gateway | worldReply | giveUp | lose => exact .inl hl
  | arrive | arriveLate =>
    have hi := hfresh i r hl
    exact .inl ((Finmap.lookup_insert_of_ne _ (by omega)).trans hl)
  | @answer j q body _ _ hj _ =>
    by_cases hi : i = j
    · rw [hi, hj] at hl
      cases hl
      exact .inr nofun
    · exact .inl ((Finmap.lookup_erase_ne hi).trans hl)
  | @drop j q task hj _ =>
    by_cases hi : i = j
    · rw [hi, hj] at hl
      cases hl
      exact .inr fun s hs => List.mem_append_right _ hs
    · exact .inl ((Finmap.lookup_erase_ne hi).trans hl)
  | @execute j _ _ _ q query k hj | @fail j _ q query k hj | @timeout j q task _ hj _ =>
    by_cases hi : i = j
    · rw [hi, hj] at hl
      cases hl
      exact .inr fun s hs => List.mem_append_right _ hs
    · exact .inl ((Finmap.lookup_insert_of_ne _ hi).trans hl)

/-- The identifiers of handlers are not given twice, and the router waits for the handler of the
request that it has made. -/
structure Served (d : Deployment) : Prop where
  fresh : ∀ i r, d.handlers.lookup i = some r → i < d.nextHandler
  auth : ∀ i r m env, d.handlers.lookup i = some r → r.request ≠ .worldRoute m env
  serving : ∀ i, d.serving = some i → ∃ c q k task,
    d.gateway.current = some (c, .call q k) ∧ d.handlers.lookup i = some ⟨q, task⟩

lemma waiting_step {g g' : Gateway} {a : GatewaySystem.Action} {c : InternalCommand}
    {q : BackendRequest} {k : HttpReply → Router Unit} (ha : ∀ r, a ≠ .reply r)
    (h : GatewaySystem.step parseStr packetMaxPayload g a = some g')
    (hc : g.current = some (c, .call q k)) : g'.current = g.current := by
  cases GatewaySteps.step_cases h with
  | accept | task | queue | remove => rfl
  | recv hno => rw [hc] at hno; cases hno
  | sync hs | finish hs => rw [hc] at hs; cases hs
  | reply _ r => exact absurd rfl (ha r)

lemma served_step {a : Action} (hd : Served d)
    (h : Step parseStr packetMaxPayload svc inet d a d') : Served d' where
  fresh i r hl := by
    have hle : d.nextHandler ≤ d'.nextHandler := by
      cases h with
      | arrive | arriveLate => exact Nat.le_succ _
      | _ => exact le_refl _
    rcases handler_cases h hl with hl | ⟨_, hl, -⟩ | ⟨rfl, hn, -⟩
    · exact (hd.fresh i r hl).trans_le hle
    · exact (hd.fresh i _ hl).trans_le hle
    · omega
  auth i r m env hl := by
    rcases handler_cases h hl with hl | ⟨task, hl, -⟩ | ⟨-, -, o, limited, hq⟩
    · exact hd.auth i r m env hl
    · exact hd.auth i ⟨r.request, task⟩ m env hl
    · intro he
      rw [he] at hq
      cases hq
  serving i hs := by
    cases h with
    | @gateway a g ha hg =>
      obtain ⟨c, q, k, task, hc, hl⟩ := hd.serving i hs
      exact ⟨c, q, k, task, (waiting_step ha hg hc).trans hc, hl⟩
    | worldReply hc =>
      obtain ⟨c, q, k, task, hc', hl⟩ := hd.serving i hs
      rw [hc] at hc'
      cases hc'
      exact absurd rfl (hd.auth i _ _ _ hl)
    | @arrive o limited c q k task hc _ _ =>
      obtain rfl := Option.some.inj hs
      exact ⟨c, q, k, task, hc, Finmap.lookup_insert _⟩
    | arriveLate =>
      obtain ⟨c, q, k, task, hc, hl⟩ := hd.serving i hs
      have hi := hd.fresh i _ hl
      exact ⟨c, q, k, task, hc, (Finmap.lookup_insert_of_ne _ (by omega)).trans hl⟩
    | answer | giveUp | lose => cases hs
    | @drop j q task hj hne =>
      obtain ⟨c, q, k, task, hc, hl⟩ := hd.serving i hs
      have hi : i ≠ j := by
        rintro rfl
        exact hne hs
      exact ⟨c, q, k, task, hc, (Finmap.lookup_erase_ne hi).trans hl⟩
    | @execute j _ _ _ q query k hj | @fail j _ q query k hj | @timeout j q task _ hj _ =>
      obtain ⟨c, q', k', task', hc, hl⟩ := hd.serving i hs
      refine ⟨c, q', k', ?_⟩
      simp only [FMap.lookup_insert_eq]
      split
      · next hi =>
        rw [hi, hj] at hl
        cases hl
        exact ⟨_, hc, rfl⟩
      · exact ⟨task', hc, hl⟩

theorem served_of_reached (h : (system parseStr packetMaxPayload svc inet db).Reached d) :
    Served d := by
  refine h.invariant Served ?_ fun d a d' hd _ hst => served_step hd (step_cases hst)
  rintro d rfl
  refine ⟨fun i r hr => ?_, fun i r m env hr => ?_, fun i hi => ?_⟩
  · cases hr
  · cases hr
  · cases hi

/-! ### A client of the fixture -/

def smokeFrame : Bytes :=
  encodeFrame 0x0001 [115, 109, 111, 107, 101, 0, 116, 101, 115, 116, 112, 97, 115, 115, 0, 118]

def surroundings : Surroundings where
  now := 0
  plusSeconds t seconds := some (t + seconds)
  inet := some
  verifyPassword _ _ := .error "malformed"

end HelbreathBackend.GatewayAndAuth
