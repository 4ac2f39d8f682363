import HelbreathBackend.Cleanup
import HelbreathBackend.Lib.Progress

/-!
The gateway comes to rest.

The tasks of the connections wait for room in the queue of the router, and the router for its
requests, each of which is answered or given up after two seconds. When nothing arrives from
outside, the tasks go through the frames they have read, everything is queued and routed, and the
connections that were ending have ended.
-/

namespace HelbreathBackend.GatewayProgress

open HelbreathBackend.Lib HelbreathBackend.Lib.Task HelbreathBackend.Domain
open HelbreathBackend.Application HelbreathBackend.Frame HelbreathBackend.Gateway
open HelbreathBackend.Gateway.Router HelbreathBackend.GatewaySystem
open HelbreathBackend.GatewayTrace HelbreathBackend.GatewaySteps HelbreathBackend.Cleanup

/-! ### One command of the router -/

lemma endsWithin_routeWorldCommand {s : SessionId} {m : MapId} {r : WorldRouteCommandRequest}
    {k : Bool → Router Unit} {n : ℕ} (hk : ∀ b, (k b).EndsWithin n) :
    (routeWorldCommand s m r >>= k).EndsWithin (n + 2) := by
  change (Task.read (fun f : Sessions => f.lookup s) >>= fun sess =>
    Router.post (.worldRoute m ⟨s, sess.bind (·.characterId), r⟩) >>= fun reply =>
      k reply.isSuccess).EndsWithin (n + 2)
  exact endsWithin_read fun _ => endsWithin_request fun _ => hk _

lemma endsWithin_guard {s : SessionId} {f : Option SessionRuntime → Bool} {task : Router Unit}
    {n : ℕ} (h : task.EndsWithin n) :
    (Task.read (fun m : Sessions => m.lookup s) >>= fun sess =>
      if f sess = true then task else pure ()).EndsWithin (n + 1) := by
  refine endsWithin_read fun sess => ?_
  split
  · exact h
  · exact endsWithin_pure _ _

lemma endsWithin_routePlay (s : SessionId) (m : MapId) (r : WorldRouteCommandRequest) :
    (routePlay s m r).EndsWithin 3 := by
  have hpost : (do let _ ← routeWorldCommand s m r; pure () : Router Unit).EndsWithin 2 :=
    endsWithin_routeWorldCommand (n := 0) fun _ => endsWithin_pure _ _
  exact endsWithin_guard
    (f := fun o => ((o.map fun e => e.inWorld && e.accountId.isSome).getD false)) hpost

lemma endsWithin_whenAuthenticated {s : SessionId} {route : Router Unit} {n : ℕ}
    (h : route.EndsWithin n) : (whenAuthenticated s route).EndsWithin (n + 1) :=
  endsWithin_guard (f := fun o => (o.bind (·.accountId)).isSome) h

lemma endsWithin_leave (s : SessionId) (n : ℕ) :
    (do routeAuthLogout s; removeSession s : Router Unit).EndsWithin (n + 2) :=
  endsWithin_request fun _ => endsWithin_modify _ _

lemma endsWithin_routeAuthLogin (s : SessionId) (payload : LoginPayload) :
    (routeAuthLogin s payload).EndsWithin 3 := by
  refine endsWithin_read fun _ => endsWithin_request fun r => ?_
  rcases r.login with _ | body
  · exact endsWithin_pure _ _
  · dsimp only
    split
    · exact endsWithin_modify _ _
    · exact endsWithin_pure _ _

lemma endsWithin_routeAuthCharacterDelete (s : SessionId) (c : CharacterId) :
    (routeAuthCharacterDelete s c).EndsWithin 2 := by
  refine endsWithin_request fun r => ?_
  rcases r.characterDelete with _ | body
  · exact endsWithin_pure _ _
  · dsimp only
    split
    · exact endsWithin_modify _ _
    · exact endsWithin_pure _ _

lemma endsWithin_routeAuthCharacterSelect (s : SessionId) (c : CharacterId) :
    (routeAuthCharacterSelect s c).EndsWithin 2 := by
  refine endsWithin_request fun r => ?_
  rcases r.characterSelect with _ | body
  · exact endsWithin_pure _ _
  · dsimp only
    split
    · exact endsWithin_modify _ _
    · exact endsWithin_pure _ _

lemma endsWithin_routeEnterWorld (s : SessionId) (m : MapId) :
    (routeEnterWorld s m).EndsWithin 4 := by
  refine endsWithin_guard
    (f := fun o => ((o.map fun e => e.characterId.isSome && e.accountId.isSome).getD false))
    (endsWithin_routeWorldCommand fun b => ?_)
  split
  · exact endsWithin_modify _ _
  · exact endsWithin_pure _ _

lemma endsWithin_resolveMapId {s : SessionId} {hint : Option MapId} {k : MapId → Router Unit}
    {n : ℕ} (h : ∀ m, (k m).EndsWithin n) : (resolveMapId s hint >>= k).EndsWithin (n + 1) := by
  cases hint with
  | some m => exact (h m).mono n.le_succ
  | none => exact ⟨n.succ_pos, fun _ => h _⟩

/-- **The router is done with a command after five steps**, whatever it is answered. -/
theorem endsWithin_handle (c : InternalCommand) : (Router.handle c).EndsWithin 5 := by
  cases c with
  | broadcast | moveCharacter => exact endsWithin_pure _ _
  | disconnectSession s reason => exact endsWithin_leave s 3
  | routeClientCommand s hint cmd =>
    refine endsWithin_resolveMapId fun m => ?_
    cases cmd with
    | login payload => exact (endsWithin_routeAuthLogin s payload).mono (by decide)
    | characterList | characterCreate =>
      exact endsWithin_whenAuthenticated (endsWithin_request fun _ => endsWithin_pure _ _)
    | characterDelete c =>
      exact (endsWithin_whenAuthenticated (endsWithin_routeAuthCharacterDelete s c)).mono
        (by decide)
    | characterSelect c =>
      exact (endsWithin_whenAuthenticated (endsWithin_routeAuthCharacterSelect s c)).mono
        (by decide)
    | enterWorld => exact endsWithin_routeEnterWorld s m
    | heartbeat => exact endsWithin_routeWorldCommand fun _ => endsWithin_pure _ _
    | logout => exact endsWithin_routeWorldCommand fun _ => endsWithin_leave s 0
    | move | attack | castSkill | pickupItem | dropItem | useItem | npcInteraction | chat
    | whisper | guildChat => exact (endsWithin_routePlay s m _).mono (by decide)

/-! ### What is left to do -/

/-- What the gateway does when nothing arrives from outside. A request that is not answered fails
after two seconds. -/
def own : GatewaySystem.Action → Bool
  | .accept .. | .read .. | .timeout _ | .readError _ => false
  | .frame .. | .send _ | .disconnect _ | .remove _ | .recv | .sync | .reply _ | .finish => true

/-- A frame may become a command: it is sent after one step, and there are seven for the router. -/
def stageLeft : Stage → ℕ
  | .frames rest => 9 * rest.length
  | .sending _ rest => 8 + 9 * rest.length
  | .closing => 9
  | .removing => 1
  | .ended => 0

/-- What the tasks of the connections have left, as far as the end of the router's work on it. -/
def tasksLeft (g : Gateway) : ℕ :=
  FMap.total (FMap.mapValues (fun conn : Connection => stageLeft conn.stage) g.connections)

noncomputable def currentLeft (g : Gateway) : ℕ :=
  match g.current with
  | some (_, t) => t.stepsLeft + 1
  | none => 0

noncomputable def left (g : Gateway) : ℕ :=
  tasksLeft g + 7 * g.internalQueue.length + currentLeft g

section

variable {parseStr : String → Option Uuid} {packetMaxPayload : ℕ} {g d d' : Gateway}
  {s : SessionId} {conn conn' : Connection} {a : GatewaySystem.Action}

lemma tasksLeft_insert (h : g.connections.lookup s = some conn)
    (hd : d.connections = g.connections.insert s conn') :
    tasksLeft d + stageLeft conn.stage = tasksLeft g + stageLeft conn'.stage := by
  unfold tasksLeft
  rw [hd, FMap.mapValues_insert]
  have htotal := FMap.total_insert
    (FMap.mapValues (fun conn : Connection => stageLeft conn.stage) g.connections) s
    (stageLeft conn'.stage)
  rw [FMap.count, FMap.lookup_mapValues, h] at htotal
  exact htotal

/-- The command that the router is at ends within five steps. -/
def Brief (g : Gateway) : Prop := ∀ c t, g.current = some (c, t) → t.EndsWithin 5

lemma brief_step (hg : Brief g) (h : Step parseStr packetMaxPayload g a d) : Brief d := by
  intro c t hc
  cases h with
  | accept | task | queue | remove => exact hg c t hc
  | recv =>
    cases hc
    exact endsWithin_handle _
  | sync hcur =>
    cases hc
    exact ((hg _ _ hcur).2 _).mono (by decide)
  | reply hcur r =>
    cases hc
    exact ((hg _ _ hcur).2 r).mono (by decide)
  | finish => cases hc

lemma brief_of_reached (h : (GatewaySystem.system parseStr packetMaxPayload).Reached g) :
    Brief g := by
  refine h.invariant Brief ?_ fun _ _ _ hg _ hst => brief_step hg (step_cases hst)
  rintro g rfl
  exact fun c t hc => by cases hc

lemma stageLeft_translated {frame : Bytes} {rest : List Bytes} :
    stageLeft (conn.translated parseStr packetMaxPayload frame rest).stage <
      stageLeft (.frames (frame :: rest)) := by
  rcases @translated_stage parseStr packetMaxPayload conn frame rest with h | ⟨command, h⟩
  all_goals
    rw [h]
    simp only [stageLeft, List.length_cons]
    omega

/-- **Every step of the gateway's own leaves less to do.** -/
theorem left_step (hg : Brief g) (ha : own a = true)
    (h : Step parseStr packetMaxPayload g a d) : left d < left g := by
  cases h with
  | accept => cases ha
  | @task _ s conn conn' hl ht =>
    have hsum := tasksLeft_insert (d := g.setConnection s conn') hl rfl
    have hlt : stageLeft conn'.stage < stageLeft conn.stage := by
      cases ht with
      | eof | received | timeout | readError => cases ha
      | limited hst =>
        rw [hst]
        simp only [stageLeft, List.length_cons]
        omega
      | translated hst =>
        rw [hst]
        exact stageLeft_translated
    change tasksLeft (g.setConnection s conn') + 7 * g.internalQueue.length + currentLeft g < _
    unfold left
    omega
  | @queue _ s conn conn' c hl hq =>
    have hsum := tasksLeft_insert (d := (g.enqueue c).setConnection s conn') hl rfl
    have hlt : stageLeft conn'.stage + 8 = stageLeft conn.stage := by
      cases hq with
      | send hst =>
        rw [hst]
        simp only [stageLeft]
        omega
      | disconnect hst => rw [hst]; rfl
    change tasksLeft ((g.enqueue c).setConnection s conn') +
      7 * (g.internalQueue ++ [c]).length + currentLeft g < _
    rw [List.length_append, List.length_singleton]
    unfold left
    omega
  | @remove s conn hl hst =>
    have hsum := tasksLeft_insert (d := g.setConnection s { conn with stage := .ended }) hl rfl
    rw [hst] at hsum
    simp only [stageLeft] at hsum
    change tasksLeft (g.setConnection s { conn with stage := .ended }) +
      7 * g.internalQueue.length + currentLeft g < _
    unfold left
    omega
  | @recv cmd rest hc hq =>
    have hlast : currentLeft g = 0 := by
      rw [currentLeft, hc]
    have hnext := stepsLeft_le (endsWithin_handle cmd)
    have hlen : g.internalQueue.length = rest.length + 1 := congrArg List.length hq
    unfold left
    change tasksLeft g + 7 * rest.length + ((Router.handle cmd).stepsLeft + 1) < _
    omega
  | @sync cmd f k hc =>
    have hlast : currentLeft g = (Task.sync f k).stepsLeft + 1 := by
      rw [currentLeft, hc]
    have hnext := stepsLeft_sync (hg _ _ hc) g.sessions
    unfold left
    change tasksLeft g + 7 * g.internalQueue.length + ((k g.sessions).stepsLeft + 1) < _
    omega
  | @reply cmd q k hc r =>
    have hlast : currentLeft g = (Task.call q k).stepsLeft + 1 := by
      rw [currentLeft, hc]
    have hnext := stepsLeft_call (hg _ _ hc) r
    unfold left
    change tasksLeft g + 7 * g.internalQueue.length + ((k r).stepsLeft + 1) < _
    omega
  | @finish cmd hc =>
    have hlast : currentLeft g = (Task.ret () : Router Unit).stepsLeft + 1 := by
      rw [currentLeft, hc]
    unfold left
    change tasksLeft g + 7 * g.internalQueue.length + 0 < _
    omega

/-! ### Where nothing is left to do -/

/-- The connection is past its loop. -/
def ending : Stage → Bool
  | .closing | .removing | .ended => true
  | .frames _ | .sending .. => false

/-- What the gateway `d` has come to from `g`, by steps of its own. -/
structure Later (g d : Gateway) : Prop where
  known : ∀ s conn', d.connections.lookup s = some conn' →
    (g.connections.lookup s).isSome = true
  queued : ∀ s conn, g.connections.lookup s = some conn → ∃ conn',
    d.connections.lookup s = some conn' ∧
      commandsOf s (posted g) ++ unsent conn.stage <+:
        commandsOf s (posted d) ++ unsent conn'.stage ∧
      (ending conn.stage = true → ending conn'.stage = true)

lemma later_refl (g : Gateway) : Later g g :=
  ⟨fun _ _ h => by rw [h]; rfl, fun _ conn h => ⟨conn, h, List.prefix_refl _, id⟩⟩

/-- A step that only concerns the router. -/
lemma Later.router (h : Later g d) (hconn : d'.connections = d.connections)
    (hposted : posted d' = posted d) : Later g d' := by
  refine ⟨fun s conn' hl => h.known s conn' (hconn ▸ hl), fun s conn hl => ?_⟩
  rw [hconn, hposted]
  exact h.queued s conn hl

/-- A step of one connection. -/
lemma Later.connection (h : Later g d) (hl : d.connections.lookup s = some conn)
    (hconn : d'.connections = d.connections.insert s conn')
    (hposted : ∀ x, x ≠ s → commandsOf x (posted d') = commandsOf x (posted d))
    (hself : commandsOf s (posted d) ++ unsent conn.stage <+:
      commandsOf s (posted d') ++ unsent conn'.stage)
    (hend : ending conn.stage = true → ending conn'.stage = true) : Later g d' := by
  refine ⟨fun x connx hx => ?_, fun x conn₀ hx => ?_⟩
  · rw [hconn] at hx
    rcases FMap.lookup_insert_cases hx with ⟨rfl, -⟩ | ⟨-, hx⟩
    · exact h.known _ conn hl
    · exact h.known x connx hx
  · obtain ⟨connx, hdx, hpre, hendx⟩ := h.queued x conn₀ hx
    rw [hconn]
    by_cases hxs : x = s
    · subst hxs
      rw [hl] at hdx
      cases hdx
      exact ⟨conn', Finmap.lookup_insert _, hpre.trans hself, fun he => hend (hendx he)⟩
    · rw [Finmap.lookup_insert_of_ne _ hxs, hposted x hxs]
      exact ⟨connx, hdx, hpre, hendx⟩

lemma later_step (h : Later g d) (ha : own a = true)
    (hst : Step parseStr packetMaxPayload d a d') : Later g d' := by
  cases hst with
  | accept => cases ha
  | @task _ s conn conn' hl ht =>
    have hposted : posted (d.setConnection s conn') = posted d := rfl
    refine h.connection hl rfl (fun x _ => by rw [hposted]) ?_ ?_
    · rw [hposted]
      cases ht with
      | eof | received | timeout | readError => cases ha
      | limited hst => rw [hst]; exact List.prefix_refl _
      | translated hst =>
        rw [hst]
        exact (List.prefix_append_right_inj _).mpr List.nil_prefix
    · cases ht with
      | eof | received | timeout | readError => cases ha
      | limited hst | translated hst => rw [hst]; exact fun he => by cases he
  | @queue _ s conn conn' c hl hq =>
    have hposted : posted ((d.enqueue c).setConnection s conn') = posted d ++ [c] :=
      (List.append_assoc ..).symm
    refine h.connection hl rfl (fun x hx => ?_) ?_ ?_
    · rw [hposted, commandsOf_other (queueStep_sentBy hq) (Ne.symm hx)]
    · rw [hposted]
      cases hq with
      | send hst =>
        rw [hst, commandsOf_command]
        exact List.prefix_append _ _
      | disconnect hst =>
        rw [hst, commandsOf_disconnection]
        exact List.prefix_refl _
    · cases hq with
      | send hst => rw [hst]; exact fun he => by cases he
      | disconnect => exact fun _ => rfl
  | @remove s conn hl hst =>
    refine h.connection (s := s) hl rfl (fun x _ => rfl) ?_ fun _ => rfl
    rw [hst]
    exact List.prefix_refl _
  | @recv cmd rest hc hq =>
    refine h.router rfl ?_
    simp [posted, hq]
  | sync | reply | finish => exact h.router rfl rfl

/-- The queue is empty, the router waits for it, and every task waits for its socket or has
ended. -/
structure Idle (d : Gateway) : Prop where
  queue : d.internalQueue = []
  current : d.current = none
  reading : ∀ s conn, d.connections.lookup s = some conn →
    conn.stage = .frames [] ∨ conn.stage = .ended

/-- **The tasks and the router never block each other**: where no step is possible, everything has
been routed. -/
theorem idle_of_atRest (h : (GatewaySystem.system parseStr packetMaxPayload).AtRest
    (fun a => own a = true) d) : Idle d := by
  have hstuck : ∀ a, own a = true → GatewaySystem.step parseStr packetMaxPayload d a = none := h
  have hcurrent : d.current = none := by
    rcases hc : d.current with _ | ⟨c, t⟩
    · rfl
    exfalso
    cases t with
    | ret u => simpa [GatewaySystem.step, Gateway.finish, hc] using hstuck .finish rfl
    | sync f k => simpa [GatewaySystem.step, Gateway.sync, hc] using hstuck .sync rfl
    | call q k => simpa [GatewaySystem.step, Gateway.reply, hc] using hstuck (.reply .error) rfl
  have hqueue : d.internalQueue = [] := by
    rcases hq : d.internalQueue with _ | ⟨cmd, rest⟩
    · rfl
    · simpa [GatewaySystem.step, Gateway.recv, hcurrent, hq] using hstuck .recv rfl
  refine ⟨hqueue, hcurrent, fun s conn hl => ?_⟩
  have hroom : d.internalQueue.length < queueCapacity := by
    rw [hqueue]
    decide
  rcases hst : conn.stage with (_ | ⟨frame, rest⟩) | ⟨command, rest⟩ | _ | _ | _
  · exact .inl rfl
  · simpa [GatewaySystem.step, Gateway.stepConnection, hl, hst] using hstuck (.frame s true) rfl
  · simpa [GatewaySystem.step, Gateway.stepEnqueue, hl, hst, hroom] using hstuck (.send s) rfl
  · simpa [GatewaySystem.step, Gateway.stepEnqueue, hl, hst, hroom] using
      hstuck (.disconnect s) rfl
  · simpa [GatewaySystem.step, Gateway.remove, hl, hst] using hstuck (.remove s) rfl
  · exact .inr rfl

lemma atRest_of_idle (h : Idle d) : (GatewaySystem.system parseStr packetMaxPayload).AtRest
    (fun a => own a = true) d := by
  have htask : ∀ s, d.connections.lookup s = none ∨ ∃ conn,
      d.connections.lookup s = some conn ∧ (conn.stage = .frames [] ∨ conn.stage = .ended) := by
    intro s
    rcases hl : d.connections.lookup s with _ | conn
    · exact .inl rfl
    · exact .inr ⟨conn, rfl, h.reading s conn hl⟩
  intro a ha
  show GatewaySystem.step parseStr packetMaxPayload d a = none
  cases a with
  | accept | read | timeout | readError => cases ha
  | frame s allowed =>
    rcases htask s with hl | ⟨conn, hl, hst | hst⟩ <;>
      simp [GatewaySystem.step, Gateway.stepConnection, *]
  | send s | disconnect s =>
    rcases htask s with hl | ⟨conn, hl, hst | hst⟩ <;>
      simp [GatewaySystem.step, Gateway.stepEnqueue, *]
  | remove s =>
    rcases htask s with hl | ⟨conn, hl, hst | hst⟩ <;>
      simp [GatewaySystem.step, Gateway.remove, *]
  | recv => simp [GatewaySystem.step, Gateway.recv, h.current, h.queue]
  | sync => simp [GatewaySystem.step, Gateway.sync, h.current]
  | reply r => simp [GatewaySystem.step, Gateway.reply, h.current]
  | finish => simp [GatewaySystem.step, Gateway.finish, h.current]

/-- What the gateway `g` had taken in has been dealt with in `d`. -/
structure Done (g d : Gateway) : Prop extends Idle d where
  handled : ∀ s conn, g.connections.lookup s = some conn →
    commandsOf s (posted g) ++ unsent conn.stage <+: commandsOf s d.handled
  gone : ∀ s conn, g.connections.lookup s = some conn →
    conn.stage = .closing ∨ conn.stage = .removing →
      d.sessions.lookup s = none ∧ ∃ r, InternalCommand.disconnectSession s r ∈ d.handled

lemma posted_of_idle (h : Idle d) : posted d = d.handled := by
  rw [posted, h.queue, List.append_nil]

lemma done_of_idle {as bs : List GatewaySystem.Action}
    (hg : (GatewaySystem.system parseStr packetMaxPayload).Run as g)
    (hd : (GatewaySystem.system parseStr packetMaxPayload).Run (as ++ bs) d)
    (hown : ∀ b ∈ bs, own b = true) (hlater : Later g d) (hidle : Idle d) : Done g d := by
  refine ⟨hidle, fun s conn hl => ?_, fun s conn hl hleft => ?_⟩
  all_goals obtain ⟨conn', hl', hpre, hend⟩ := hlater.queued s conn hl
  · have hnil : unsent conn'.stage = [] := by
      rcases hidle.reading s conn' hl' with hst | hst <;> rw [hst] <;> rfl
    rwa [posted_of_idle hidle, hnil, List.append_nil] at hpre
  · have hended : conn'.stage = .ended := by
      have hending : ending conn.stage = true := by
        rcases hleft with hst | hst <;> rw [hst] <;> rfl
      refine (hidle.reading s conn' hl').resolve_left fun hst => ?_
      have := hend hending
      rw [hst] at this
      cases this
    rcases (endings_of_run hd).ended s conn' hl' hended with herr | ⟨hgone, r, hr⟩
    · rcases List.mem_append.mp herr with herr | herr
      · obtain ⟨conn₀, hl₀, hst₀, -⟩ := (endings_of_run hg).failed s herr
        rw [hl] at hl₀
        cases hl₀
        rw [hst₀] at hleft
        rcases hleft with hst | hst <;> cases hst
      · cases hown _ herr
    · exact ⟨hgone, r, posted_of_idle hidle ▸ hr⟩

/-- How many steps the gateway has at most before it comes to rest. -/
def workLeft (g : Gateway) : ℕ := tasksLeft g + 7 * g.internalQueue.length + 6

lemma left_le_workLeft (hg : Brief g) : left g ≤ workLeft g := by
  unfold left workLeft
  rcases hc : g.current with _ | ⟨c, t⟩
  · have hnone : currentLeft g = 0 := by rw [currentLeft, hc]
    omega
  · have hsome : currentLeft g = t.stepsLeft + 1 := by rw [currentLeft, hc]
    have hle := stepsLeft_le (hg c t hc)
    omega

/-- **The gateway comes to rest.** From every state that it reaches, when nothing more arrives from
outside and every request is answered or fails, the gateway takes at most nine steps for each frame
it has read, seven for each command in the queue and a few more, in whatever order its tasks take
them. Where it can take no more, everything that was queued or about to be queued has been taken by
the router, connection by connection in order, and every connection that was ending has its entry
removed and its disconnection routed. So a full queue never blocks the tasks for good. -/
theorem gateway_settles (h : (GatewaySystem.system parseStr packetMaxPayload).Reached g) :
    (GatewaySystem.system parseStr packetMaxPayload).Settles (fun a => own a = true) (Done g) g
      (workLeft g) := by
  obtain ⟨as, hrun⟩ := h.exists_run
  refine (System.settles (fun d => Brief d ∧ Later g d ∧ ∃ bs, (∀ b ∈ bs, own b = true) ∧
    (GatewaySystem.system parseStr packetMaxPayload).Run (as ++ bs) d) left ?_ ?_ ?_).mono
    (left_le_workLeft (brief_of_reached h))
  · rintro d a d' ⟨hbrief, hlater, bs, hown, hd⟩ ha hst
    have hstep := step_cases hst
    refine ⟨⟨brief_step hbrief hstep, later_step hlater ha hstep, bs ++ [a], ?_, ?_⟩,
      left_step hbrief ha hstep⟩
    · intro b hb
      rcases List.mem_append.mp hb with hb | hb
      · exact hown b hb
      · rw [List.mem_singleton.mp hb]
        exact ha
    · rw [← List.append_assoc]
      exact hd.step hst
  · rintro d ⟨-, hlater, bs, hown, hd⟩ hrest
    exact done_of_idle hrun hd hown hlater (idle_of_atRest hrest)
  · exact ⟨brief_of_reached h, later_refl g, [], fun b hb => absurd hb List.not_mem_nil, by
      rwa [List.append_nil]⟩

end

/-- A connection has sent a login and a heartbeat, and another one has just been closed. -/
theorem gateway_settles_closing :
    ∃ g, (GatewaySystem.system (fun _ => none) 65535).Reached g ∧ workLeft g = 33 ∧
      ∃ as d, (GatewaySystem.system (fun _ => none) 65535).exec (fun _ a => own a = true) g as =
          some d ∧ as.length ≤ 33 ∧ d.sessions.lookup (.fill 8) = none := by
  obtain ⟨g, hg, hp⟩ := (GatewaySystem.system (fun _ => none) 65535).exists_reachedBy
    (fun _ _ => True) rfl
    [.accept (.fill 7) "10.0.0.1", .accept (.fill 8) "10.0.0.2",
      .read (.fill 7) (encodeFrame 0x0001 [117, 0, 112, 0, 118] ++ encodeFrame 0x02FE []),
      .read (.fill 8) []]
    (fun g => workLeft g = 33 ∧
      (g.connections.lookup (.fill 8)).any fun conn => conn.stage = .closing) (by decide +kernel)
  obtain ⟨hwork, hclosing⟩ := of_decide_eq_true hp
  obtain ⟨conn, hl, hst⟩ := (Option.any_eq_true _ _).mp hclosing
  have hsettles := gateway_settles hg
  obtain ⟨as, d, hexec, -, hdone⟩ := hsettles.exists_done
  refine ⟨g, hg, hwork, as, d, hexec, hwork ▸ hsettles.bounded as d hexec, ?_⟩
  exact (hdone.gone _ conn hl (.inl (of_decide_eq_true hst))).1

end HelbreathBackend.GatewayProgress
