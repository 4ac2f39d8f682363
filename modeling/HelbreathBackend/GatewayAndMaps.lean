import HelbreathBackend.CommandOrder
import HelbreathBackend.Delivery
import HelbreathBackend.GatewayAndAuth

/-!
The way of a command from its connection to the instances of the maps.

The router makes its requests of the world service one after the other, and waits for each of them
for a while. The handler of a request puts the command into the inbox of the coordinator, from which
it goes to the channel of its map and to the instance behind it. A request that the router has given
up may still be on its way, and be handled when the router is already at a later one.
-/

namespace HelbreathBackend.GatewayAndMaps

open HelbreathBackend.Lib HelbreathBackend.Domain HelbreathBackend.Application
open HelbreathBackend.Gateway HelbreathBackend.World HelbreathBackend.MapServer
open HelbreathBackend.GatewaySystem HelbreathBackend.GatewayTrace HelbreathBackend.RouterRun
open HelbreathBackend.Grants HelbreathBackend.Routing HelbreathBackend.CommandOrder
open HelbreathBackend.Frame (Bytes encodeFrame)
open HelbreathBackend.GatewayAndWorld (routed routeCommand)
open HelbreathBackend.MapRuntimes (incoming)
open HelbreathBackend.Delivery (forwarded sentInto sentInto_routeToMap)

structure Deployment where
  gateway : Gateway
  world : Delivery.WorldService
  /-- the request that the router is waiting for has been handled -/
  served : Bool
  /-- requests that were given up before they were handled -/
  late : List BackendRequest

inductive Action
  | gateway (a : GatewaySystem.Action)
  | serve
  | arriveLate (q : BackendRequest)
  | world (a : Delivery.Action)

/-- The request that the router is waiting for. -/
def asked (g : Gateway) : Option BackendRequest :=
  match g.current with
  | some (_, .call q _) => some q
  | _ => none

/-- Commands are routed for the gateway only. -/
def byOthers : Delivery.Action → Bool
  | .manager (.post (.routeToMap ..)) => false
  | _ => true

section

variable (parseStr : String → Option Uuid) (packetMaxPayload commandBudget : ℕ)

/-- What the handler of a request does in the world service. -/
def handled (w : Delivery.WorldService) : BackendRequest → Option Delivery.WorldService
  | .worldRoute mapId envelope =>
    w.step commandBudget (.manager (.post (.routeToMap mapId envelope.sessionId envelope.characterId
      (routeCommand envelope.command))))
  | _ => some w

/-- The router gets an answer to its request: the one of the handler, or an error before or after
the request was handled. -/
def replied (d : Deployment) (r : HttpReply) : Option Deployment :=
  (asked d.gateway).bind fun q =>
    (GatewaySystem.step parseStr packetMaxPayload d.gateway (.reply r)).bind fun g =>
      if d.served then some { d with gateway := g, served := false }
      else if r.isSuccess then none
      else some { d with gateway := g, late := q :: d.late }

def stepGateway (d : Deployment) : GatewaySystem.Action → Option Deployment
  | .reply r => replied parseStr packetMaxPayload d r
  | a =>
    (GatewaySystem.step parseStr packetMaxPayload d.gateway a).map fun g => { d with gateway := g }

def serve (d : Deployment) : Option Deployment :=
  if d.served then none
  else
    (asked d.gateway).bind fun q =>
      (handled commandBudget d.world q).map fun w => { d with world := w, served := true }

def arriveLate (d : Deployment) (q : BackendRequest) : Option Deployment :=
  if q ∈ d.late then
    (handled commandBudget d.world q).map fun w => { d with world := w, late := d.late.erase q }
  else none

def step (d : Deployment) : Action → Option Deployment
  | .gateway a => stepGateway parseStr packetMaxPayload d a
  | .serve => serve commandBudget d
  | .arriveLate q => arriveLate commandBudget d q
  | .world a =>
    if byOthers a then (d.world.step commandBudget a).map fun w => { d with world := w } else none

def system : System Deployment Action where
  init d := d = ⟨.start, Delivery.start, false, []⟩
  step := step parseStr packetMaxPayload commandBudget

end

/-! ### What a step can be -/

variable {parseStr : String → Option Uuid} {packetMaxPayload budget : ℕ} {d d' : Deployment}

inductive Step (parseStr : String → Option Uuid) (packetMaxPayload budget : ℕ) (d : Deployment) :
    Action → Deployment → Prop
  | gateway {a : GatewaySystem.Action} {g : Gateway} (ha : ∀ r, a ≠ .reply r)
    (h : GatewaySystem.step parseStr packetMaxPayload d.gateway a = some g) :
    Step parseStr packetMaxPayload budget d (.gateway a) { d with gateway := g }
  | answered {q : BackendRequest} {r : HttpReply} {g : Gateway} (hq : asked d.gateway = some q)
    (h : GatewaySystem.step parseStr packetMaxPayload d.gateway (.reply r) = some g)
    (hs : d.served = true) :
    Step parseStr packetMaxPayload budget d (.gateway (.reply r))
      { d with gateway := g, served := false }
  | givenUp {q : BackendRequest} {r : HttpReply} {g : Gateway} (hq : asked d.gateway = some q)
    (h : GatewaySystem.step parseStr packetMaxPayload d.gateway (.reply r) = some g)
    (hs : d.served = false) :
    Step parseStr packetMaxPayload budget d (.gateway (.reply r))
      { d with gateway := g, late := q :: d.late }
  | serve {q : BackendRequest} {w : Delivery.WorldService} (hs : d.served = false)
    (hq : asked d.gateway = some q) (hw : handled budget d.world q = some w) :
    Step parseStr packetMaxPayload budget d .serve { d with world := w, served := true }
  | arriveLate {q : BackendRequest} {w : Delivery.WorldService} (hq : q ∈ d.late)
    (hw : handled budget d.world q = some w) :
    Step parseStr packetMaxPayload budget d (.arriveLate q)
      { d with world := w, late := d.late.erase q }
  | world {a : Delivery.Action} {w : Delivery.WorldService} (ha : byOthers a = true)
    (hw : d.world.step budget a = some w) :
    Step parseStr packetMaxPayload budget d (.world a) { d with world := w }

lemma step_cases {a : Action} (h : step parseStr packetMaxPayload budget d a = some d') :
    Step parseStr packetMaxPayload budget d a d' := by
  cases a with
  | gateway a =>
    cases a with
    | reply r =>
      obtain ⟨q, hq, h⟩ := Option.bind_eq_some_iff.mp h
      obtain ⟨g, hg, h⟩ := Option.bind_eq_some_iff.mp h
      split at h
      · next hs =>
        obtain rfl := Option.some.inj h
        exact .answered hq hg hs
      · next hs =>
        split at h
        · cases h
        · obtain rfl := Option.some.inj h
          exact .givenUp hq hg (Bool.eq_false_iff.mpr hs)
    | _ =>
      obtain ⟨g, hg, rfl⟩ := Option.map_eq_some_iff.mp h
      exact .gateway (fun r he => by cases he) hg
  | serve =>
    simp only [step, serve] at h
    split at h
    · cases h
    · next hs =>
      obtain ⟨q, hq, h⟩ := Option.bind_eq_some_iff.mp h
      obtain ⟨w, hw, rfl⟩ := Option.map_eq_some_iff.mp h
      exact .serve (Bool.eq_false_iff.mpr hs) hq hw
  | arriveLate q =>
    simp only [step, arriveLate] at h
    split at h
    · next hq =>
      obtain ⟨w, hw, rfl⟩ := Option.map_eq_some_iff.mp h
      exact .arriveLate hq hw
    · cases h
  | world a =>
    simp only [step] at h
    split at h
    · next ha =>
      obtain ⟨w, hw, rfl⟩ := Option.map_eq_some_iff.mp h
      exact .world ha hw
    · cases h

/-- The gateway of a deployment runs as a gateway does on its own. -/
theorem gateway_reached (h : (system parseStr packetMaxPayload budget).Reached d) :
    (GatewaySystem.system parseStr packetMaxPayload).Reached d.gateway := by
  refine h.projected (·.gateway) ?_ ?_
  · rintro d rfl
    rfl
  · intro d a d' hst
    cases step_cases hst with
    | gateway _ hg => exact .inr ⟨_, hg⟩
    | @answered _ r _ _ hg => exact .inr ⟨.reply r, hg⟩
    | @givenUp _ r _ _ hg => exact .inr ⟨.reply r, hg⟩
    | serve | arriveLate | world => exact .inl rfl

lemma handled_cases {w w' : Delivery.WorldService} {q : BackendRequest}
    (h : handled budget w q = some w') : w' = w ∨ ∃ a, w.step budget a = some w' := by
  cases q with
  | worldRoute m envelope =>
    exact .inr ⟨.manager (.post (.routeToMap m envelope.sessionId envelope.characterId
      (routeCommand envelope.command))), h⟩
  | authLogin | authLogout | authCharacterList | authCharacterCreate | authCharacterDelete
  | authCharacterSelect => exact .inl (Option.some.inj h).symm

/-- And so does the world service. -/
theorem world_reached (h : (system parseStr packetMaxPayload budget).Reached d) :
    (Delivery.system budget).Reached d.world := by
  refine h.projected (·.world) ?_ ?_
  · rintro d rfl
    rfl
  · intro d a d' hst
    cases step_cases hst with
    | gateway | answered | givenUp => exact .inl rfl
    | serve _ _ hw | arriveLate _ hw => exact handled_cases hw
    | world _ hw => exact .inr ⟨_, hw⟩

/-! ### What is put into the inbox of the coordinator -/

/-- The command of a message for session `s`. -/
def routing (s : SessionId) : WorldMessage → Option ClientCommand
  | .routeToMap _ sessionId _ command => if sessionId = s then some command else none
  | _ => none

/-- What the coordinator is told to route for a session. -/
def routedIn (s : SessionId) (msgs : List WorldMessage) : List ClientCommand :=
  msgs.filterMap (routing s)

lemma routedIn_append (s : SessionId) (l l' : List WorldMessage) :
    routedIn s (l ++ l') = routedIn s l ++ routedIn s l' := List.filterMap_append

lemma sent_post {w w' : Delivery.WorldService} {msg : WorldMessage}
    (h : w.step budget (.manager (.post msg)) = some w') : w'.sent = w.sent ++ [msg] := by
  obtain ⟨g, hg, rfl⟩ := Option.map_eq_some_iff.mp h
  obtain ⟨rfl, -⟩ := MapManager.MapRuntimeManager.post_cases hg
  exact (List.append_assoc _ _ _).symm

lemma routedIn_handled {w w' : Delivery.WorldService} {q : BackendRequest}
    (h : handled budget w q = some w') (s : SessionId) :
    routedIn s w'.sent = routedIn s w.sent ++ (putForward s q).toList := by
  cases q with
  | worldRoute m envelope =>
    have hsent : w'.sent = w.sent ++ [.routeToMap m envelope.sessionId envelope.characterId
        (routeCommand envelope.command)] := sent_post h
    rw [hsent, routedIn_append]
    by_cases hs : envelope.sessionId = s <;> simp [routedIn, routing, putForward, hs]
  | authLogin | authLogout | authCharacterList | authCharacterCreate | authCharacterDelete
  | authCharacterSelect =>
    obtain rfl := Option.some.inj h
    exact (List.append_nil _).symm

lemma sent_resumed (w : Delivery.WorldService) (id : MapManager.CallId)
    (g : MapManager.MapRuntimeManager) :
    (w.resumed budget id g).sent = w.handled ++ g.inbox := by
  unfold Delivery.WorldService.resumed
  split <;> rfl

/-- Nobody but the handlers of the gateway routes anything. -/
lemma routedIn_byOthers {w w' : Delivery.WorldService} {a : Delivery.Action}
    (ha : byOthers a = true) (h : w.step budget a = some w') (s : SessionId) :
    routedIn s w'.sent = routedIn s w.sent := by
  cases a with
  | route tx | tick tx iter =>
    obtain ⟨_, -, rfl⟩ := Option.map_eq_some_iff.mp h
    rfl
  | manager a =>
    cases a with
    | post msg =>
      rw [sent_post h, routedIn_append]
      cases msg with
      | routeToMap => cases ha
      | registerMap | unregisterMap | broadcast | getStats => exact List.append_nil _
    | activate id m | deactivate id m =>
      obtain ⟨g, hg, rfl⟩ := Option.map_eq_some_iff.mp h
      obtain ⟨-, rfl⟩ := MapManager.MapRuntimeManager.spawn_cases hg
      rfl
    | recv =>
      obtain ⟨g, hg, rfl⟩ := Option.map_eq_some_iff.mp h
      obtain ⟨⟨g', eff⟩, hrecv, rfl⟩ := Option.map_eq_some_iff.mp hg
      obtain ⟨msg, rest, hin, -, rfl⟩ := MapManager.MapRuntimeManager.recv_cases hrecv
      unfold Delivery.WorldService.managed Delivery.WorldService.received
      dsimp only
      rw [hin]
      unfold Delivery.WorldService.sent
      dsimp only
      rw [hin, List.append_assoc]
      rfl
    | resume id =>
      obtain ⟨g, hg, rfl⟩ := Option.map_eq_some_iff.mp h
      have hsent : (w.managed budget (.resume id) g).sent = w.handled ++ g.inbox :=
        sent_resumed w id g
      rw [hsent, Delivery.WorldService.sent, routedIn_append, routedIn_append]
      cases MapManager.MapRuntimeManager.resume_cases hg with
      | refused | locked | inserted | inactive | removed | aborted => rfl
      | registered | unregistered =>
        rw [routedIn_append s w.manager.inbox]
        exact congrArg _ (List.append_nil _)

/-! ### Requests and the inbox -/

/-- What the handler of the request that the router is waiting for has had routed. -/
def underWay (g : Gateway) (served : Bool) (s : SessionId) : List ClientCommand :=
  if served then ((asked g).bind (putForward s)).toList else []

lemma underWay_unserved (g : Gateway) (s : SessionId) : underWay g false s = [] := rfl

lemma underWay_served {g : Gateway} {q : BackendRequest} (hq : asked g = some q) (s : SessionId) :
    underWay g true s = (putForward s q).toList := by
  rw [underWay, if_pos rfl, hq]
  rfl

lemma current_of_asked {g : Gateway} {q : BackendRequest} (h : asked g = some q) :
    ∃ c k, g.current = some (c, .call q k) := by
  unfold asked at h
  split at h
  · next c q' k hc =>
    obtain rfl := Option.some.inj h
    exact ⟨c, k, hc⟩
  · cases h

lemma exchanges_step {g g' : Gateway} {a : GatewaySystem.Action} (ha : ∀ r, a ≠ .reply r)
    (h : GatewaySystem.step parseStr packetMaxPayload g a = some g') :
    g'.exchanges = g.exchanges := by
  cases GatewaySteps.step_cases h with
  | accept | task | queue | remove | recv | sync | finish => rfl
  | reply _ r => exact absurd rfl (ha r)

lemma asked_step {g g' : Gateway} {a : GatewaySystem.Action} {q : BackendRequest}
    (ha : ∀ r, a ≠ .reply r) (h : GatewaySystem.step parseStr packetMaxPayload g a = some g')
    (hq : asked g = some q) : asked g' = some q := by
  obtain ⟨c, k, hc⟩ := current_of_asked hq
  rw [asked, (GatewayAndAuth.waiting_step ha h hc).trans hc]

lemma exchanges_reply {g g' : Gateway} {q : BackendRequest} {r : HttpReply}
    (h : GatewaySystem.step parseStr packetMaxPayload g (.reply r) = some g')
    (hq : asked g = some q) : g'.exchanges = g.exchanges ++ [(q, r)] := by
  obtain ⟨c, k, hc⟩ := current_of_asked hq
  cases GatewaySteps.step_cases h with
  | task _ ht => cases ht
  | queue _ hq => cases hq
  | reply hc' =>
    rw [hc] at hc'
    cases hc'
    rfl

lemma routedFor_snoc (s : SessionId) (l : List Exchange) (q : BackendRequest) (r : HttpReply) :
    routedFor s (l ++ [(q, r)]) = routedFor s l ++ (putForward s q).toList := by
  rw [routedFor, List.filterMap_append]
  rcases hput : putForward s q with _ | command <;> simp [routedFor, hput]

/-- A request that is said to have been handled is there. -/
def ServedAsked (d : Deployment) : Prop := d.served = true → ∃ q, asked d.gateway = some q

lemma servedAsked_step {a : Action} (hd : ServedAsked d)
    (h : Step parseStr packetMaxPayload budget d a d') : ServedAsked d' := by
  cases h with
  | gateway ha hg =>
    intro hs
    obtain ⟨q, hq⟩ := hd hs
    exact ⟨q, asked_step ha hg hq⟩
  | answered => exact fun hs => by cases hs
  | givenUp _ _ hs => exact fun hs' => by cases hs.symm.trans hs'
  | serve _ hq => exact fun _ => ⟨_, hq⟩
  | arriveLate | world => exact hd

lemma underWay_gateway {a : GatewaySystem.Action} {g : Gateway} (hd : ServedAsked d)
    (ha : ∀ r, a ≠ .reply r)
    (h : GatewaySystem.step parseStr packetMaxPayload d.gateway a = some g) (s : SessionId) :
    underWay g d.served s = underWay d.gateway d.served s := by
  rcases hs : d.served
  · rfl
  · obtain ⟨q, hq⟩ := hd hs
    rw [underWay_served hq, underWay_served (asked_step ha h hq)]

/-- Up to their order: what is routed for a session, with what may still arrive late, is what the
router has asked for. -/
structure Told (d : Deployment) : Prop where
  served : ServedAsked d
  routed : ∀ s, (routedIn s d.world.sent ++ d.late.filterMap (putForward s)).Perm
    (routedFor s d.gateway.exchanges ++ underWay d.gateway d.served s)

lemma filterMap_cons_toList (s : SessionId) (q : BackendRequest) (l : List BackendRequest) :
    (q :: l).filterMap (putForward s) = (putForward s q).toList ++ l.filterMap (putForward s) := by
  rcases hput : putForward s q with _ | command <;> simp [hput]

lemma told_step {a : Action} (hd : Told d) (h : Step parseStr packetMaxPayload budget d a d') :
    Told d' := by
  refine ⟨servedAsked_step hd.served h, fun s => ?_⟩
  have hr := hd.routed s
  cases h with
  | gateway ha hg =>
    dsimp only
    rw [underWay_gateway hd.served ha hg, exchanges_step ha hg]
    exact hr
  | answered hq hg hs =>
    rw [hs, underWay_served hq] at hr
    dsimp only
    rw [underWay_unserved, List.append_nil, exchanges_reply hg hq, routedFor_snoc]
    exact hr
  | @givenUp q r g hq hg hs =>
    rw [hs, underWay_unserved, List.append_nil] at hr
    dsimp only
    rw [hs, underWay_unserved, List.append_nil, exchanges_reply hg hq, routedFor_snoc,
      filterMap_cons_toList]
    calc routedIn s d.world.sent ++ ((putForward s q).toList ++ d.late.filterMap (putForward s))
      _ |>.Perm (routedIn s d.world.sent ++ (d.late.filterMap (putForward s) ++
          (putForward s q).toList)) := List.perm_append_comm.append_left _
      _ |>.Perm (routedFor s d.gateway.exchanges ++ (putForward s q).toList) := by
        rw [← List.append_assoc]
        exact hr.append_right _
  | @serve q w hs hq hw =>
    rw [hs, underWay_unserved, List.append_nil] at hr
    dsimp only
    rw [underWay_served hq, routedIn_handled hw, List.append_assoc]
    exact (List.perm_append_comm.append_left _).trans
      ((List.append_assoc _ _ _) ▸ hr.append_right _)
  | @arriveLate q w hq hw =>
    have hlate := (List.perm_cons_erase hq).filterMap (putForward s)
    rw [filterMap_cons_toList] at hlate
    dsimp only
    rw [routedIn_handled hw, List.append_assoc]
    exact (hlate.symm.append_left _).trans hr
  | world ha hw =>
    dsimp only
    rw [routedIn_byOthers ha hw]
    exact hr

theorem told_of_reached (h : (system parseStr packetMaxPayload budget).Reached d) : Told d := by
  refine h.invariant Told ?_ fun d a d' hd _ hst => told_step hd (step_cases hst)
  rintro d rfl
  exact ⟨fun hs => (Bool.false_ne_true hs).elim, fun s => List.Perm.refl _⟩

/-- The router gives up no request of the world that has not been handled. -/
def Patient (d : Deployment) : Action → Prop
  | .gateway (.reply _) => d.served = true ∨ ∀ q ∈ asked d.gateway, routed q = []
  | _ => True

instance (d : Deployment) (a : Action) : Decidable (Patient d a) := by
  unfold Patient
  split <;> infer_instance

/-- In order: what is routed for a session is what the router has asked for, and nothing is late. -/
structure ToldInOrder (d : Deployment) : Prop where
  served : ServedAsked d
  late : ∀ q ∈ d.late, routed q = []
  routed : ∀ s, routedIn s d.world.sent =
    routedFor s d.gateway.exchanges ++ underWay d.gateway d.served s

lemma putForward_of_routed {q : BackendRequest} (h : routed q = []) (s : SessionId) :
    putForward s q = none := by
  cases q with
  | worldRoute m envelope => cases h
  | authLogin | authLogout | authCharacterList | authCharacterCreate | authCharacterDelete
  | authCharacterSelect => rfl

lemma toldInOrder_step {a : Action} (hd : ToldInOrder d) (ha : Patient d a)
    (h : Step parseStr packetMaxPayload budget d a d') : ToldInOrder d' := by
  have hserved := servedAsked_step hd.served h
  cases h with
  | gateway hnot hg =>
    refine ⟨hserved, hd.late, fun s => ?_⟩
    dsimp only
    rw [underWay_gateway hd.served hnot hg, exchanges_step hnot hg]
    exact hd.routed s
  | answered hq hg hs =>
    refine ⟨hserved, hd.late, fun s => ?_⟩
    dsimp only
    rw [underWay_unserved, List.append_nil, exchanges_reply hg hq, routedFor_snoc, hd.routed s,
      hs, underWay_served hq]
  | @givenUp q r g hq hg hs =>
    have hnone : GatewayAndWorld.routed q = [] := by
      rcases ha with hs' | hnone
      · cases hs.symm.trans hs'
      · exact hnone q hq
    refine ⟨hserved, fun q' hq' => ?_, fun s => ?_⟩
    · rcases List.mem_cons.mp hq' with rfl | hq'
      · exact hnone
      · exact hd.late q' hq'
    · dsimp only
      rw [hd.routed s, hs, underWay_unserved, underWay_unserved, exchanges_reply hg hq,
        routedFor_snoc, putForward_of_routed hnone, Option.toList_none, List.append_nil,
        List.append_nil]
  | serve hs hq hw =>
    refine ⟨hserved, hd.late, fun s => ?_⟩
    dsimp only
    rw [underWay_served hq, routedIn_handled hw, hd.routed s, hs, underWay_unserved,
      List.append_nil]
  | @arriveLate q w hq hw =>
    refine ⟨hserved, fun q' hq' => hd.late q' (List.mem_of_mem_erase hq'), fun s => ?_⟩
    dsimp only
    rw [routedIn_handled hw, putForward_of_routed (hd.late q hq), ← hd.routed s]
    exact List.append_nil _
  | world hby hw =>
    refine ⟨hserved, hd.late, fun s => ?_⟩
    dsimp only
    rw [routedIn_byOthers hby hw]
    exact hd.routed s

theorem toldInOrder_of_reached (h : (system parseStr packetMaxPayload budget).ReachedBy Patient d) :
    ToldInOrder d := by
  refine h.invariant ToldInOrder ?_ fun d a d' hd ha hst => toldInOrder_step hd ha (step_cases hst)
  rintro d rfl
  exact ⟨fun hs => (Bool.false_ne_true hs).elim, fun _ hq => absurd hq List.not_mem_nil,
    fun _ => rfl⟩

/-- What the router has asked for, with what is under way, is part of what it has taken. -/
lemma asked_sublist (h : (system parseStr packetMaxPayload budget).Reached d) (s : SessionId) :
    (routedFor s d.gateway.exchanges ++ underWay d.gateway d.served s).Sublist
      (commandsOf s d.gateway.handled) := by
  have hg := gateway_reached h
  have ho := inOrder_of_reached hg
  rcases hs : d.served
  · rw [underWay_unserved, List.append_nil]
    exact ho.ordered s
  · obtain ⟨q, hq⟩ := (told_of_reached h).served hs
    obtain ⟨c, k, hc⟩ := current_of_asked hq
    rw [underWay_served hq]
    exact ho.asking (traced_of_reached hg) (routed_of_reached hg) hc s

/-! ### From the inbox to the instances -/

/-- The command of the session that an instance gets. -/
def commandFor (s : SessionId) (command : IncomingCommand) : Option ClientCommand :=
  if command.sessionId = s then some command.command else none

/-- What an effect puts into a channel, with the channel. -/
def sentOut : Option Effect → List (ChannelId × IncomingCommand)
  | some (.forward tx cmd) => [(tx, incoming cmd)]
  | _ => []

/-- What the coordinator has put into channels in the course of a history. -/
def allForwarded (c : WorldCoordinator) (hist : List WorldMessage) :
    List (ChannelId × IncomingCommand) :=
  (outputs WorldCoordinator.handle c hist).flatMap sentOut

/-- What all instances have processed, with their channels. -/
def allProcessed (w : Delivery.WorldService) : List (ChannelId × IncomingCommand) :=
  w.ticks.flatMap fun t => t.commands.map (t.channel, ·)

lemma filter_sentOut (tx : ChannelId) (eff : Option Effect) :
    (sentOut eff).filter (fun p => p.1 = tx) = (sentInto tx eff).map (tx, ·) := by
  rcases eff with _ | ⟨tx', cmd⟩ | _
  · rfl
  · by_cases htx : tx' = tx <;> simp [sentOut, sentInto, htx]
  · rfl

lemma filter_allForwarded (tx : ChannelId) (hist : List WorldMessage) :
    (allForwarded .new hist).filter (fun p => p.1 = tx) = (forwarded tx hist).map (tx, ·) := by
  rw [allForwarded, List.filter_flatMap, forwarded, List.map_flatMap]
  exact List.flatMap_congr fun eff _ => filter_sentOut tx eff

lemma filter_allProcessed (tx : ChannelId) (w : Delivery.WorldService) :
    (allProcessed w).filter (fun p => p.1 = tx) = (w.processed tx).map (tx, ·) := by
  rw [allProcessed, List.filter_flatMap, Delivery.WorldService.processed, List.map_flatMap]
  refine List.flatMap_congr fun t _ => ?_
  split
  · next htx => simp [htx]
  · next htx => simp [htx]

lemma processed_begins {w : Delivery.WorldService} (hc : Delivery.Carried budget w)
    (tx : ChannelId) : w.processed tx <+: forwarded tx w.handled := by
  rcases hrt : w.runtimes.lookup tx with _ | rt
  · rw [Delivery.processed_of_stranger hc hrt]
    exact List.nil_prefix
  · exact ⟨_, (hc.behind tx rt hrt).flow⟩

/-- No instance processes more than what the coordinator has put into its channel. -/
lemma allProcessed_subperm {w : Delivery.WorldService} (hc : Delivery.Carried budget w) :
    (allProcessed w).Subperm (allForwarded .new w.handled) := by
  have hchannel : ∀ tx, ((allProcessed w).filter fun p => p.1 = tx).Subperm
      ((allForwarded .new w.handled).filter fun p => p.1 = tx) := by
    intro tx
    rw [filter_allProcessed, filter_allForwarded]
    exact ((processed_begins hc tx).sublist.map _).subperm
  exact subperm_of_filter hchannel

/-- The coordinator forwards what it is told to route, or drops it. -/
lemma allForwarded_sublist (s : SessionId) (c : WorldCoordinator) (hist : List WorldMessage) :
    ((allForwarded c hist).filterMap fun p => commandFor s p.2).Sublist (routedIn s hist) := by
  induction hist generalizing c with
  | nil => exact List.Sublist.refl _
  | cons msg hist ih =>
    have hhead : ((sentOut (c.handle msg).2).filterMap fun p => commandFor s p.2).Sublist
        (routedIn s [msg]) := by
      cases msg with
      | routeToMap m s' cid cmd =>
        unfold WorldCoordinator.handle
        dsimp only
        rcases (c.track m s' cmd).mapSenders.lookup m with _ | tx
        · exact List.nil_sublist _
        · exact List.Sublist.refl _
      | registerMap | unregisterMap | broadcast | getStats => exact List.nil_sublist _
    rw [allForwarded, outputs, List.flatMap_cons, List.filterMap_append]
    exact (hhead.append (ih _)).trans (routedIn_append s [msg] hist ▸ List.Sublist.refl _)

lemma handled_sublist_sent (w : Delivery.WorldService) (s : SessionId) :
    (routedIn s w.handled).Sublist (routedIn s w.sent) := by
  rw [Delivery.WorldService.sent, routedIn_append]
  exact List.sublist_append_left _ _

/-! ### What the instances process for a session -/

/-- Taken together, the instances process for a session part of what the coordinator is told to route
for it. -/
lemma processed_subperm_routed (h : (system parseStr packetMaxPayload budget).Reached d)
    (s : SessionId) :
    ((d.world.ticks.flatMap (·.commands)).filterMap (commandFor s)).Subperm
      (routedIn s d.world.sent) := by
  have hc := (Delivery.carried_of_reached (world_reached h)).2
  have hall : (d.world.ticks.flatMap (·.commands)).filterMap (commandFor s) =
      (allProcessed d.world).filterMap fun p => commandFor s p.2 := by
    rw [allProcessed, List.filterMap_flatMap, List.filterMap_flatMap]
    refine List.flatMap_congr fun t _ => ?_
    rw [List.filterMap_map]
    rfl
  have hforwarded : ((allProcessed d.world).filterMap fun p => commandFor s p.2).Subperm
      ((allForwarded .new d.world.handled).filterMap fun p => commandFor s p.2) :=
    subperm_filterMap _ (allProcessed_subperm hc)
  rw [hall]
  exact hforwarded.trans
    ((allForwarded_sublist s _ _).trans (handled_sublist_sent d.world s)).subperm

/-- The coordinator is told to route for a session part of what the router has taken for it. -/
lemma routed_subperm_handled (h : (system parseStr packetMaxPayload budget).Reached d)
    (s : SessionId) : (routedIn s d.world.sent).Subperm (commandsOf s d.gateway.handled) :=
  (List.sublist_append_left _ _).subperm.trans
    (((told_of_reached h).routed s).subperm.trans (asked_sublist h s).subperm)

/-- One instance does so in order. -/
lemma processed_sublist_routed (h : (system parseStr packetMaxPayload budget).Reached d)
    (s : SessionId) (tx : ChannelId) :
    ((d.world.processed tx).filterMap (commandFor s)).Sublist (routedIn s d.world.sent) := by
  have hc := (Delivery.carried_of_reached (world_reached h)).2
  have hforwarded : ((forwarded tx d.world.handled).filterMap (commandFor s)).Sublist
      (routedIn s d.world.handled) := by
    have hsub := (List.filter_sublist (p := fun p : ChannelId × IncomingCommand => p.1 = tx)
      (l := allForwarded .new d.world.handled)).filterMap fun p => commandFor s p.2
    rw [filter_allForwarded, List.filterMap_map] at hsub
    exact hsub.trans (allForwarded_sublist s _ _)
  calc (d.world.processed tx).filterMap (commandFor s)
    _ |>.Sublist ((forwarded tx d.world.handled).filterMap (commandFor s)) :=
      (processed_begins hc tx).sublist.filterMap _
    _ |>.Sublist (routedIn s d.world.handled) := hforwarded
    _ |>.Sublist (routedIn s d.world.sent) := handled_sublist_sent d.world s

lemma routed_sublist_handled (h : (system parseStr packetMaxPayload budget).ReachedBy Patient d)
    (s : SessionId) : (routedIn s d.world.sent).Sublist (commandsOf s d.gateway.handled) := by
  rw [(toldInOrder_of_reached h).routed s]
  exact asked_sublist h.reached s

/-- Map 2 is activated, a session logs in, selects a character and queues more. -/
def opened (more : Bytes) : List Action :=
  [.world (.manager (.activate 0 2)), .world (.manager (.resume 0)), .world (.manager (.resume 0)),
    .world (.manager (.resume 0)), .world (.manager .recv),
    .gateway (.accept (.fill 7) "10.0.0.1"),
    .gateway (.read (.fill 7) (encodeFrame 0x0001 [117, 0, 112, 0, 118] ++
      encodeFrame 0x0004 (Uuid.fill 5).bytes ++ encodeFrame 0x0005 [] ++ more)),
    .gateway (.frame (.fill 7) true), .gateway (.send (.fill 7)),
    .gateway (.frame (.fill 7) true), .gateway (.send (.fill 7)),
    .gateway (.frame (.fill 7) true), .gateway (.send (.fill 7)),
    .gateway (.frame (.fill 7) true), .gateway (.send (.fill 7)),
    .gateway .recv, .gateway .sync, .gateway .sync, .serve,
    .gateway (.reply (.response 200 (.login ⟨true, some (.fill 1), none⟩))),
    .gateway .sync, .gateway .finish,
    .gateway .recv, .gateway .sync, .gateway .sync, .serve,
    .gateway (.reply
      (.response 200 (.characterSelect ⟨true, some (.fill 5), some 2, none, none, none⟩))),
    .gateway .sync, .gateway .finish]

/-- **No command is processed more often than its connection has queued it**, however late requests
arrive and however the tasks of the world service interleave: taken together, the instances of all
maps process for a session part of what the router has taken for it, up to the order. -/
theorem processed_at_most_once (h : (system parseStr packetMaxPayload budget).Reached d)
    (s : SessionId) :
    ((d.world.ticks.flatMap (·.commands)).filterMap (commandFor s)).Subperm
      (commandsOf s d.gateway.handled) := by
  have hrouted := processed_subperm_routed h s
  exact hrouted.trans (routed_subperm_handled h s)

/-- The router gives up the entry and goes on to the heartbeat; the entry arrives after it. -/
theorem processed_at_most_once_late :
    ∃ d, (system (fun _ => none) 65535 64).Reached d ∧
      (d.world.ticks.flatMap (·.commands)).filterMap (commandFor (.fill 7)) =
        [.heartbeat, .enterWorld] ∧
      ((d.world.ticks.flatMap (·.commands)).filterMap (commandFor (.fill 7))).Subperm
        (commandsOf (.fill 7) d.gateway.handled) := by
  obtain ⟨d, hd, hp⟩ := (system (fun _ => none) 65535 64).exists_reachedBy (fun _ _ => True) rfl
    (opened (encodeFrame 0x02FE []) ++
      [.gateway .recv, .gateway .sync, .gateway .sync, .gateway .sync,
        .gateway (.reply .error), .gateway .finish,
        .gateway .recv, .gateway .sync, .gateway .sync, .serve,
        .gateway (.reply (.response 200 .other)), .gateway .finish,
        .arriveLate (.worldRoute 2 ⟨.fill 7, some (.fill 5), .enterWorld⟩),
        .world (.manager .recv), .world (.manager .recv), .world (.route 0), .world (.route 0),
        .world (.tick 0 default)])
    (fun d => (d.world.ticks.flatMap (·.commands)).filterMap (commandFor (.fill 7)) =
      [.heartbeat, .enterWorld]) (by decide +kernel)
  exact ⟨d, hd, of_decide_eq_true hp, processed_at_most_once hd (.fill 7)⟩

/-- **Commands are processed in the order their connection has queued them**, in a run in which the
router never goes on from a request of the world that is still to be handled. -/
theorem processed_in_order (h : (system parseStr packetMaxPayload budget).ReachedBy Patient d)
    (s : SessionId) (tx : ChannelId) :
    ((d.world.processed tx).filterMap (commandFor s)).Sublist
      (commandsOf s d.gateway.handled) := by
  have hrouted := processed_sublist_routed h.reached s tx
  exact hrouted.trans (routed_sublist_handled h s)

/-- An entry and a heartbeat, each handled before the router goes on. -/
theorem processed_in_order_entered :
    ∃ d, (system (fun _ => none) 65535 64).ReachedBy Patient d ∧
      (d.world.processed 0).filterMap (commandFor (.fill 7)) = [.enterWorld, .heartbeat] ∧
      ((d.world.processed 0).filterMap (commandFor (.fill 7))).Sublist
        (commandsOf (.fill 7) d.gateway.handled) := by
  obtain ⟨d, hd, hp⟩ := (system (fun _ => none) 65535 64).exists_reachedBy Patient rfl
    (opened (encodeFrame 0x02FE []) ++
      [.gateway .recv, .gateway .sync, .gateway .sync, .gateway .sync, .serve,
        .gateway (.reply (.response 200 .other)), .gateway .sync, .gateway .finish,
        .gateway .recv, .gateway .sync, .gateway .sync, .serve,
        .gateway (.reply (.response 200 .other)), .gateway .finish,
        .world (.manager .recv), .world (.manager .recv), .world (.route 0), .world (.route 0),
        .world (.tick 0 default)])
    (fun d => (d.world.processed 0).filterMap (commandFor (.fill 7)) = [.enterWorld, .heartbeat])
    (by decide +kernel)
  exact ⟨d, hd, of_decide_eq_true hp, processed_in_order hd (.fill 7) 0⟩

end HelbreathBackend.GatewayAndMaps
