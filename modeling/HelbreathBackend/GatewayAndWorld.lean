import HelbreathBackend.MapRuntimes
import HelbreathBackend.RouterRun

/-!
The gateway and the world service together.

Every request of the router is served and replied to with success; a routed command has been
put into the inbox of the coordinator by then. The operator of the world service activates and
deactivates maps meanwhile. What has been put into the inbox is kept as history.
-/

namespace HelbreathBackend.GatewayAndWorld

open HelbreathBackend.Lib HelbreathBackend.Domain HelbreathBackend.Application
open HelbreathBackend.World HelbreathBackend.MapServer HelbreathBackend.MapRuntimes
open HelbreathBackend.MapRuntimes.WorldRuntime HelbreathBackend.Gateway
open HelbreathBackend.Grants HelbreathBackend.Routing HelbreathBackend.GatewaySystem
open HelbreathBackend.GatewayTrace HelbreathBackend.RouterRun

/-- The match of `route_command` in the world service. -/
def routeCommand : WorldRouteCommandRequest → ClientCommand
  | .heartbeat => .heartbeat
  | .enterWorld => .enterWorld
  | .move x y run => .move x y run
  | .attack targetId => .attack targetId
  | .castSkill skillId targetId => .castSkill skillId targetId
  | .pickupItem entityId => .pickupItem entityId
  | .dropItem slot quantity => .dropItem slot quantity
  | .useItem slot => .useItem slot
  | .npcInteraction npcId => .npcInteraction npcId
  | .chat message => .chat message
  | .whisper toCharacter message => .whisper toCharacter message
  | .guildChat message => .guildChat message
  | .logout => .logout

/-- What serving a request puts into the inbox of the coordinator. -/
def routed : BackendRequest → List WorldMessage
  | .worldRoute mapId envelope =>
    [.routeToMap mapId envelope.sessionId envelope.characterId (routeCommand envelope.command)]
  | _ => []

structure Deployment where
  gateway : Gateway
  world : WorldRuntime
  /-- the request that the router is waiting for has been served -/
  served : Bool
  /-- history: what has been put into the inbox of the coordinator -/
  messages : List WorldMessage

inductive Action
  | gateway (a : GatewaySystem.Action)
  | serve
  | world (a : MapRuntimes.Action)

/-- What an action of the world service puts into the inbox. -/
def announcing (w : WorldRuntime) : MapRuntimes.Action → List WorldMessage
  | .register mapId => [.registerMap mapId w.nextChannel]
  | .post msg => [msg]
  | _ => []

/-- Commands are routed for the gateway only. -/
def byOperator : MapRuntimes.Action → Bool
  | .post (.routeToMap ..) => false
  | _ => true

section

variable (parseStr : String → Option Uuid) (packetMaxPayload commandBudget : ℕ)

def stepGateway (d : Deployment) (a : GatewaySystem.Action) : Option Deployment :=
  match a with
  | .reply r =>
    if d.served && r.isSuccess then
      (GatewaySystem.step parseStr packetMaxPayload d.gateway (.reply r)).map fun g =>
        { d with gateway := g, served := false }
    else none
  | a =>
    (GatewaySystem.step parseStr packetMaxPayload d.gateway a).map fun g => { d with gateway := g }

def serve (d : Deployment) : Option Deployment :=
  match d.gateway.current, d.served with
  | some (_, .call q _), false =>
    some { d with
      world := { d.world with inbox := d.world.inbox ++ routed q }
      served := true
      messages := d.messages ++ routed q }
  | _, _ => none

def stepWorld (d : Deployment) (a : MapRuntimes.Action) : Option Deployment :=
  if byOperator a then
    (d.world.step commandBudget a).map fun w =>
      { d with world := w, messages := d.messages ++ announcing d.world a }
  else none

def step (d : Deployment) : Action → Option Deployment
  | .gateway a => stepGateway parseStr packetMaxPayload d a
  | .serve => serve d
  | .world a => stepWorld commandBudget d a

def system : System Deployment Action where
  init d := d = ⟨.start, MapRuntimes.start, false, []⟩
  step := step parseStr packetMaxPayload commandBudget

end

/-! ### The two parts -/

variable {parseStr : String → Option Uuid} {packetMaxPayload commandBudget : ℕ}
  {d d' : Deployment}

lemma stepGateway_cases {a : GatewaySystem.Action}
    (h : stepGateway parseStr packetMaxPayload d a = some d') :
    ∃ g served, GatewaySystem.step parseStr packetMaxPayload d.gateway a = some g ∧
      d' = { d with gateway := g, served := served } := by
  unfold stepGateway at h
  split at h
  · split at h
    · obtain ⟨g, hg, rfl⟩ := Option.map_eq_some_iff.mp h
      exact ⟨g, false, hg, rfl⟩
    · cases h
  · obtain ⟨g, hg, rfl⟩ := Option.map_eq_some_iff.mp h
    exact ⟨g, d.served, hg, rfl⟩

lemma serve_cases (h : serve d = some d') :
    ∃ c q k, d.gateway.current = some (c, .call q k) ∧
      d' = { d with
        world := { d.world with inbox := d.world.inbox ++ routed q }
        served := true
        messages := d.messages ++ routed q } := by
  unfold serve at h
  split at h
  · next c q k hc _ => exact ⟨c, q, k, hc, (Option.some.inj h).symm⟩
  · cases h

lemma stepWorld_cases {a : MapRuntimes.Action} (h : stepWorld commandBudget d a = some d') :
    byOperator a = true ∧ ∃ w, d.world.step commandBudget a = some w ∧
      d' = { d with world := w, messages := d.messages ++ announcing d.world a } := by
  unfold stepWorld at h
  split at h
  · next ha =>
    obtain ⟨w, hw, rfl⟩ := Option.map_eq_some_iff.mp h
    exact ⟨ha, w, hw, rfl⟩
  · cases h

/-- The gateway of a deployment runs as a gateway does on its own. -/
theorem gateway_reached
    (h : (system parseStr packetMaxPayload commandBudget).Reached d) :
    (GatewaySystem.system parseStr packetMaxPayload).Reached d.gateway := by
  refine h.projected (·.gateway) ?_ ?_
  · rintro d rfl
    rfl
  · intro d a d' hst
    cases a with
    | gateway a =>
      obtain ⟨g, served, hg, rfl⟩ := stepGateway_cases hst
      exact .inr ⟨a, hg⟩
    | serve =>
      obtain ⟨_, _, _, _, rfl⟩ := serve_cases hst
      exact .inl rfl
    | world a =>
      obtain ⟨_, _, _, rfl⟩ := stepWorld_cases hst
      exact .inl rfl

/-! ### The history of the world -/

/-- Who is on which map after a sequence of messages. -/
def occupancyAfter (msgs : List WorldMessage) : Occupancy := msgs.foldl Occupancy.next fun _ => none

/-- The coordinator has handled a beginning of the history; the inbox is the rest of it. -/
structure Handled (d : Deployment) (hist : List WorldMessage) : Prop where
  messages : d.messages = hist ++ d.world.inbox
  coordinator : d.world.coordinator = .run hist
  occupancy : d.world.occupancy = occupancyAfter hist

lemma inbox_step {w w' : WorldRuntime} {a : MapRuntimes.Action}
    (h : w.step commandBudget a = some w') (ha : a ≠ .recv) :
    w'.inbox = w.inbox ++ announcing w a := by
  cases a with
  | register mapId =>
    obtain rfl := Option.some.inj h
    rfl
  | post msg =>
    obtain ⟨rfl, -⟩ := announced_post h
    rfl
  | recv => exact absurd rfl ha
  | route tx =>
    obtain ⟨rt, -, rfl⟩ := Option.map_eq_some_iff.mp h
    exact (List.append_nil _).symm
  | tick tx iter =>
    obtain ⟨rt, -, rfl⟩ := Option.map_eq_some_iff.mp h
    exact (List.append_nil _).symm

lemma wired_routed {w : WorldRuntime} (hw : Wired w) (q : BackendRequest) :
    Wired { w with inbox := w.inbox ++ routed q } := by
  cases q with
  | worldRoute m envelope =>
    exact hw.post (show w.post (.routeToMap m envelope.sessionId envelope.characterId
      (routeCommand envelope.command)) = some _ from rfl)
  | authLogin | authLogout | authCharacterList | authCharacterCreate | authCharacterDelete
  | authCharacterSelect =>
    unfold routed
    rw [List.append_nil]
    exact hw

theorem handled_of_reached
    (h : (system parseStr packetMaxPayload commandBudget).Reached d) :
    Wired d.world ∧ ∃ hist, Handled d hist := by
  refine h.invariant (fun d => Wired d.world ∧ ∃ hist, Handled d hist) ?_ ?_
  · rintro d rfl
    refine ⟨wired_start, [], rfl, rfl, ?_⟩
    funext m
    rfl
  · rintro d a d' ⟨hw, hist, hm, hc, ho⟩ _ hst
    cases a with
    | gateway a =>
      obtain ⟨_, _, _, rfl⟩ := stepGateway_cases hst
      exact ⟨hw, hist, hm, hc, ho⟩
    | serve =>
      obtain ⟨c, q, k, -, rfl⟩ := serve_cases hst
      refine ⟨wired_routed hw q, hist, ?_, hc, ho⟩
      dsimp only
      rw [hm, List.append_assoc]
    | world a =>
      obtain ⟨-, w, hstep, rfl⟩ := stepWorld_cases hst
      by_cases hr : a = .recv
      · subst hr
        obtain ⟨hw', msg, rest, hin, hin', hc', ho'⟩ := wired_recv hw hstep
        refine ⟨hw', hist ++ [msg], ?_, ?_, ?_⟩
        · dsimp only
          rw [hin', hm, hin]
          simp [announcing]
        · dsimp only
          rw [hc', hc, WorldCoordinator.run, WorldCoordinator.run, List.foldl_append]
          rfl
        · dsimp only
          rw [ho', ho, occupancyAfter, occupancyAfter, List.foldl_append]
          rfl
      · obtain ⟨hw', ⟨msg, rest, hrecv, -⟩ | ⟨hc', ho', -⟩⟩ := wired_step hw hstep
        · exact absurd hrecv hr
        · refine ⟨hw', hist, ?_, hc'.trans hc, ho'.trans ho⟩
          dsimp only
          rw [inbox_step hstep hr, hm, List.append_assoc]

end HelbreathBackend.GatewayAndWorld
