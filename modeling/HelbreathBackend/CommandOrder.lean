import HelbreathBackend.GatewayAndWorld
import HelbreathBackend.WorldPosts

/-!
The order in which the router asks the world to route the commands of a session.

For each command that it takes off its queue the router makes one request of the world at most,
about that command, and before any other request. So what it has asked the world to route for a
session is part of what it has taken for the session, in the same order.
-/

namespace HelbreathBackend.CommandOrder

open HelbreathBackend.Lib HelbreathBackend.Lib.Contract HelbreathBackend.Domain
open HelbreathBackend.Application HelbreathBackend.Gateway HelbreathBackend.Gateway.Router
open HelbreathBackend.World HelbreathBackend.Grants HelbreathBackend.Routing
open HelbreathBackend.GatewaySystem HelbreathBackend.GatewayTrace HelbreathBackend.RouterRun
open HelbreathBackend.GatewayAndWorld

/-! ### One command of the router -/

/-- For a command that the router takes after the exchanges `start`: a request of the world is the
first one, and it is about the command. -/
def carrying (s : SessionId) (start : List Exchange) (c : InternalCommand) :
    Contract Sessions BackendRequest HttpReply where
  rely _ _ := True
  guar _ _ := True
  may q _ l := ∀ m env, q = .worldRoute m env →
    l = start ∧ env.sessionId = s ∧ c = .routeClientCommand s none (routeCommand env.command)
  rely_refl _ := trivial
  rely_trans _ _ := trivial
  guar_refl _ := trivial

section

variable {s : SessionId} {start l : List Exchange} {c : InternalCommand} {σ : Sessions}

abbrev whatever : Unit → Sessions → List Exchange → Prop := fun _ _ _ => True

lemma carrying_done : (carrying s start c).Meets (pure ()) whatever σ l := fun _ _ => trivial

lemma carrying_modify (f : Sessions → Sessions) :
    (carrying s start c).Meets (Task.modify f) whatever σ l :=
  meets_modify fun _ _ => ⟨trivial, fun _ _ => trivial⟩

/-- A request of the authentication service. -/
lemma carrying_ask {q : BackendRequest} {k : HttpReply → Router Unit}
    (hq : ∀ m env, q ≠ .worldRoute m env)
    (hk : ∀ σ' r, (carrying s start c).Meets (k r) whatever σ' (l ++ [(q, r)])) :
    (carrying s start c).Meets (Router.post q >>= k) whatever σ l :=
  meets_request fun σ' _ => ⟨fun m env he => absurd he (hq m env), fun r => hk σ' r⟩

lemma carrying_world {m : MapId} {r : WorldRouteCommandRequest} {k : Bool → Router Unit}
    (hc : c = .routeClientCommand s none (routeCommand r))
    (hk : ∀ σ' l' b, (carrying s l c).Meets (k b) whatever σ' l') :
    (carrying s l c).Meets (routeWorldCommand s m r >>= k) whatever σ l := by
  change (carrying s l c).Meets (Task.read (fun f : Sessions => f.lookup s) >>= fun sess =>
    Router.post (.worldRoute m ⟨s, sess.bind (·.characterId), r⟩) >>= fun reply =>
      k reply.isSuccess) whatever σ l
  refine meets_read fun σ₁ _ => meets_request fun σ₂ _ => ⟨?_, fun _ => hk σ₂ _ _⟩
  rintro _ _ ⟨⟩
  exact ⟨rfl, rfl, hc⟩

lemma carrying_guard {f : Option SessionRuntime → Bool} {task : Router Unit}
    (htask : ∀ σ', (carrying s start c).Meets task whatever σ' l) :
    (carrying s start c).Meets (Task.read (fun m : Sessions => m.lookup s) >>= fun sess =>
      if f sess = true then task else pure ()) whatever σ l := by
  refine meets_read fun σ' _ => ?_
  split
  · exact htask σ'
  · exact carrying_done

lemma carrying_authenticated {route : Router Unit}
    (hroute : ∀ σ', (carrying s start c).Meets route whatever σ' l) :
    (carrying s start c).Meets (whenAuthenticated s route) whatever σ l :=
  carrying_guard (f := fun o => (o.bind (·.accountId)).isSome) hroute

lemma carrying_leave :
    (carrying s start c).Meets (do routeAuthLogout s; removeSession s) whatever σ l :=
  carrying_ask nofun fun _ _ => carrying_modify _

lemma carrying_play {m : MapId} {req : WorldRouteCommandRequest}
    (hc : c = .routeClientCommand s none (routeCommand req)) :
    (carrying s l c).Meets (routePlay s m req) whatever σ l :=
  carrying_guard (f := fun o => ((o.map fun e => e.inWorld && e.accountId.isSome).getD false))
    fun _ => carrying_world hc fun _ _ _ => carrying_done

/-- **A command makes one request of the world at most**, about itself, and before any other. -/
theorem carrying_handle (hby : SentBy s c) :
    (carrying s l c).Meets (Router.handle c) whatever σ l := by
  cases hby with
  | disconnection reason => exact carrying_leave
  | command cmd =>
    change (carrying s l _).Meets (routeClientCommand s none cmd) whatever σ l
    unfold routeClientCommand
    refine Meets.bind (meets_read fun σ' _ => meets_pure fun σ'' _ => ?_)
    cases cmd with
    | login payload =>
      refine meets_read fun σ₁ _ => carrying_ask nofun fun _ r => ?_
      rcases r.login with _ | body
      · exact carrying_done
      · dsimp only
        split
        · exact carrying_modify _
        · exact carrying_done
    | logout => exact carrying_world rfl fun _ _ _ => carrying_leave
    | characterList =>
      exact carrying_authenticated fun _ => carrying_ask nofun fun _ _ => carrying_done
    | characterCreate payload =>
      exact carrying_authenticated fun _ => carrying_ask nofun fun _ _ => carrying_done
    | characterDelete c =>
      refine carrying_authenticated fun _ => carrying_ask nofun fun _ r => ?_
      rcases r.characterDelete with _ | body
      · exact carrying_done
      · dsimp only
        split
        · exact carrying_modify _
        · exact carrying_done
    | characterSelect c =>
      refine carrying_authenticated fun _ => carrying_ask nofun fun _ r => ?_
      rcases r.characterSelect with _ | body
      · exact carrying_done
      · dsimp only
        split
        · exact carrying_modify _
        · exact carrying_done
    | enterWorld =>
      refine carrying_guard
        (f := fun o => ((o.map fun e => e.characterId.isSome && e.accountId.isSome).getD false))
        fun _ => carrying_world (r := .enterWorld) rfl fun _ _ b => ?_
      split
      · exact carrying_modify _
      · exact carrying_done
    | heartbeat => exact carrying_world rfl fun _ _ _ => carrying_done
    | move | attack | castSkill | pickupItem | dropItem | useItem | npcInteraction | chat
    | whisper | guildChat => exact carrying_play rfl

end

/-! ### Runs of the router -/

/-- The command that a request puts forward for a session. -/
def putForward (s : SessionId) : BackendRequest → Option ClientCommand
  | .worldRoute _ env => if env.sessionId = s then some (routeCommand env.command) else none
  | _ => none

/-- What the world has been asked to route for a session. -/
def routedFor (s : SessionId) (l : List Exchange) : List ClientCommand :=
  l.filterMap fun x => putForward s x.1

/-- What the router asks for follows what it has taken. -/
structure InOrder (g : Gateway) : Prop where
  ordered : ∀ s, (routedFor s g.exchanges).Sublist (commandsOf s g.handled)
  running : ∀ s cmd t, g.current = some (cmd, t) → SentBy s cmd → ∃ start pre,
    g.handled = pre ++ [cmd] ∧ (routedFor s start).Sublist (commandsOf s pre) ∧
      (carrying s start cmd).Meets t whatever g.sessions g.exchanges

section

variable {parseStr : String → Option Uuid} {packetMaxPayload : ℕ} {g g' : Gateway}
  {a : GatewaySystem.Action}

/-- What the router has asked for, with what it is asking for. -/
lemma InOrder.asking (hg : InOrder g) (ht : Traced g) (hr : Routed g) {cmd : InternalCommand}
    {q : BackendRequest} {k : HttpReply → Router Unit} (hc : g.current = some (cmd, .call q k))
    (s : SessionId) :
    (routedFor s g.exchanges ++ (putForward s q).toList).Sublist (commandsOf s g.handled) := by
  obtain ⟨s', conn, hby, -⟩ := hr.connected ht hc
  obtain ⟨start, pre, hpre, hsub, hmeets⟩ := hg.running s' cmd _ hc hby
  rcases hput : putForward s q with _ | command
  · rw [Option.toList_none, List.append_nil]
    exact hg.ordered s
  · unfold putForward at hput
    split at hput
    · next m env =>
      obtain ⟨hstart, hown, hcmd⟩ := (hmeets g.sessions trivial).1 m env rfl
      split at hput
      · next hs =>
        obtain rfl := Option.some.inj hput
        obtain rfl : s' = s := hown.symm.trans hs
        rw [hstart, hpre, hcmd, commandsOf_command]
        exact hsub.append (List.Sublist.refl _)
      · cases hput
    · cases hput

lemma inOrder_step (ht : Traced g) (hr : Routed g) (hg : InOrder g)
    (h : GatewaySteps.Step parseStr packetMaxPayload g a g') : InOrder g' := by
  cases h with
  | accept | task | queue => exact ⟨hg.ordered, fun s cmd t hc hby =>
      let ⟨start, pre, hpre, hsub, hmeets⟩ := hg.running s cmd t hc hby
      ⟨start, pre, hpre, hsub, hmeets.stable trivial⟩⟩
  | remove => exact ⟨hg.ordered, fun s cmd t hc hby =>
      let ⟨start, pre, hpre, hsub, hmeets⟩ := hg.running s cmd t hc hby
      ⟨start, pre, hpre, hsub, hmeets.stable trivial⟩⟩
  | @recv cmd rest hnone hq =>
    refine ⟨fun s => ?_, fun s cmd' t hc hby => ?_⟩
    · refine (hg.ordered s).trans ?_
      dsimp only
      rw [commandsOf_append]
      exact List.sublist_append_left _ _
    · cases hc
      exact ⟨g.exchanges, g.handled, rfl, hg.ordered s, carrying_handle hby⟩
  | @sync cmd f k hcur =>
    refine ⟨hg.ordered, fun s cmd' t hc hby => ?_⟩
    cases hc
    obtain ⟨start, pre, hpre, hsub, hmeets⟩ := hg.running s cmd _ hcur hby
    exact ⟨start, pre, hpre, hsub, (hmeets g.sessions trivial).2⟩
  | @reply cmd q k hcur r =>
    refine ⟨fun s => ?_, fun s cmd' t hc hby => ?_⟩
    · have hall : routedFor s (g.exchanges ++ [(q, r)]) =
          routedFor s g.exchanges ++ (putForward s q).toList := by
        rw [routedFor, List.filterMap_append]
        rcases hput : putForward s q with _ | command <;> simp [routedFor, hput]
      rw [hall]
      exact hg.asking ht hr hcur s
    · cases hc
      obtain ⟨start, pre, hpre, hsub, hmeets⟩ := hg.running s cmd _ hcur hby
      exact ⟨start, pre, hpre, hsub, (hmeets g.sessions trivial).2 r⟩
  | finish =>
    refine ⟨hg.ordered, fun s cmd' t hc => ?_⟩
    cases hc

theorem inOrder_of_reached (h : (GatewaySystem.system parseStr packetMaxPayload).Reached g) :
    InOrder g := by
  refine h.invariant_of InOrder (J := fun g => Traced g ∧ Routed g)
    (fun hg => ⟨traced_of_reached hg, routed_of_reached hg⟩) ?_ ?_
  · rintro g rfl
    refine ⟨fun s => List.Sublist.refl _, fun s cmd t hc => ?_⟩
    cases hc
  · intro g a g' hj _ hg _ hst
    exact inOrder_step hj.1 hj.2 hg (GatewaySteps.step_cases hst)

end

end HelbreathBackend.CommandOrder
