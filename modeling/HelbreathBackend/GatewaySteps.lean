import HelbreathBackend.GatewayTrace

/-!
The steps of the gateway, one by one.

What each action does, as an inversion of the step function that keeps the action.
-/

namespace HelbreathBackend.GatewaySteps

open HelbreathBackend.Lib HelbreathBackend.Domain HelbreathBackend.Application
open HelbreathBackend.Frame HelbreathBackend.Translate HelbreathBackend.Gateway
open HelbreathBackend.GatewaySystem HelbreathBackend.GatewayTrace

section

variable (parseStr : String → Option Uuid) (packetMaxPayload : ℕ)

/-- A step of the task of a connection on its own. -/
inductive TaskStep (s : SessionId) (conn : Connection) : Action → Connection → Prop
  | eof (h : conn.stage = .frames []) : TaskStep s conn (.read s []) { conn with stage := .closing }
  | received {chunk : Bytes} (hne : chunk ≠ []) (h : conn.stage = .frames []) :
    TaskStep s conn (.read s chunk) (conn.received chunk)
  | timeout (h : conn.stage = .frames []) :
    TaskStep s conn (.timeout s) { conn with stage := .closing }
  | readError (h : conn.stage = .frames []) :
    TaskStep s conn (.readError s) { conn with stage := .ended }
  | limited {frame : Bytes} {rest : List Bytes} (h : conn.stage = .frames (frame :: rest)) :
    TaskStep s conn (.frame s false) { conn with stage := .frames rest }
  | translated {frame : Bytes} {rest : List Bytes} (h : conn.stage = .frames (frame :: rest)) :
    TaskStep s conn (.frame s true) (conn.translated parseStr packetMaxPayload frame rest)

/-- A step of the task of a connection that queues something. -/
inductive QueueStep (s : SessionId) (conn : Connection) :
    Action → InternalCommand → Connection → Prop
  | send {command : ClientCommand} {rest : List Bytes} (h : conn.stage = .sending command rest) :
    QueueStep s conn (.send s) (.routeClientCommand s none command)
      { conn with stage := .frames rest }
  | disconnect (h : conn.stage = .closing) :
    QueueStep s conn (.disconnect s) (.disconnectSession s "socket_closed")
      { conn with stage := .removing }

inductive Step (g : Gateway) : Action → Gateway → Prop
  | accept {s : SessionId} {remoteIp : String} (h : g.connections.lookup s = none) :
    Step g (.accept s remoteIp) { g with
      sessions := g.sessions.insert s ⟨remoteIp, none, none, none, false⟩
      connections := g.connections.insert s (.new remoteIp) }
  | task {a : Action} {s : SessionId} {conn conn' : Connection}
    (h : g.connections.lookup s = some conn)
    (ht : TaskStep parseStr packetMaxPayload s conn a conn') : Step g a (g.setConnection s conn')
  | queue {a : Action} {s : SessionId} {conn conn' : Connection} {c : InternalCommand}
    (h : g.connections.lookup s = some conn) (hq : QueueStep s conn a c conn') :
    Step g a ((g.enqueue c).setConnection s conn')
  | remove {s : SessionId} {conn : Connection} (h : g.connections.lookup s = some conn)
    (hst : conn.stage = .removing) :
    Step g (.remove s) { g.setConnection s { conn with stage := .ended } with
      sessions := g.sessions.erase s }
  | recv {cmd : InternalCommand} {rest : List InternalCommand} (hc : g.current = none)
    (hq : g.internalQueue = cmd :: rest) :
    Step g .recv { g with
      internalQueue := rest
      current := some (cmd, Router.handle cmd)
      handled := g.handled ++ [cmd] }
  | sync {cmd : InternalCommand} {f : Sessions → Sessions} {k : Sessions → Router Unit}
    (h : g.current = some (cmd, .sync f k)) :
    Step g .sync { g with sessions := f g.sessions, current := some (cmd, k g.sessions) }
  | reply {cmd : InternalCommand} {q : BackendRequest} {k : HttpReply → Router Unit}
    (h : g.current = some (cmd, .call q k)) (r : HttpReply) :
    Step g (.reply r) { g with exchanges := g.exchanges ++ [(q, r)], current := some (cmd, k r) }
  | finish {cmd : InternalCommand} (h : g.current = some (cmd, .ret ())) :
    Step g .finish { g with current := none }

end

variable {parseStr : String → Option Uuid} {packetMaxPayload : ℕ}

/-- **Every step is one of these.** -/
theorem step_cases {g g' : Gateway} {a : Action}
    (h : GatewaySystem.step parseStr packetMaxPayload g a = some g') :
    Step parseStr packetMaxPayload g a g' := by
  cases a with
  | accept s remoteIp =>
    simp only [GatewaySystem.step, Gateway.accept] at h
    split at h
    · cases h
    · next hl =>
      cases h
      exact .accept hl
  | read s chunk =>
    obtain ⟨conn, conn', hl, hf, rfl⟩ := stepConnection_cases h
    split at hf
    · next hst =>
      cases hf
      split
      · next hnil =>
        subst hnil
        exact .task hl (.eof hst)
      · next hne => exact .task hl (.received hne hst)
    · cases hf
  | timeout s =>
    obtain ⟨conn, conn', hl, hf, rfl⟩ := stepConnection_cases h
    split at hf
    · next hst =>
      cases hf
      exact .task hl (.timeout hst)
    · cases hf
  | readError s =>
    obtain ⟨conn, conn', hl, hf, rfl⟩ := stepConnection_cases h
    split at hf
    · next hst =>
      cases hf
      exact .task hl (.readError hst)
    · cases hf
  | frame s allowed =>
    obtain ⟨conn, conn', hl, hf, rfl⟩ := stepConnection_cases h
    split at hf
    · next hst =>
      cases hf
      cases allowed
      · exact .task hl (.limited hst)
      · exact .task hl (.translated hst)
    · cases hf
  | send s =>
    obtain ⟨conn, cmd, conn', hl, hf, rfl⟩ := stepEnqueue_cases h
    split at hf
    · next hst =>
      cases hf
      exact .queue hl (.send hst)
    · cases hf
  | disconnect s =>
    obtain ⟨conn, cmd, conn', hl, hf, rfl⟩ := stepEnqueue_cases h
    split at hf
    · next hst =>
      cases hf
      exact .queue hl (.disconnect hst)
    · cases hf
  | remove s =>
    obtain ⟨conn, hl, h⟩ := Option.bind_eq_some_iff.mp h
    split at h
    · next hst =>
      cases h
      exact .remove hl hst
    · cases h
  | recv =>
    simp only [GatewaySystem.step, Gateway.recv] at h
    split at h
    · next hc hq =>
      cases h
      exact .recv hc hq
    · cases h
  | sync =>
    simp only [GatewaySystem.step, Gateway.sync] at h
    split at h
    · next hc =>
      cases h
      exact .sync hc
    · cases h
  | reply r =>
    simp only [GatewaySystem.step, Gateway.reply] at h
    split at h
    · next hc =>
      cases h
      exact .reply hc r
    · cases h
  | finish =>
    simp only [GatewaySystem.step, Gateway.finish] at h
    split at h
    · next hc =>
      cases h
      exact .finish hc
    · cases h

/-- What a reply does to a router that waits for it. -/
lemma reply_eq {g g' : Gateway} {c : InternalCommand} {q : BackendRequest}
    {k : HttpReply → Router Unit} {r : HttpReply} (hc : g.current = some (c, .call q k))
    (h : GatewaySystem.step parseStr packetMaxPayload g (.reply r) = some g') :
    g' = { g with exchanges := g.exchanges ++ [(q, r)], current := some (c, k r) } := by
  have h : g.reply r = some g' := h
  rw [Gateway.reply, hc] at h
  exact (Option.some.inj h).symm

/-- Only a reply is recorded. -/
lemma exchanges_eq {g g' : Gateway} {a : Action} (ha : ∀ r, a ≠ .reply r)
    (h : Step parseStr packetMaxPayload g a g') : g'.exchanges = g.exchanges := by
  cases h with
  | reply _ r => exact absurd rfl (ha r)
  | accept | task | queue | remove | recv | sync | finish => rfl

lemma translated_remoteIp (conn : Connection) (frame : Bytes) (rest : List Bytes) :
    (conn.translated parseStr packetMaxPayload frame rest).remoteIp = conn.remoteIp := by
  unfold Connection.translated
  split
  · rfl
  · split <;> rfl

/-- After a frame the task goes on with the rest of them. -/
lemma translated_stage (conn : Connection) (frame : Bytes) (rest : List Bytes) :
    (conn.translated parseStr packetMaxPayload frame rest).stage = .frames rest ∨
      ∃ command, (conn.translated parseStr packetMaxPayload frame rest).stage =
        .sending command rest := by
  unfold Connection.translated
  split
  · exact .inl rfl
  · split
    · exact .inl rfl
    · exact .inr ⟨_, rfl⟩

section

variable {s : SessionId} {conn conn' : Connection} {a : Action} {c : InternalCommand}

lemma TaskStep.remoteIp (h : TaskStep parseStr packetMaxPayload s conn a conn') :
    conn'.remoteIp = conn.remoteIp := by
  cases h with
  | translated _ => exact translated_remoteIp conn _ _
  | _ => rfl

lemma QueueStep.remoteIp (h : QueueStep s conn a c conn') : conn'.remoteIp = conn.remoteIp := by
  cases h <;> rfl

/-- The task steps while it is in its loop. -/
lemma TaskStep.looping (h : TaskStep parseStr packetMaxPayload s conn a conn') :
    looping conn.stage = true := by
  cases h with
  | eof h | timeout h | readError h | limited h | translated h => rw [h]; rfl
  | received _ h => rw [h]; rfl

lemma QueueStep.looping (h : QueueStep s conn a c conn') : looping conn.stage = true := by
  cases h with
  | send h => rw [h]; rfl
  | disconnect h => rw [h]; rfl

end

end HelbreathBackend.GatewaySteps
