import HelbreathBackend.GatewaySystem

/-!
What the connections have put into the queue.

The commands of a session, those the router has taken and those still queued, are the ones its
connection has validated one after the other, and a disconnection comes last.
-/

namespace HelbreathBackend.GatewayTrace

open HelbreathBackend.Lib HelbreathBackend.Lib.Contract HelbreathBackend.Domain
open HelbreathBackend.Application HelbreathBackend.Frame HelbreathBackend.Translate
open HelbreathBackend.Gateway HelbreathBackend.Grants HelbreathBackend.Routing
open HelbreathBackend.GatewaySystem

/-! ### What a step does -/

/-- The command that the connection has moved on for and not queued yet. -/
def unsent : Stage → List ClientCommand
  | .sending command _ => [command]
  | _ => []

/-- The task is in its loop, or has just left it. -/
def looping : Stage → Bool
  | .frames _ | .sending .. | .closing => true
  | .removing | .ended => false

/-- A step of the task of a connection on its own. -/
structure Moves (conn conn' : Connection) : Prop where
  looping : looping conn.stage = true
  idle : unsent conn.stage = []
  goes : (unsent conn'.stage = [] ∧ conn'.phase = conn.phase) ∨
    ∃ command, unsent conn'.stage = [command] ∧ conn'.phase = nextPhase conn.phase command ∧
      allowedIn conn.phase.asDomainState command = true

inductive Effect (g : Gateway) : Gateway → Prop
  | accepted {s : SessionId} {remoteIp : String} (h : g.connections.lookup s = none) :
    Effect g { g with
      sessions := g.sessions.insert s ⟨remoteIp, none, none, none, false⟩
      connections := g.connections.insert s (.new remoteIp) }
  | moved {s : SessionId} {conn conn' : Connection} (h : g.connections.lookup s = some conn)
    (hm : Moves conn conn') : Effect g (g.setConnection s conn')
  | sent {s : SessionId} {conn : Connection} {command : ClientCommand} {rest : List Bytes}
    (h : g.connections.lookup s = some conn) (hst : conn.stage = .sending command rest) :
    Effect g ((g.enqueue (.routeClientCommand s none command)).setConnection s
      { conn with stage := .frames rest })
  | left {s : SessionId} {conn : Connection} (h : g.connections.lookup s = some conn)
    (hst : conn.stage = .closing) :
    Effect g ((g.enqueue (.disconnectSession s "socket_closed")).setConnection s
      { conn with stage := .removing })
  | removed {s : SessionId} {conn : Connection} (h : g.connections.lookup s = some conn)
    (hst : conn.stage = .removing) :
    Effect g { g.setConnection s { conn with stage := .ended } with
      sessions := g.sessions.erase s }
  | taken {cmd : InternalCommand} {rest : List InternalCommand} (hc : g.current = none)
    (hq : g.internalQueue = cmd :: rest) :
    Effect g { g with
      internalQueue := rest
      current := some (cmd, Router.handle cmd)
      handled := g.handled ++ [cmd] }
  | synced {cmd : InternalCommand} {f : Sessions → Sessions} {k : Sessions → Router Unit}
    (h : g.current = some (cmd, .sync f k)) :
    Effect g { g with sessions := f g.sessions, current := some (cmd, k g.sessions) }
  | replied {cmd : InternalCommand} {q : BackendRequest} {k : HttpReply → Router Unit}
    (h : g.current = some (cmd, .call q k)) (r : HttpReply) :
    Effect g { g with exchanges := g.exchanges ++ [(q, r)], current := some (cmd, k r) }
  | finished {cmd : InternalCommand} (h : g.current = some (cmd, .ret ())) :
    Effect g { g with current := none }

lemma moves_received {conn : Connection} (chunk : Bytes) (h : conn.stage = .frames []) :
    Moves conn (conn.received chunk) :=
  ⟨by rw [h]; rfl, by rw [h]; rfl, .inl ⟨rfl, rfl⟩⟩

lemma moves_translated {parseStr : String → Option Uuid} {packetMaxPayload : ℕ}
    {conn : Connection} {frame : Bytes} {rest : List Bytes}
    (h : conn.stage = .frames (frame :: rest)) :
    Moves conn (conn.translated parseStr packetMaxPayload frame rest) := by
  refine ⟨by rw [h]; rfl, by rw [h]; rfl, ?_⟩
  unfold Connection.translated
  split
  · exact .inl ⟨rfl, rfl⟩
  · next packet _ =>
    split
    · exact .inl ⟨rfl, rfl⟩
    · next command ht =>
      exact .inr ⟨command, rfl, rfl, allowedIn_of_translate parseStr ht⟩

lemma stepConnection_cases {g g' : Gateway} {s : SessionId} {f : Connection → Option Connection}
    (h : g.stepConnection s f = some g') :
    ∃ conn conn', g.connections.lookup s = some conn ∧ f conn = some conn' ∧
      g' = g.setConnection s conn' := by
  unfold Gateway.stepConnection at h
  obtain ⟨conn, hl, h⟩ := Option.bind_eq_some_iff.mp h
  obtain ⟨conn', hf, h⟩ := Option.bind_eq_some_iff.mp h
  exact ⟨conn, conn', hl, hf, (Option.some.inj h).symm⟩

lemma stepEnqueue_cases {g g' : Gateway} {s : SessionId}
    {f : Connection → Option (InternalCommand × Connection)}
    (h : g.stepEnqueue s f = some g') :
    ∃ conn cmd conn', g.connections.lookup s = some conn ∧ f conn = some (cmd, conn') ∧
      g' = (g.enqueue cmd).setConnection s conn' := by
  unfold Gateway.stepEnqueue at h
  obtain ⟨conn, hl, h⟩ := Option.bind_eq_some_iff.mp h
  obtain ⟨⟨cmd, conn'⟩, hf, h⟩ := Option.bind_eq_some_iff.mp h
  dsimp only at h
  split at h
  · exact ⟨conn, cmd, conn', hl, hf, (Option.some.inj h).symm⟩
  · cases h

theorem effect_of_step {parseStr : String → Option Uuid} {packetMaxPayload : ℕ} {g g' : Gateway}
    {a : Action} (h : step parseStr packetMaxPayload g a = some g') : Effect g g' := by
  cases a with
  | accept s remoteIp =>
    simp only [step, Gateway.accept] at h
    split at h
    · cases h
    · next hl =>
      cases h
      exact .accepted hl
  | read s chunk =>
    obtain ⟨conn, conn', hl, hf, rfl⟩ := stepConnection_cases h
    split at hf
    · next hst =>
      cases hf
      refine .moved hl ?_
      split
      · exact ⟨by rw [hst]; rfl, by rw [hst]; rfl, .inl ⟨rfl, rfl⟩⟩
      · exact moves_received chunk hst
    · cases hf
  | timeout s | readError s =>
    obtain ⟨conn, conn', hl, hf, rfl⟩ := stepConnection_cases h
    split at hf
    · next hst =>
      cases hf
      exact .moved hl ⟨by rw [hst]; rfl, by rw [hst]; rfl, .inl ⟨rfl, rfl⟩⟩
    · cases hf
  | frame s allowed =>
    obtain ⟨conn, conn', hl, hf, rfl⟩ := stepConnection_cases h
    split at hf
    · next hst =>
      cases hf
      refine .moved hl ?_
      split
      · exact moves_translated hst
      · exact ⟨by rw [hst]; rfl, by rw [hst]; rfl, .inl ⟨rfl, rfl⟩⟩
    · cases hf
  | send s =>
    obtain ⟨conn, cmd, conn', hl, hf, rfl⟩ := stepEnqueue_cases h
    split at hf
    · next hst =>
      cases hf
      exact .sent hl hst
    · cases hf
  | disconnect s =>
    obtain ⟨conn, cmd, conn', hl, hf, rfl⟩ := stepEnqueue_cases h
    split at hf
    · next hst =>
      cases hf
      exact .left hl hst
    · cases hf
  | remove s =>
    obtain ⟨conn, hl, h⟩ := Option.bind_eq_some_iff.mp h
    split at h
    · next hst =>
      cases h
      exact .removed hl hst
    · cases h
  | recv =>
    simp only [step, Gateway.recv] at h
    split at h
    · next hc hq =>
      cases h
      exact .taken hc hq
    · cases h
  | sync =>
    simp only [step, Gateway.sync] at h
    split at h
    · next hc =>
      cases h
      exact .synced hc
    · cases h
  | reply r =>
    simp only [step, Gateway.reply] at h
    split at h
    · next hc =>
      cases h
      exact .replied hc r
    · cases h
  | finish =>
    simp only [step, Gateway.finish] at h
    split at h
    · next hc =>
      cases h
      exact .finished hc
    · cases h

/-! ### The commands of a session -/

def commandOf (s : SessionId) : InternalCommand → Option ClientCommand
  | .routeClientCommand s' _ command => if s' = s then some command else none
  | _ => none

/-- The client commands of a session among internal ones. -/
def commandsOf (s : SessionId) (l : List InternalCommand) : List ClientCommand :=
  l.filterMap (commandOf s)

def phaseAfter (cs : List ClientCommand) : SessionPhase := cs.foldl nextPhase .preAuth

/-- Every command was allowed in the phase after those before it. -/
def Lawful (cs : List ClientCommand) : Prop :=
  Along (fun pre command => allowedIn (phaseAfter pre).asDomainState command = true) cs

/-- What the connection of a session can put into the queue. -/
inductive SentBy (s : SessionId) : InternalCommand → Prop
  | command (command : ClientCommand) : SentBy s (.routeClientCommand s none command)
  | disconnection (reason : String) : SentBy s (.disconnectSession s reason)

/-- Everything that has been put into the queue. -/
def posted (g : Gateway) : List InternalCommand := g.handled ++ g.internalQueue

structure Traced (g : Gateway) : Prop where
  known : ∀ c ∈ posted g, ∃ s conn, SentBy s c ∧ g.connections.lookup s = some conn
  phase : ∀ s conn, g.connections.lookup s = some conn →
    conn.phase = phaseAfter (commandsOf s (posted g) ++ unsent conn.stage)
  lawful : ∀ s conn, g.connections.lookup s = some conn →
    Lawful (commandsOf s (posted g) ++ unsent conn.stage)
  leaving : ∀ s r conn, InternalCommand.disconnectSession s r ∈ posted g →
    g.connections.lookup s = some conn → looping conn.stage = false
  last : Along (fun pre c => ∀ s r, SentBy s c → InternalCommand.disconnectSession s r ∉ pre)
    (posted g)

lemma commandsOf_append (s : SessionId) (l l' : List InternalCommand) :
    commandsOf s (l ++ l') = commandsOf s l ++ commandsOf s l' := List.filterMap_append ..

lemma commandsOf_command (s : SessionId) (l : List InternalCommand) (command : ClientCommand) :
    commandsOf s (l ++ [.routeClientCommand s none command]) = commandsOf s l ++ [command] := by
  rw [commandsOf_append]
  simp [commandsOf, commandOf]

lemma commandsOf_disconnection (s s' : SessionId) (l : List InternalCommand) (reason : String) :
    commandsOf s (l ++ [.disconnectSession s' reason]) = commandsOf s l := by
  rw [commandsOf_append]
  exact List.append_nil _

lemma phaseAfter_append (cs cs' : List ClientCommand) :
    phaseAfter (cs ++ cs') = cs'.foldl nextPhase (phaseAfter cs) := List.foldl_append ..

lemma rank_phaseAfter_le (cs cs' : List ClientCommand) :
    rank (phaseAfter cs) ≤ rank (phaseAfter (cs ++ cs')) := by
  rw [phaseAfter_append]
  induction cs' generalizing cs with
  | nil => rfl
  | cons c cs' ih =>
    refine (rank_nextPhase _ c).trans ?_
    have := ih (cs ++ [c])
    rwa [phaseAfter_append] at this

lemma SentBy.unique {s s' : SessionId} {c : InternalCommand} (h : SentBy s c)
    (h' : SentBy s' c) : s = s' := by
  cases h <;> cases h' <;> rfl

lemma commandOf_other {s s' : SessionId} {c : InternalCommand} (h : SentBy s' c) (hne : s' ≠ s) :
    commandOf s c = none := by
  cases h
  · simp [commandOf, hne]
  · rfl

lemma commandsOf_other {s s' : SessionId} {c : InternalCommand} (h : SentBy s' c) (hne : s' ≠ s)
    (l : List InternalCommand) : commandsOf s (l ++ [c]) = commandsOf s l := by
  rw [commandsOf_append]
  simp [commandsOf, commandOf_other h hne]

section

variable {g : Gateway} (ht : Traced g)

include ht

/-- A session without a connection has sent nothing. -/
lemma Traced.stranger {s : SessionId} (hs : g.connections.lookup s = none) {c : InternalCommand}
    (hc : c ∈ posted g) : ¬ SentBy s c := by
  intro hby
  obtain ⟨s', conn, hby', hl⟩ := ht.known c hc
  rw [hby.unique hby', hl] at hs
  cases hs

lemma Traced.commandsOf_stranger {s : SessionId} (hs : g.connections.lookup s = none) :
    commandsOf s (posted g) = [] := by
  refine List.filterMap_eq_nil_iff.mpr fun c hc => ?_
  obtain ⟨s', conn, hby, hl⟩ := ht.known c hc
  refine commandOf_other hby fun he => ?_
  rw [← he, hl] at hs
  cases hs

/-- While the connection is in its loop, its disconnection is not queued. -/
lemma Traced.not_left {s : SessionId} {conn : Connection}
    (hl : g.connections.lookup s = some conn) (hst : looping conn.stage = true) (r : String) :
    InternalCommand.disconnectSession s r ∉ posted g := by
  intro hr
  rw [ht.leaving s r conn hr hl] at hst
  cases hst

lemma Traced.accepted {s : SessionId} {remoteIp : String} (h : g.connections.lookup s = none)
    (sessions : Sessions) :
    Traced { g with sessions := sessions, connections := g.connections.insert s (.new remoteIp) }
    where
  known c hc := by
    obtain ⟨s', conn, hby, hl⟩ := ht.known c hc
    refine ⟨s', conn, hby, ?_⟩
    rw [FMap.lookup_insert_eq, if_neg, hl]
    rintro rfl
    rw [hl] at h
    cases h
  phase x conn hl := by
    rcases FMap.lookup_insert_cases hl with ⟨he, hv⟩ | ⟨-, hl⟩
    · cases hv
      have hnil : commandsOf x (posted g) = [] := ht.commandsOf_stranger (he ▸ h)
      change SessionPhase.preAuth = phaseAfter (commandsOf x (posted g) ++ [])
      rw [hnil]
      rfl
    · exact ht.phase x conn hl
  lawful x conn hl := by
    rcases FMap.lookup_insert_cases hl with ⟨he, hv⟩ | ⟨-, hl⟩
    · cases hv
      have hnil : commandsOf x (posted g) = [] := ht.commandsOf_stranger (he ▸ h)
      change Lawful (commandsOf x (posted g) ++ [])
      rw [hnil]
      exact along_nil
    · exact ht.lawful x conn hl
  leaving x r conn hr hl := by
    rcases FMap.lookup_insert_cases hl with ⟨he, -⟩ | ⟨-, hl⟩
    · exact absurd (.disconnection r) (ht.stranger (he ▸ h) hr)
    · exact ht.leaving x r conn hr hl
  last := ht.last

/-- A connection that goes on, and perhaps queues something. -/
lemma Traced.goesOn {s : SessionId} {conn conn' : Connection}
    (h : g.connections.lookup s = some conn) (cmds : List InternalCommand)
    (hby : ∀ c ∈ cmds, SentBy s c)
    (hphase : conn'.phase = phaseAfter (commandsOf s (posted g ++ cmds) ++ unsent conn'.stage))
    (hlaw : Lawful (commandsOf s (posted g ++ cmds) ++ unsent conn'.stage))
    (hleft : ∀ r, InternalCommand.disconnectSession s r ∈ posted g ++ cmds →
      looping conn'.stage = false)
    (hlast : Along (fun pre c => ∀ s r, SentBy s c → InternalCommand.disconnectSession s r ∉ pre)
      (posted g ++ cmds)) {g' : Gateway} (hposted : posted g' = posted g ++ cmds)
    (hconn : g'.connections = g.connections.insert s conn') : Traced g' := by
  have hother : ∀ x, x ≠ s → commandsOf x (posted g ++ cmds) = commandsOf x (posted g) := by
    intro x hx
    rw [commandsOf_append]
    have hnil : commandsOf x cmds = [] :=
      List.filterMap_eq_nil_iff.mpr fun c hc => commandOf_other (hby c hc) (Ne.symm hx)
    rw [hnil, List.append_nil]
  constructor
  · intro c hc
    rw [hposted] at hc
    have hsome : ∀ x conn, g.connections.lookup x = some conn →
        ∃ conn, g'.connections.lookup x = some conn := by
      intro x conn hx
      rw [hconn, FMap.lookup_insert_eq]
      split
      · exact ⟨_, rfl⟩
      · exact ⟨_, hx⟩
    rcases List.mem_append.mp hc with hc | hc
    · obtain ⟨x, connx, hbyx, hx⟩ := ht.known c hc
      obtain ⟨connx', hx'⟩ := hsome x connx hx
      exact ⟨x, connx', hbyx, hx'⟩
    · obtain ⟨conns, hs⟩ := hsome s conn h
      exact ⟨s, conns, hby c hc, hs⟩
  · intro x connx hx
    rw [hposted]
    rw [hconn] at hx
    rcases FMap.lookup_insert_cases hx with ⟨he, hv⟩ | ⟨hne, hx⟩
    · cases hv
      rw [he]
      exact hphase
    · rw [hother x hne]
      exact ht.phase x connx hx
  · intro x connx hx
    rw [hposted]
    rw [hconn] at hx
    rcases FMap.lookup_insert_cases hx with ⟨he, hv⟩ | ⟨hne, hx⟩
    · cases hv
      rw [he]
      exact hlaw
    · rw [hother x hne]
      exact ht.lawful x connx hx
  · intro x r connx hr hx
    rw [hposted] at hr
    rw [hconn] at hx
    rcases FMap.lookup_insert_cases hx with ⟨he, hv⟩ | ⟨hne, hx⟩
    · cases hv
      exact hleft r (he ▸ hr)
    · rcases List.mem_append.mp hr with hr | hr
      · exact ht.leaving x r connx hr hx
      · exact absurd ((SentBy.disconnection r).unique (hby _ hr)) hne
  · rw [hposted]
    exact hlast

/-- Nothing else changes what has been queued. -/
lemma Traced.congr {g' : Gateway} (hposted : posted g' = posted g)
    (hconn : g'.connections = g.connections) : Traced g' := by
  constructor
  · rw [hposted, hconn]
    exact ht.known
  · rw [hposted, hconn]
    exact ht.phase
  · rw [hposted, hconn]
    exact ht.lawful
  · rw [hposted, hconn]
    exact ht.leaving
  · rw [hposted]
    exact ht.last

lemma Traced.moved {s : SessionId} {conn conn' : Connection}
    (h : g.connections.lookup s = some conn) (hm : Moves conn conn') :
    Traced (g.setConnection s conn') := by
  have hphase := ht.phase s conn h
  have hlaw := ht.lawful s conn h
  rw [hm.idle, List.append_nil] at hphase hlaw
  have hleft : ∀ r, InternalCommand.disconnectSession s r ∈ posted g ++ [] →
      looping conn'.stage = false := by
    intro r hr
    rw [List.append_nil] at hr
    exact absurd hr (ht.not_left h hm.looping r)
  refine ht.goesOn h [] (by simp) ?_ ?_ hleft (by simpa using ht.last) (List.append_nil _).symm rfl
  · rw [List.append_nil]
    rcases hm.goes with ⟨hu, hp⟩ | ⟨command, hu, hp, -⟩
    · rw [hu, List.append_nil, hp, hphase]
    · rw [hu, phaseAfter_append, hp, hphase]
      rfl
  · rw [List.append_nil]
    rcases hm.goes with ⟨hu, -⟩ | ⟨command, hu, -, hal⟩
    · rwa [hu, List.append_nil]
    · rw [hu]
      exact along_snoc.mpr ⟨hlaw, by rwa [← hphase]⟩

/-- A command or a disconnection is queued. -/
lemma Traced.queued {s : SessionId} {conn conn' : Connection} {c : InternalCommand}
    (h : g.connections.lookup s = some conn) (hst : looping conn.stage = true)
    (hby : SentBy s c) (hp : conn'.phase = conn.phase)
    (hu : commandsOf s [c] ++ unsent conn'.stage = unsent conn.stage)
    (hleft : ∀ r, c = .disconnectSession s r → looping conn'.stage = false) :
    Traced ((g.enqueue c).setConnection s conn') := by
  have hcs : commandsOf s (posted g ++ [c]) ++ unsent conn'.stage =
      commandsOf s (posted g) ++ unsent conn.stage := by
    rw [commandsOf_append, List.append_assoc, hu]
  refine ht.goesOn h [c] ?_ ?_ ?_ ?_ ?_ (List.append_assoc ..).symm rfl
  · intro c' hc'
    rwa [List.mem_singleton.mp hc']
  · rw [hcs, hp]
    exact ht.phase s conn h
  · rw [hcs]
    exact ht.lawful s conn h
  · intro r hr
    rcases List.mem_append.mp hr with hr | hr
    · exact absurd hr (ht.not_left h hst r)
    · exact hleft r (List.mem_singleton.mp hr).symm
  · refine along_snoc.mpr ⟨ht.last, fun x r hx => ?_⟩
    rw [hx.unique hby]
    exact ht.not_left h hst r

theorem traced_step {g' : Gateway} (h : Effect g g') : Traced g' := by
  cases h with
  | accepted h => exact ht.accepted h _
  | moved h hm => exact ht.moved h hm
  | @sent s conn command rest h hst =>
    refine ht.queued h (by rw [hst]; rfl) (.command command) rfl ?_ nofun
    simp [hst, unsent, commandsOf, commandOf]
  | left h hst =>
    refine ht.queued h (by rw [hst]; rfl) (.disconnection _) rfl ?_ fun _ _ => rfl
    simp [hst, unsent, commandsOf, commandOf]
  | @removed s conn h hst =>
    have hphase := ht.phase s conn h
    have hlaw := ht.lawful s conn h
    rw [hst] at hphase hlaw
    refine @Traced.goesOn g ht s conn { conn with stage := .ended } h [] (by simp) ?_ ?_
      (fun _ _ => rfl) (by simpa using ht.last) _ (List.append_nil _).symm rfl
    · rw [List.append_nil]
      exact hphase
    · rw [List.append_nil]
      exact hlaw
  | taken hc hq =>
    refine ht.congr ?_ rfl
    simp [posted, hq]
  | synced h | replied h r | finished h => exact ht.congr rfl rfl

end

lemma traced_start : Traced .start where
  known _ hc := absurd hc List.not_mem_nil
  phase _ _ h := by cases h
  lawful _ _ h := by cases h
  leaving _ _ _ hr := absurd hr List.not_mem_nil
  last := along_nil

theorem traced_of_reached {parseStr : String → Option Uuid} {packetMaxPayload : ℕ} {g : Gateway}
    (h : (system parseStr packetMaxPayload).Reached g) : Traced g := by
  refine h.invariant Traced ?_ fun g a g' ht _ hst => traced_step ht (effect_of_step hst)
  rintro g rfl
  exact traced_start

end HelbreathBackend.GatewayTrace
