import HelbreathBackend.Lib.Transition
import HelbreathBackend.Routing

/-!
The gateway: the tasks of the connections, the queue and the router, in any order.

Each connection has a task that reads frames, translates them and queues the commands; the
router takes them from the queue one at a time. They share the table of sessions. What has been
taken from the queue and what has been asked of the services is kept as history.
-/

namespace HelbreathBackend.GatewaySystem

open HelbreathBackend.Lib HelbreathBackend.Lib.Contract HelbreathBackend.Domain
open HelbreathBackend.Application HelbreathBackend.Frame HelbreathBackend.Translate
open HelbreathBackend.Gateway HelbreathBackend.Grants HelbreathBackend.Routing

/-- Where the task of a connection is. -/
inductive Stage
  /-- going through the frames of the last read, and back to reading after them -/
  | frames (rest : List Bytes)
  /-- waiting for room in the queue -/
  | sending (command : ClientCommand) (rest : List Bytes)
  /-- out of the loop, the disconnection still to be queued -/
  | closing
  /-- the entry still to be removed -/
  | removing
  | ended
  deriving DecidableEq

structure Connection where
  remoteIp : String
  phase : SessionPhase
  protocolVersion : ProtocolVersion
  readBuf : Bytes
  stage : Stage
  deriving DecidableEq

def Connection.new (remoteIp : String) : Connection :=
  ⟨remoteIp, .preAuth, .legacyV382, [], .frames []⟩

structure Gateway where
  sessions : Sessions
  connections : FMap SessionId Connection
  internalQueue : List InternalCommand
  current : Option (InternalCommand × Router Unit)
  /-- history: what the router has taken from the queue, the current command included -/
  handled : List InternalCommand
  /-- history: the requests that have been replied to -/
  exchanges : List Exchange

inductive Action
  | accept (sessionId : SessionId) (remoteIp : String)
  /-- a read of no bytes is the end of the stream -/
  | read (sessionId : SessionId) (chunk : Bytes)
  | timeout (sessionId : SessionId)
  | readError (sessionId : SessionId)
  /-- the next frame, with the answer of the rate limiter -/
  | frame (sessionId : SessionId) (allowed : Bool)
  | send (sessionId : SessionId)
  | disconnect (sessionId : SessionId)
  | remove (sessionId : SessionId)
  | recv
  | sync
  | reply (r : HttpReply)
  | finish

/-- The capacity of the queue. -/
def queueCapacity : ℕ := 4096

namespace Connection

/-- After a read. -/
def received (conn : Connection) (chunk : Bytes) : Connection :=
  let (frames, readBuf) := splitFrames (conn.readBuf ++ chunk)
  { conn with readBuf := readBuf, stage := .frames frames }

/-- A frame that the rate limiter lets through. -/
def translated (parseStr : String → Option Uuid) (packetMaxPayload : ℕ) (conn : Connection)
    (frame : Bytes) (rest : List Bytes) : Connection :=
  match decodeFrame frame packetMaxPayload with
  | .error _ => { conn with stage := .frames rest }
  | .ok packet =>
    match translatePacketForVersion parseStr packet conn.phase conn.protocolVersion with
    | .error _ => { conn with stage := .frames rest }
    | .ok command =>
      { conn with
        protocolVersion :=
          match command with
          | .login payload => detectProtocolVersion payload
          | _ => conn.protocolVersion
        phase := nextPhase conn.phase command
        stage := .sending command rest }

end Connection

namespace Gateway

variable (g : Gateway)

def start : Gateway := ⟨∅, ∅, [], none, [], []⟩

def setConnection (s : SessionId) (conn : Connection) : Gateway :=
  { g with connections := g.connections.insert s conn }

def enqueue (cmd : InternalCommand) : Gateway :=
  { g with internalQueue := g.internalQueue ++ [cmd] }

/-- The session identifier is a fresh one. -/
def accept (s : SessionId) (remoteIp : String) : Option Gateway :=
  match g.connections.lookup s with
  | some _ => none
  | none =>
    some { g with
      sessions := g.sessions.insert s ⟨remoteIp, none, none, none, false⟩
      connections := g.connections.insert s (.new remoteIp) }

/-- A step of the task of a connection that only concerns the connection. -/
def stepConnection (s : SessionId) (f : Connection → Option Connection) : Option Gateway := do
  let conn ← g.connections.lookup s
  let conn' ← f conn
  some (g.setConnection s conn')

/-- A step of the task of a connection that puts a command into the queue. -/
def stepEnqueue (s : SessionId) (f : Connection → Option (InternalCommand × Connection)) :
    Option Gateway := do
  let conn ← g.connections.lookup s
  let (cmd, conn') ← f conn
  if g.internalQueue.length < queueCapacity then some ((g.enqueue cmd).setConnection s conn')
  else none

def remove (s : SessionId) : Option Gateway := do
  let conn ← g.connections.lookup s
  match conn.stage with
  | .removing =>
    some { g.setConnection s { conn with stage := .ended } with sessions := g.sessions.erase s }
  | _ => none

def recv : Option Gateway :=
  match g.current, g.internalQueue with
  | none, cmd :: rest =>
    some { g with
      internalQueue := rest
      current := some (cmd, Router.handle cmd)
      handled := g.handled ++ [cmd] }
  | _, _ => none

def sync : Option Gateway :=
  match g.current with
  | some (cmd, .sync f k) =>
    some { g with sessions := f g.sessions, current := some (cmd, k g.sessions) }
  | _ => none

def reply (r : HttpReply) : Option Gateway :=
  match g.current with
  | some (cmd, .call q k) =>
    some { g with exchanges := g.exchanges ++ [(q, r)], current := some (cmd, k r) }
  | _ => none

def finish : Option Gateway :=
  match g.current with
  | some (_, .ret ()) => some { g with current := none }
  | _ => none

end Gateway

section

variable (parseStr : String → Option Uuid) (packetMaxPayload : ℕ)

def step (g : Gateway) : Action → Option Gateway
  | .accept s remoteIp => g.accept s remoteIp
  | .read s chunk => g.stepConnection s fun conn =>
    match conn.stage with
    | .frames [] =>
      some (if chunk = [] then { conn with stage := .closing } else conn.received chunk)
    | _ => none
  | .timeout s => g.stepConnection s fun conn =>
    match conn.stage with
    | .frames [] => some { conn with stage := .closing }
    | _ => none
  | .readError s => g.stepConnection s fun conn =>
    match conn.stage with
    | .frames [] => some { conn with stage := .ended }
    | _ => none
  | .frame s allowed => g.stepConnection s fun conn =>
    match conn.stage with
    | .frames (frame :: rest) =>
      some (if allowed then conn.translated parseStr packetMaxPayload frame rest
        else { conn with stage := .frames rest })
    | _ => none
  | .send s => g.stepEnqueue s fun conn =>
    match conn.stage with
    | .sending command rest =>
      some (.routeClientCommand s none command, { conn with stage := .frames rest })
    | _ => none
  | .disconnect s => g.stepEnqueue s fun conn =>
    match conn.stage with
    | .closing => some (.disconnectSession s "socket_closed", { conn with stage := .removing })
    | _ => none
  | .remove s => g.remove s
  | .recv => g.recv
  | .sync => g.sync
  | .reply r => g.reply r
  | .finish => g.finish

def system : System Gateway Action where
  init g := g = .start
  step := step parseStr packetMaxPayload

end

end HelbreathBackend.GatewaySystem
