import HelbreathBackend.Lib.FiniteMap
import HelbreathBackend.Lib.Task
import HelbreathBackend.Translate

/-!
The internal router of the gateway.

The router takes the commands of all sessions from one queue, one at a time, and turns them
into requests to the authentication and world services. It shares the table of sessions with
the connections: each lock of the table is one atomic section, each request a call whose reply
can be anything. A reply is taken as its status and what its body parses as.
-/

namespace HelbreathBackend.Gateway

open HelbreathBackend.Lib HelbreathBackend.Domain HelbreathBackend.Application
open HelbreathBackend.Translate

structure SessionRuntime where
  remoteIp : String
  accountId : Option AccountId
  characterId : Option CharacterId
  mapId : Option MapId
  inWorld : Bool
  deriving DecidableEq

abbrev Sessions := FMap SessionId SessionRuntime

/-! ### Requests -/

structure AuthLoginRequest where
  sessionId : SessionId
  username : String
  password : String
  remoteIp : String
  deriving DecidableEq

structure AuthLogoutRequest where
  sessionId : SessionId
  deriving DecidableEq

structure AuthCharacterCreateRequest where
  sessionId : SessionId
  name : String
  characterClass : String
  gender : Int16
  skinColor : Int16
  hairStyle : Int16
  hairColor : Int16
  underwearColor : Int16
  stats : Int16 × Int16 × Int16 × Int16 × Int16 × Int16
  deriving DecidableEq

structure AuthCharacterDeleteRequest where
  sessionId : SessionId
  characterId : CharacterId
  deriving DecidableEq

structure AuthCharacterSelectRequest where
  sessionId : SessionId
  characterId : CharacterId
  deriving DecidableEq

inductive WorldRouteCommandRequest
  | heartbeat
  | enterWorld
  | move (x y : Int32) (run : Bool)
  | attack (targetId : Uuid)
  | castSkill (skillId : Int32) (targetId : Option Uuid)
  | pickupItem (entityId : Uuid)
  | dropItem (slot quantity : Int32)
  | useItem (slot : Int32)
  | npcInteraction (npcId : Uuid)
  | chat (message : String)
  | whisper (toCharacter message : String)
  | guildChat (message : String)
  | logout
  deriving DecidableEq

structure WorldRouteEnvelope where
  sessionId : SessionId
  characterId : Option CharacterId
  command : WorldRouteCommandRequest
  deriving DecidableEq

/-- A request to one of the two services. -/
inductive BackendRequest
  | authLogin (req : AuthLoginRequest)
  | authLogout (req : AuthLogoutRequest)
  | authCharacterList (sessionId : SessionId)
  | authCharacterCreate (req : AuthCharacterCreateRequest)
  | authCharacterDelete (req : AuthCharacterDeleteRequest)
  | authCharacterSelect (req : AuthCharacterSelectRequest)
  | worldRoute (mapId : MapId) (envelope : WorldRouteEnvelope)
  deriving DecidableEq

/-! ### Replies -/

structure AuthLoginResponse where
  accepted : Bool
  accountId : Option AccountId
  reason : Option String

structure AuthCharacterSummary where
  characterId : CharacterId
  name : String
  characterClass : String
  mapId : MapId
  x : Int32
  y : Int32
  level : Int32

structure AuthCharacterListResponse where
  ok : Bool
  characters : List AuthCharacterSummary

structure AuthCharacterCreateResponse where
  ok : Bool
  character : Option AuthCharacterSummary
  reason : Option String

structure AuthCharacterDeleteResponse where
  ok : Bool

structure AuthCharacterSelectResponse where
  ok : Bool
  characterId : Option CharacterId
  mapId : Option MapId
  x : Option Int32
  y : Option Int32
  reason : Option String

/-- What the body of a response parses as. -/
inductive Body
  | login (body : AuthLoginResponse)
  | characterList (body : AuthCharacterListResponse)
  | characterCreate (body : AuthCharacterCreateResponse)
  | characterDelete (body : AuthCharacterDeleteResponse)
  | characterSelect (body : AuthCharacterSelectResponse)
  | other

inductive HttpReply
  | error
  | response (status : ℕ) (body : Body)

namespace HttpReply

def isSuccess : HttpReply → Bool
  | .response status _ => 200 ≤ status && status ≤ 299
  | .error => false

/-- The body of a successful response. -/
def body : HttpReply → Body
  | .response status body => if 200 ≤ status && status ≤ 299 then body else .other
  | .error => .other

def login (r : HttpReply) : Option AuthLoginResponse :=
  match r.body with
  | .login body => some body
  | _ => none

def characterDelete (r : HttpReply) : Option AuthCharacterDeleteResponse :=
  match r.body with
  | .characterDelete body => some body
  | _ => none

def characterSelect (r : HttpReply) : Option AuthCharacterSelectResponse :=
  match r.body with
  | .characterSelect body => some body
  | _ => none

end HttpReply

/-! ### The router -/

abbrev Router := Task Sessions BackendRequest HttpReply

namespace Router

/-- `ctx.sessions.read().await.get(&session_id)`. -/
def getSession (s : SessionId) : Router (Option SessionRuntime) := Task.read fun m => m.lookup s

/-- `if let Some(sess) = ctx.sessions.write().await.get_mut(&session_id)`. -/
def updateSession (s : SessionId) (f : SessionRuntime → SessionRuntime) : Router Unit :=
  Task.modify fun m => FMap.modify m s f

/-- `ctx.sessions.write().await.remove(&session_id)`. -/
def removeSession (s : SessionId) : Router Unit := Task.modify fun m => m.erase s

def post (q : BackendRequest) : Router HttpReply := Task.request q

def resolveMapId (s : SessionId) (mapIdHint : Option MapId) : Router MapId :=
  match mapIdHint with
  | some mapId => pure mapId
  | none => do
    let sess ← getSession s
    pure ((sess.bind (·.mapId)).getD 1)

def isAuthenticated (s : SessionId) : Router Bool := do
  let sess ← getSession s
  pure (sess.bind (·.accountId)).isSome

def isInWorld (s : SessionId) : Router Bool := do
  let sess ← getSession s
  pure ((sess.map fun e => e.inWorld && e.accountId.isSome).getD false)

def isCharacterSelected (s : SessionId) : Router Bool := do
  let sess ← getSession s
  pure ((sess.map fun e => e.characterId.isSome && e.accountId.isSome).getD false)

def routeAuthLogin (s : SessionId) (payload : LoginPayload) : Router Unit := do
  let sess ← getSession s
  let remoteIp := (sess.map (·.remoteIp)).getD "0.0.0.0"
  let reply ← post (.authLogin ⟨s, payload.username, payload.password, remoteIp⟩)
  match reply.login with
  | some body =>
    if body.accepted then
      updateSession s fun e =>
        { e with accountId := body.accountId, characterId := none, mapId := none, inWorld := false }
    else pure ()
  | none => pure ()

def routeAuthLogout (s : SessionId) : Router Unit := do
  let _ ← post (.authLogout ⟨s⟩)
  pure ()

def routeAuthCharacterList (s : SessionId) : Router Unit := do
  let _ ← post (.authCharacterList s)
  pure ()

/-- `format!("{:?}", class).to_ascii_lowercase()`. -/
def className : CharacterClass → String
  | .warrior => "warrior"
  | .mage => "mage"
  | .archer => "archer"

/-- `u8 as i16`. -/
def i16OfU8 (b : UInt8) : Int16 := b.toUInt16.toInt16

def routeAuthCharacterCreate (s : SessionId) (payload : CharacterCreatePayload) : Router Unit := do
  let _ ← post (.authCharacterCreate
    { sessionId := s
      name := payload.name
      characterClass := className payload.characterClass
      gender := i16OfU8 payload.gender
      skinColor := i16OfU8 payload.skinColor
      hairStyle := i16OfU8 payload.hairStyle
      hairColor := i16OfU8 payload.hairColor
      underwearColor := i16OfU8 payload.underwearColor
      stats := payload.stats })
  pure ()

def routeAuthCharacterDelete (s : SessionId) (characterId : CharacterId) : Router Unit := do
  let reply ← post (.authCharacterDelete ⟨s, characterId⟩)
  match reply.characterDelete with
  | some body =>
    if body.ok then
      updateSession s fun e =>
        if e.characterId = some characterId then
          { e with characterId := none, mapId := none, inWorld := false }
        else e
    else pure ()
  | none => pure ()

def routeAuthCharacterSelect (s : SessionId) (characterId : CharacterId) : Router Unit := do
  let reply ← post (.authCharacterSelect ⟨s, characterId⟩)
  match reply.characterSelect with
  | some body =>
    if body.ok then
      updateSession s fun e =>
        { e with characterId := body.characterId, mapId := body.mapId, inWorld := false }
    else pure ()
  | none => pure ()

def routeWorldCommand (s : SessionId) (mapId : MapId) (request : WorldRouteCommandRequest) :
    Router Bool := do
  let sess ← getSession s
  let reply ← post (.worldRoute mapId ⟨s, sess.bind (·.characterId), request⟩)
  pure reply.isSuccess

/-- The commands of play, which differ in their request only. -/
def routePlay (s : SessionId) (mapId : MapId) (request : WorldRouteCommandRequest) :
    Router Unit := do
  if ← isInWorld s then
    let _ ← routeWorldCommand s mapId request
    pure ()
  else pure ()

/-- The commands on characters, for authenticated sessions only. -/
def whenAuthenticated (s : SessionId) (route : Router Unit) : Router Unit := do
  if ← isAuthenticated s then route else pure ()

def routeEnterWorld (s : SessionId) (mapId : MapId) : Router Unit := do
  if ← isCharacterSelected s then
    if ← routeWorldCommand s mapId .enterWorld then
      updateSession s fun e => { e with inWorld := true }
    else pure ()
  else pure ()

def routeLogout (s : SessionId) (mapId : MapId) : Router Unit := do
  let _ ← routeWorldCommand s mapId .logout
  routeAuthLogout s
  removeSession s

def routeClientCommand (s : SessionId) (mapIdHint : Option MapId) (command : ClientCommand) :
    Router Unit := do
  let mapId ← resolveMapId s mapIdHint
  match command with
  | .login payload => routeAuthLogin s payload
  | .characterList => whenAuthenticated s (routeAuthCharacterList s)
  | .characterCreate payload => whenAuthenticated s (routeAuthCharacterCreate s payload)
  | .characterDelete characterId => whenAuthenticated s (routeAuthCharacterDelete s characterId)
  | .characterSelect characterId => whenAuthenticated s (routeAuthCharacterSelect s characterId)
  | .enterWorld => routeEnterWorld s mapId
  | .move x y run => routePlay s mapId (.move x y run)
  | .attack targetId => routePlay s mapId (.attack targetId)
  | .castSkill skillId targetId => routePlay s mapId (.castSkill skillId targetId)
  | .pickupItem entityId => routePlay s mapId (.pickupItem entityId)
  | .dropItem slot quantity => routePlay s mapId (.dropItem slot quantity)
  | .useItem slot => routePlay s mapId (.useItem slot)
  | .npcInteraction npcId => routePlay s mapId (.npcInteraction npcId)
  | .chat message => routePlay s mapId (.chat message)
  | .whisper toCharacter message => routePlay s mapId (.whisper toCharacter message)
  | .guildChat message => routePlay s mapId (.guildChat message)
  | .heartbeat => do
    let _ ← routeWorldCommand s mapId .heartbeat
    pure ()
  | .logout => routeLogout s mapId

/-- What the router does with a command of its queue. -/
def handle : InternalCommand → Router Unit
  | .routeClientCommand s mapIdHint command => routeClientCommand s mapIdHint command
  | .disconnectSession s _ => do
    routeAuthLogout s
    removeSession s
  | .broadcast .. | .moveCharacter .. => pure ()

end Router

/-! ### The phase of a connection -/

def nextPhase (phase : SessionPhase) (command : ClientCommand) : SessionPhase :=
  match phase, command with
  | .preAuth, .login _ => .postAuth
  | .postAuth, .characterList | .postAuth, .characterCreate _ | .postAuth, .characterDelete _
  | .postAuth, .characterSelect _ => .inCharacterList
  | .inCharacterList, .enterWorld => .inWorld
  | _, .logout => .closed
  | phase, _ => phase

/-- `to_ascii_lowercase`, and `contains`. -/
def containsLowercase (text part : String) : Bool :=
  part.toList <:+: text.toList.map Char.toLower

def detectProtocolVersion (payload : LoginPayload) : ProtocolVersion :=
  let v := trim payload.clientVersion
  if containsLowercase v "modern" || containsLowercase v "xtreme" then .modernV400
  else .legacyV382

end HelbreathBackend.Gateway
