import HelbreathBackend.Domain

/-!
The typed commands a client can give, and the check that a command is allowed in the
state of its session.
-/

namespace HelbreathBackend.Application

open HelbreathBackend.Domain

structure LoginPayload where
  username : String
  password : String
  clientVersion : String
  deriving DecidableEq

/-- The statistics are the six `i16` of the source, in its order. -/
structure CharacterCreatePayload where
  name : String
  characterClass : CharacterClass
  gender : UInt8
  skinColor : UInt8
  hairStyle : UInt8
  hairColor : UInt8
  underwearColor : UInt8
  stats : Int16 × Int16 × Int16 × Int16 × Int16 × Int16
  deriving DecidableEq

inductive ClientCommand
  | login (payload : LoginPayload)
  | characterList
  | characterCreate (payload : CharacterCreatePayload)
  | characterDelete (characterId : CharacterId)
  | characterSelect (characterId : CharacterId)
  | enterWorld
  | move (x y : Int32) (run : Bool)
  | attack (targetId : EntityId)
  | castSkill (skillId : Int32) (targetId : Option EntityId)
  | pickupItem (entityId : EntityId)
  | dropItem (slot quantity : Int32)
  | useItem (slot : Int32)
  | npcInteraction (npcId : EntityId)
  | chat (message : String)
  | whisper (toCharacter message : String)
  | guildChat (message : String)
  | heartbeat
  | logout
  deriving DecidableEq

inductive InternalCommand
  | routeClientCommand (sessionId : SessionId) (mapIdHint : Option MapId)
      (command : ClientCommand)
  | disconnectSession (sessionId : SessionId) (reason : String)
  | broadcast (fromAdmin : Option String) (message : String)
  | moveCharacter (characterId : CharacterId) (targetMapId : MapId) (x y : Int32)
  deriving DecidableEq

inductive CommandValidationError
  | invalidSessionState (state : SessionState) (command : String)
  | invalidPayload (reason : String)
  deriving DecidableEq

/-! ### Text -/

/-- The characters Rust's `str::trim` removes: those with Unicode property `White_Space`. -/
def isWhiteSpace (c : Char) : Bool :=
  let n := c.toNat
  (0x09 ≤ n && n ≤ 0x0D) || n == 0x20 || n == 0x85 || n == 0xA0 || n == 0x1680 ||
    (0x2000 ≤ n && n ≤ 0x200A) || n == 0x2028 || n == 0x2029 || n == 0x202F || n == 0x205F ||
    n == 0x3000

/-- `str::trim`. -/
def trim (s : String) : String :=
  String.ofList ((s.toList.dropWhile isWhiteSpace).reverse.dropWhile isWhiteSpace).reverse

/-! ### Validation -/

def commandName : ClientCommand → String
  | .login _ => "login"
  | .characterList => "character_list"
  | .characterCreate _ => "character_create"
  | .characterDelete _ => "character_delete"
  | .characterSelect _ => "character_select"
  | .enterWorld => "enter_world"
  | .move .. => "move"
  | .attack _ => "attack"
  | .castSkill .. => "cast_skill"
  | .pickupItem _ => "pickup_item"
  | .dropItem .. => "drop_item"
  | .useItem _ => "use_item"
  | .npcInteraction _ => "npc_interaction"
  | .chat _ => "chat"
  | .whisper .. => "whisper"
  | .guildChat _ => "guild_chat"
  | .heartbeat => "heartbeat"
  | .logout => "logout"

/-- The first match of `validate_client_command`: which commands a session state allows. -/
def allowedIn : SessionState → ClientCommand → Bool
  | .connecting, command =>
    match command with
    | .login _ | .heartbeat => true
    | _ => false
  | .authenticated, command =>
    match command with
    | .characterList | .characterCreate _ | .characterDelete _ | .characterSelect _ | .logout
    | .heartbeat => true
    | _ => false
  | .inCharacterList, command =>
    match command with
    | .characterList | .characterCreate _ | .characterDelete _ | .characterSelect _
    | .enterWorld | .logout | .heartbeat => true
    | _ => false
  | .inWorld, command =>
    match command with
    | .enterWorld | .move .. | .attack _ | .castSkill .. | .pickupItem _ | .dropItem ..
    | .useItem _ | .npcInteraction _ | .chat _ | .whisper .. | .guildChat _ | .heartbeat
    | .logout => true
    | _ => false
  | .closed, _ => false

/-- The payload checks that follow once the state allows the command. -/
def validatePayload : ClientCommand → Except CommandValidationError Unit
  | .login payload =>
    if trim payload.username = "" ∨ payload.password = "" then
      .error (.invalidPayload "username/password cannot be empty")
    else .ok ()
  | .chat message | .guildChat message =>
    if trim message = "" then .error (.invalidPayload "chat message cannot be empty") else .ok ()
  | _ => .ok ()

def validateClientCommand (state : SessionState) (command : ClientCommand) :
    Except CommandValidationError Unit :=
  if allowedIn state command then validatePayload command
  else .error (.invalidSessionState state (commandName command))

/-- A validated command is one its state allows. -/
lemma allowedIn_of_validate {state : SessionState} {command : ClientCommand} {u : Unit}
    (h : validateClientCommand state command = .ok u) : allowedIn state command = true := by
  unfold validateClientCommand at h
  split at h
  · assumption
  · cases h

end HelbreathBackend.Application
