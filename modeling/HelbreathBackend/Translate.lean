import HelbreathBackend.Application
import HelbreathBackend.Frame

/-!
From decoded packets to commands.

The opcode says which command a packet is and how its payload is read; the command is then
validated in the state of the session. The textual form of identifiers is read by a library
of its own, which is a parameter here.
-/

namespace HelbreathBackend.Translate

open HelbreathBackend.Domain HelbreathBackend.Application HelbreathBackend.Frame

inductive ProtocolVersion
  | legacyV382
  | modernV400
  deriving DecidableEq

structure OpcodeMatrix where
  login : UInt16
  characterList : UInt16
  characterCreate : UInt16
  characterDelete : UInt16
  characterSelect : UInt16
  enterWorld : UInt16
  moveCmd : UInt16
  attack : UInt16
  castSkill : UInt16
  pickupItem : UInt16
  dropItem : UInt16
  useItem : UInt16
  npcInteraction : UInt16
  chat : UInt16
  whisper : UInt16
  guildChat : UInt16
  heartbeat : UInt16
  logout : UInt16
  deriving DecidableEq

namespace OpcodeMatrix

def legacyV382 : OpcodeMatrix where
  login := 0x0001
  characterList := 0x0002
  characterCreate := 0x0003
  characterSelect := 0x0004
  enterWorld := 0x0005
  characterDelete := 0x0006
  moveCmd := 0x0100
  attack := 0x0101
  castSkill := 0x0102
  pickupItem := 0x0103
  dropItem := 0x0104
  useItem := 0x0105
  npcInteraction := 0x0106
  chat := 0x0200
  whisper := 0x0201
  guildChat := 0x0202
  heartbeat := 0x02FE
  logout := 0x02FF

/-- The modern matrix is the legacy one, until captures say otherwise. -/
def modernV400 : OpcodeMatrix := legacyV382

def forVersion : ProtocolVersion → OpcodeMatrix
  | .legacyV382 => legacyV382
  | .modernV400 => modernV400

end OpcodeMatrix

inductive SessionPhase
  | preAuth
  | postAuth
  | inCharacterList
  | inWorld
  | closed
  deriving DecidableEq

def SessionPhase.asDomainState : SessionPhase → SessionState
  | .preAuth => .connecting
  | .postAuth => .authenticated
  | .inCharacterList => .inCharacterList
  | .inWorld => .inWorld
  | .closed => .closed

inductive TranslateError
  | unknownOpcode (opcode : UInt16)
  | invalidPayload (reason : String)
  | invalidSessionState (err : CommandValidationError)
  deriving DecidableEq

abbrev Parse := Except TranslateError

/-! ### Payloads -/

/-- `i32::from_le_bytes`. -/
def i32FromLeBytes (b0 b1 b2 b3 : UInt8) : Int32 :=
  (UInt32.ofNat (b0.toNat + 256 * (b1.toNat + 256 * (b2.toNat + 256 * b3.toNat)))).toInt32

/-- `std::str::from_utf8`. -/
def fromUtf8 (bytes : Bytes) : Option String := String.fromUTF8? bytes.toByteArray

def bytesToCleanString (input : Bytes) (maxLen : ℕ) : Parse String :=
  let zeroTerminated := (input.splitOnP (· == 0)).head?.getD input
  match fromUtf8 zeroTerminated with
  | none => .error (.invalidPayload "payload is not utf8")
  | some raw =>
    let text := trim raw
    if text = "" then .error (.invalidPayload "text payload is empty")
    else if maxLen < text.utf8ByteSize then .error (.invalidPayload "text payload too long")
    else .ok text

def parseTextPayload (payload : Bytes) (maxLen : ℕ) : Parse String :=
  bytesToCleanString payload maxLen

def parseLoginPayload (payload : Bytes) : Parse LoginPayload :=
  match payload.splitOnP (· == 0) with
  | username :: password :: version :: _ => do
    let username ← bytesToCleanString username 32
    let password ← bytesToCleanString password 128
    let clientVersion ← bytesToCleanString version 24
    .ok ⟨username, password, clientVersion⟩
  | _ => .error (.invalidPayload "login payload expects username,password,version")

def parseCharacterCreatePayload (payload : Bytes) : Parse CharacterCreatePayload :=
  match payload.splitOnP (· == 0) with
  | name :: classPart :: _ => do
    let characterClass : CharacterClass :=
      match classPart.head?.getD 0 with
      | 0 => .warrior
      | 1 => .mage
      | _ => .archer
    let name ← bytesToCleanString name 16
    .ok ⟨name, characterClass, 0, 0, 0, 0, 0, (10, 10, 10, 10, 10, 10)⟩
  | _ => .error (.invalidPayload "character_create payload is malformed")

/-- `splitn(2, |b| *b == 0)`: the bytes before the first zero, and those after it if there
is one. -/
def splitAtZero : Bytes → Bytes × Option Bytes
  | [] => ([], none)
  | b :: rest => if b = 0 then ([], some rest) else (splitAtZero rest).map (b :: ·) id

def parseWhisperPayload (payload : Bytes) : Parse (String × String) :=
  match splitAtZero payload with
  | (_, none) => .error (.invalidPayload "whisper missing message")
  | (recipient, some message) => do
    let toCharacter ← bytesToCleanString recipient 32
    let message ← bytesToCleanString message 160
    .ok (toCharacter, message)

lemma length_take_sixteen {payload : Bytes} (h : 16 ≤ payload.length) :
    (payload.take 16).length = 16 :=
  List.length_take_of_le h

section Uuids

-- `Uuid::parse_str`, of the `uuid` crate
variable (parseStr : String → Option Uuid)

def parseUuidPayload (payload : Bytes) : Parse Uuid :=
  if h : 16 ≤ payload.length then .ok ⟨payload.take 16, length_take_sixteen h⟩
  else do
    let text ← parseTextPayload payload 64
    match parseStr (trim text) with
    | some uuid => .ok uuid
    | none => .error (.invalidPayload "invalid uuid payload")

/-! ### Packets -/

/-- The match on the opcode. -/
def parseCommand (op : OpcodeMatrix) (opcode : UInt16) (payload : Bytes) : Parse ClientCommand :=
  if opcode = op.login then do .ok (.login (← parseLoginPayload payload))
  else if opcode = op.characterList then .ok .characterList
  else if opcode = op.characterCreate then do
    .ok (.characterCreate (← parseCharacterCreatePayload payload))
  else if opcode = op.characterDelete then do
    .ok (.characterDelete (← parseUuidPayload parseStr payload))
  else if opcode = op.characterSelect then do
    .ok (.characterSelect (← parseUuidPayload parseStr payload))
  else if opcode = op.enterWorld then .ok .enterWorld
  else if opcode = op.moveCmd then
    match payload with
    | x0 :: x1 :: x2 :: x3 :: y0 :: y1 :: y2 :: y3 :: run :: _ =>
      .ok (.move (i32FromLeBytes x0 x1 x2 x3) (i32FromLeBytes y0 y1 y2 y3) (run != 0))
    | _ => .error (.invalidPayload "move requires x,y,run")
  else if opcode = op.attack then do .ok (.attack (← parseUuidPayload parseStr payload))
  else if opcode = op.castSkill then
    match payload with
    | s0 :: s1 :: s2 :: s3 :: rest => do
      let targetId ←
        if 20 ≤ payload.length then some <$> parseUuidPayload parseStr (rest.take 16)
        else .ok none
      .ok (.castSkill (i32FromLeBytes s0 s1 s2 s3) targetId)
    | _ => .error (.invalidPayload "cast_skill requires skill_id")
  else if opcode = op.pickupItem then do .ok (.pickupItem (← parseUuidPayload parseStr payload))
  else if opcode = op.dropItem then
    match payload with
    | s0 :: s1 :: s2 :: s3 :: q0 :: q1 :: q2 :: q3 :: _ =>
      .ok (.dropItem (i32FromLeBytes s0 s1 s2 s3) (i32FromLeBytes q0 q1 q2 q3))
    | _ => .error (.invalidPayload "drop_item requires slot,quantity")
  else if opcode = op.useItem then
    match payload with
    | s0 :: s1 :: s2 :: s3 :: _ => .ok (.useItem (i32FromLeBytes s0 s1 s2 s3))
    | _ => .error (.invalidPayload "use_item requires slot")
  else if opcode = op.npcInteraction then do
    .ok (.npcInteraction (← parseUuidPayload parseStr payload))
  else if opcode = op.chat then do .ok (.chat (← parseTextPayload payload 160))
  else if opcode = op.whisper then do
    let (toCharacter, message) ← parseWhisperPayload payload
    .ok (.whisper toCharacter message)
  else if opcode = op.guildChat then do .ok (.guildChat (← parseTextPayload payload 160))
  else if opcode = op.heartbeat then .ok .heartbeat
  else if opcode = op.logout then .ok .logout
  else .error (.unknownOpcode opcode)

def translatePacketForVersion (packet : DecodedPacket) (sessionPhase : SessionPhase)
    (version : ProtocolVersion) : Parse ClientCommand := do
  let cmd ← parseCommand parseStr (OpcodeMatrix.forVersion version) packet.header.opcode
    packet.payload
  match validateClientCommand sessionPhase.asDomainState cmd with
  | .ok _ => .ok cmd
  | .error err => .error (.invalidSessionState err)

/-- What is translated is allowed in the phase it came in. -/
lemma allowedIn_of_translate {packet : DecodedPacket} {sessionPhase : SessionPhase}
    {version : ProtocolVersion} {cmd : ClientCommand}
    (h : translatePacketForVersion parseStr packet sessionPhase version = .ok cmd) :
    allowedIn sessionPhase.asDomainState cmd = true := by
  unfold translatePacketForVersion at h
  rcases hp : parseCommand parseStr (OpcodeMatrix.forVersion version) packet.header.opcode
    packet.payload with err | cmd'
  · rw [hp] at h
    cases h
  · rw [hp] at h
    simp only [bind, Except.bind] at h
    split at h
    · next u hv =>
      cases h
      exact allowedIn_of_validate hv
    · cases h

end Uuids

end HelbreathBackend.Translate
