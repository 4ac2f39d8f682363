import HelbreathBackend.TranslateSafety

/-!
Commands as clients put them on the wire.

The scripts of the repository are its only clients: integers are little-endian, identifiers are
their sixteen bytes, the texts of a login end in a zero each. What they send for a command is
translated to that command again.
-/

namespace HelbreathBackend.ClientFrames

open HelbreathBackend.Lib HelbreathBackend.Domain HelbreathBackend.Application
open HelbreathBackend.Frame HelbreathBackend.Translate

/-! ### The builders -/

/-- `str.encode("utf-8")`. -/
def utf8 (text : String) : Bytes := text.toList.flatMap String.utf8EncodeChar

/-- `int.to_bytes(4, "little", signed=True)`. -/
def leI32 (value : Int32) : Bytes :=
  let n := value.toUInt32.toNat
  [UInt8.ofNat n, UInt8.ofNat (n / 256), UInt8.ofNat (n / 65536), UInt8.ofNat (n / 16777216)]

/-- The parts with a zero between them, and one behind the last. -/
def textz (parts : List String) : Bytes := List.intercalate [0] (parts.map utf8) ++ [0]

def classByte : CharacterClass → UInt8
  | .warrior => 0
  | .mage => 1
  | .archer => 2

def runByte (run : Bool) : UInt8 := if run then 1 else 0

def commandOpcode : ClientCommand → UInt16
  | .login _ => 0x0001
  | .characterList => 0x0002
  | .characterCreate _ => 0x0003
  | .characterSelect _ => 0x0004
  | .enterWorld => 0x0005
  | .characterDelete _ => 0x0006
  | .move .. => 0x0100
  | .attack _ => 0x0101
  | .castSkill .. => 0x0102
  | .pickupItem _ => 0x0103
  | .dropItem .. => 0x0104
  | .useItem _ => 0x0105
  | .npcInteraction _ => 0x0106
  | .chat _ => 0x0200
  | .whisper .. => 0x0201
  | .guildChat _ => 0x0202
  | .heartbeat => 0x02FE
  | .logout => 0x02FF

def commandPayload : ClientCommand → Bytes
  | .login payload => textz [payload.username, payload.password, payload.clientVersion]
  | .characterCreate payload => utf8 payload.name ++ [0, classByte payload.characterClass]
  | .characterDelete u | .characterSelect u | .attack u | .pickupItem u | .npcInteraction u =>
    u.bytes
  | .move x y run => leI32 x ++ leI32 y ++ [runByte run]
  | .castSkill skillId none => leI32 skillId
  | .castSkill skillId (some target) => leI32 skillId ++ target.bytes
  | .dropItem slot quantity => leI32 slot ++ leI32 quantity
  | .useItem slot => leI32 slot
  | .chat message | .guildChat message => utf8 message
  | .whisper toCharacter message => utf8 toCharacter ++ 0 :: utf8 message
  | .characterList | .enterWorld | .heartbeat | .logout => []

/-- The frame of a command. -/
def commandFrame (cmd : ClientCommand) : Bytes :=
  encodeFrame (commandOpcode cmd) (commandPayload cmd)

/-- A new character looks and starts as the parser has it: the frame has no room for more. -/
def ParserDefaults : ClientCommand → Prop
  | .characterCreate payload =>
    payload.gender = 0 ∧ payload.skinColor = 0 ∧ payload.hairStyle = 0 ∧ payload.hairColor = 0 ∧
      payload.underwearColor = 0 ∧ payload.stats = (10, 10, 10, 10, 10, 10)
  | _ => True

/-- The command that is read from the frame of a command. -/
def asRead : ClientCommand → ClientCommand
  | .characterCreate payload =>
    .characterCreate ⟨payload.name, payload.characterClass, 0, 0, 0, 0, 0, 10, 10, 10, 10, 10, 10⟩
  | cmd => cmd

lemma commandOpcode_asRead (cmd : ClientCommand) :
    commandOpcode (asRead cmd) = commandOpcode cmd := by
  cases cmd <;> rfl

lemma commandPayload_asRead (cmd : ClientCommand) :
    commandPayload (asRead cmd) = commandPayload cmd := by
  cases cmd <;> rfl

lemma commandTexts_asRead (cmd : ClientCommand) :
    commandTexts (asRead cmd) = commandTexts cmd := by
  cases cmd <;> rfl

lemma parserDefaults_asRead (cmd : ClientCommand) : ParserDefaults (asRead cmd) := by
  cases cmd with
  | characterCreate payload => exact ⟨rfl, rfl, rfl, rfl, rfl, rfl⟩
  | _ => trivial

/-! ### Texts -/

@[simp] lemma length_utf8 (text : String) : (utf8 text).length = text.utf8ByteSize := by
  have hbytes : (utf8 text).toByteArray = text.toByteArray := String.utf8Encode_toList
  rw [← List.size_toByteArray, hbytes]
  rfl

lemma fromUtf8_utf8 (text : String) : fromUtf8 (utf8 text) = some text := by
  have hbytes : (utf8 text).toByteArray = text.toByteArray := String.utf8Encode_toList
  rw [fromUtf8, hbytes, String.fromUTF8?, dif_pos text.isValidUTF8]
  rfl

/-- Only the NUL character has a zero among its bytes. -/
lemma zero_notMem_utf8EncodeChar {c : Char} (h : c ≠ Char.ofNat 0) :
    (0 : UInt8) ∉ String.utf8EncodeChar c := by
  have hpos : c.val.toNat ≠ 0 := by
    intro hzero
    exact h (Char.ext (UInt32.toNat_inj.mp hzero))
  have hbyte : ∀ n < 256, n ≠ 0 → (0 : UInt8) ≠ UInt8.ofNat n := by
    intro n hn hne heq
    have hnat := congrArg UInt8.toNat heq
    rw [UInt8.toNat_ofNat'] at hnat
    change 0 = n % 256 at hnat
    omega
  fun_cases String.utf8EncodeChar c with
  | case1 v hle =>
    rw [List.mem_singleton]
    exact hbyte _ (by omega) hpos
  | case2 v =>
    simp only [List.mem_cons, List.not_mem_nil, or_false, not_or]
    exact ⟨hbyte _ (by omega) (by omega), hbyte _ (by omega) (by omega)⟩
  | case3 v =>
    simp only [List.mem_cons, List.not_mem_nil, or_false, not_or]
    exact ⟨hbyte _ (by omega) (by omega), hbyte _ (by omega) (by omega),
      hbyte _ (by omega) (by omega)⟩
  | case4 v =>
    simp only [List.mem_cons, List.not_mem_nil, or_false, not_or]
    exact ⟨hbyte _ (by omega) (by omega), hbyte _ (by omega) (by omega),
      hbyte _ (by omega) (by omega), hbyte _ (by omega) (by omega)⟩

lemma zero_notMem_utf8 {text : String} (h : Char.ofNat 0 ∉ text.toList) :
    (0 : UInt8) ∉ utf8 text := by
  intro hzero
  obtain ⟨c, hc, hzero⟩ := List.mem_flatMap.mp hzero
  exact zero_notMem_utf8EncodeChar (fun heq => h (heq ▸ hc)) hzero

lemma not_zero_of_notMem {bytes : Bytes} (h : (0 : UInt8) ∉ bytes) :
    ∀ b ∈ bytes, (b == 0) = false := by
  intro b hb
  rw [beq_eq_false_iff_ne]
  rintro rfl
  exact h hb

/-- A text without NUL is read up to its end. -/
lemma bytesToCleanString_utf8 {text : String} {maxLen : ℕ} (h : Char.ofNat 0 ∉ text.toList) :
    bytesToCleanString (utf8 text) maxLen =
      if trim text = "" then .error (.invalidPayload "text payload is empty")
      else if maxLen < (trim text).utf8ByteSize then
        .error (.invalidPayload "text payload too long")
      else .ok (trim text) := by
  have hsplit : (utf8 text).splitOnP (· == 0) = [utf8 text] :=
    List.splitOnP_eq_singleton (not_zero_of_notMem (zero_notMem_utf8 h))
  unfold bytesToCleanString
  rw [hsplit, List.head?_cons, Option.getD_some]
  dsimp only
  rw [fromUtf8_utf8]

lemma bytesToCleanString_clean {text : String} {maxLen : ℕ} (h : Clean maxLen text) :
    bytesToCleanString (utf8 text) maxLen = .ok text := by
  have hfits := h.fits
  rw [bytesToCleanString_utf8 h.noNul, h.trim_eq, if_neg h.nonempty, if_neg (by omega)]

/-! ### Integers -/

/-- Four bytes hold all of the thirty-two bits, the sign among them. -/
lemma exists_leI32 (value : Int32) :
    ∃ b0 b1 b2 b3, leI32 value = [b0, b1, b2, b3] ∧ i32FromLeBytes b0 b1 b2 b3 = value := by
  refine ⟨_, _, _, _, rfl, ?_⟩
  have hlt := value.toUInt32.toNat_lt
  have hnat : (UInt8.ofNat value.toUInt32.toNat).toNat + 256 *
      ((UInt8.ofNat (value.toUInt32.toNat / 256)).toNat + 256 *
        ((UInt8.ofNat (value.toUInt32.toNat / 65536)).toNat + 256 *
          (UInt8.ofNat (value.toUInt32.toNat / 16777216)).toNat)) = value.toUInt32.toNat := by
    simp only [UInt8.toNat_ofNat']
    omega
  rw [i32FromLeBytes, hnat, UInt32.ofNat_toNat]
  rfl

/-! ### Payloads -/

lemma textz_singleton (part : String) : textz [part] = utf8 part ++ 0 :: [] := by
  simp [textz, List.intercalate]

lemma textz_cons_cons (first second : String) (rest : List String) :
    textz (first :: second :: rest) = utf8 first ++ 0 :: textz (second :: rest) := by
  simp [textz, List.intercalate]

/-- Parts with a zero behind each are split at the zeros. -/
lemma splitOnP_textz {first : String} {rest : List String}
    (h : ∀ part ∈ first :: rest, Char.ofNat 0 ∉ part.toList) :
    (textz (first :: rest)).splitOnP (· == 0) = (first :: rest).map utf8 ++ [[]] := by
  induction rest generalizing first with
  | nil =>
    have hfirst := not_zero_of_notMem (zero_notMem_utf8 (h first List.mem_cons_self))
    rw [textz_singleton, List.splitOnP_append_cons_of_forall_mem hfirst 0 rfl, List.splitOnP_nil]
    rfl
  | cons second rest ih =>
    have hfirst := not_zero_of_notMem (zero_notMem_utf8 (h first List.mem_cons_self))
    rw [textz_cons_cons, List.splitOnP_append_cons_of_forall_mem hfirst 0 rfl,
      ih fun part hpart => h part (List.mem_cons_of_mem _ hpart)]
    rfl

lemma parseLoginPayload_textz {username password clientVersion : String}
    (hname : Clean 32 username) (hpassword : Char.ofNat 0 ∉ password.toList)
    (hversion : Clean 24 clientVersion) :
    parseLoginPayload (textz [username, password, clientVersion]) =
      (bytesToCleanString (utf8 password) 128).map fun p => ⟨username, p, clientVersion⟩ := by
  have hnul : ∀ part ∈ [username, password, clientVersion], Char.ofNat 0 ∉ part.toList := by
    intro part hpart
    rcases List.mem_cons.mp hpart with rfl | hpart
    · exact hname.noNul
    · rcases List.mem_pair.mp hpart with rfl | rfl
      · exact hpassword
      · exact hversion.noNul
  unfold parseLoginPayload
  rw [splitOnP_textz hnul]
  simp only [List.map_cons, List.cons_append, bytesToCleanString_clean hname,
    bytesToCleanString_clean hversion]
  rfl

/-- The class byte of a warrior is a zero itself: the part behind the name is then empty, which
reads as a warrior too. -/
lemma parseCharacterCreatePayload_name {name : String} {characterClass : CharacterClass}
    (hname : Clean 16 name) :
    parseCharacterCreatePayload (utf8 name ++ [0, classByte characterClass]) =
      .ok ⟨name, characterClass, 0, 0, 0, 0, 0, (10, 10, 10, 10, 10, 10)⟩ := by
  have hzero := not_zero_of_notMem (zero_notMem_utf8 hname.noNul)
  unfold parseCharacterCreatePayload
  rw [List.splitOnP_append_cons_of_forall_mem hzero 0 rfl]
  cases characterClass with
  | warrior =>
    rw [show [classByte .warrior].splitOnP (· == 0) = [[], []] from rfl]
    dsimp only
    rw [bytesToCleanString_clean hname]
    rfl
  | mage =>
    rw [show [classByte .mage].splitOnP (· == 0) = [[1]] from rfl]
    dsimp only
    rw [bytesToCleanString_clean hname]
    rfl
  | archer =>
    rw [show [classByte .archer].splitOnP (· == 0) = [[2]] from rfl]
    dsimp only
    rw [bytesToCleanString_clean hname]
    rfl

lemma splitAtZero_append {front : Bytes} (h : (0 : UInt8) ∉ front) (rest : Bytes) :
    splitAtZero (front ++ 0 :: rest) = (front, some rest) := by
  induction front with
  | nil => rfl
  | cons b front ih =>
    have hb : b ≠ 0 := fun heq => h (heq ▸ List.mem_cons_self)
    rw [List.cons_append, splitAtZero, if_neg hb, ih fun hmem => h (List.mem_cons_of_mem _ hmem)]
    rfl

lemma parseWhisperPayload_utf8 {toCharacter message : String} (hto : Clean 32 toCharacter)
    (hmessage : Clean 160 message) :
    parseWhisperPayload (utf8 toCharacter ++ 0 :: utf8 message) = .ok (toCharacter, message) := by
  unfold parseWhisperPayload
  rw [splitAtZero_append (zero_notMem_utf8 hto.noNul)]
  simp only [bytesToCleanString_clean hto, bytesToCleanString_clean hmessage]
  rfl

lemma parseUuidPayload_bytes (parseStr : String → Option Uuid) (u : Uuid) :
    parseUuidPayload parseStr u.bytes = .ok u := by
  obtain ⟨bytes, hlen⟩ := u
  unfold parseUuidPayload
  rw [dif_pos (by rw [hlen])]
  simp only [← hlen, List.take_length]

/-! ### Commands -/

section Commands

variable (parseStr : String → Option Uuid)

lemma uuidCommand_bytes (command : Uuid → ClientCommand) (u : Uuid) :
    (do .ok (command (← parseUuidPayload parseStr u.bytes)) : Parse ClientCommand) =
      .ok (command u) := by
  rw [parseUuidPayload_bytes]
  rfl

lemma textCommand_utf8 (command : String → ClientCommand) {text : String} (h : Clean 160 text) :
    (do .ok (command (← parseTextPayload (utf8 text) 160)) : Parse ClientCommand) =
      .ok (command text) := by
  rw [parseTextPayload, bytesToCleanString_clean h]
  rfl

/-- The opcode of a command, and its payload, are read back as the command. -/
lemma parseCommand_commandPayload (version : ProtocolVersion) {cmd : ClientCommand}
    (hclean : CleanCommand cmd) (hfixed : ParserDefaults cmd) :
    parseCommand parseStr (OpcodeMatrix.forVersion version) (commandOpcode cmd)
      (commandPayload cmd) = .ok cmd := by
  -- both versions number the commands alike
  have hmatrix : OpcodeMatrix.forVersion version = OpcodeMatrix.legacyV382 := by
    cases version <;> rfl
  rw [hmatrix]
  cases cmd with
  | login payload =>
    obtain ⟨username, password, clientVersion⟩ := payload
    have hname : Clean 32 username := hclean _ (.head _)
    have hpassword : Clean 128 password := hclean _ (.tail _ (.head _))
    have hversion : Clean 24 clientVersion := hclean _ (.tail _ (.tail _ (.head _)))
    change (do .ok (.login (← parseLoginPayload (textz [username, password, clientVersion]))) :
      Parse ClientCommand) = _
    rw [parseLoginPayload_textz hname hpassword.noNul hversion, bytesToCleanString_clean hpassword]
    rfl
  | characterList => rfl
  | characterCreate payload =>
    obtain ⟨name, characterClass, gender, skin, style, color, underwear, stats⟩ := payload
    obtain ⟨rfl, rfl, rfl, rfl, rfl, rfl⟩ := hfixed
    have hname : Clean 16 name := hclean _ (.head _)
    change (do
      .ok (.characterCreate
        (← parseCharacterCreatePayload (utf8 name ++ [0, classByte characterClass]))) :
      Parse ClientCommand) = _
    rw [parseCharacterCreatePayload_name hname]
    rfl
  | characterDelete u => exact uuidCommand_bytes parseStr .characterDelete u
  | characterSelect u => exact uuidCommand_bytes parseStr .characterSelect u
  | enterWorld => rfl
  | move x y run =>
    obtain ⟨x0, x1, x2, x3, hx, hxvalue⟩ := exists_leI32 x
    obtain ⟨y0, y1, y2, y3, hy, hyvalue⟩ := exists_leI32 y
    have hrun : (runByte run != 0) = run := by cases run <;> rfl
    rw [commandPayload, hx, hy]
    change Except.ok (ClientCommand.move (i32FromLeBytes x0 x1 x2 x3)
      (i32FromLeBytes y0 y1 y2 y3) (runByte run != 0)) = _
    rw [hxvalue, hyvalue, hrun]
  | attack u => exact uuidCommand_bytes parseStr .attack u
  | castSkill skillId target =>
    obtain ⟨s0, s1, s2, s3, hskill, hvalue⟩ := exists_leI32 skillId
    cases target with
    | none =>
      rw [commandPayload, hskill]
      change Except.ok (ClientCommand.castSkill (i32FromLeBytes s0 s1 s2 s3) none) = _
      rw [hvalue]
    | some u =>
      have hlen : 20 ≤ ([s0, s1, s2, s3] ++ u.bytes).length := by
        rw [List.length_append, u.length_eq]
        rfl
      have htake : u.bytes.take 16 = u.bytes := by rw [← u.length_eq, List.take_length]
      rw [commandPayload, hskill]
      change (do
        let targetId ←
          if 20 ≤ ([s0, s1, s2, s3] ++ u.bytes).length then
            some <$> parseUuidPayload parseStr (u.bytes.take 16)
          else .ok none
        .ok (.castSkill (i32FromLeBytes s0 s1 s2 s3) targetId) : Parse ClientCommand) = _
      rw [if_pos hlen, htake, parseUuidPayload_bytes, hvalue]
      rfl
  | pickupItem u => exact uuidCommand_bytes parseStr .pickupItem u
  | dropItem slot quantity =>
    obtain ⟨s0, s1, s2, s3, hslot, hslotValue⟩ := exists_leI32 slot
    obtain ⟨q0, q1, q2, q3, hquantity, hquantityValue⟩ := exists_leI32 quantity
    rw [commandPayload, hslot, hquantity]
    change Except.ok (ClientCommand.dropItem (i32FromLeBytes s0 s1 s2 s3)
      (i32FromLeBytes q0 q1 q2 q3)) = _
    rw [hslotValue, hquantityValue]
  | useItem slot =>
    obtain ⟨s0, s1, s2, s3, hslot, hvalue⟩ := exists_leI32 slot
    rw [commandPayload, hslot]
    change Except.ok (ClientCommand.useItem (i32FromLeBytes s0 s1 s2 s3)) = _
    rw [hvalue]
  | npcInteraction u => exact uuidCommand_bytes parseStr .npcInteraction u
  | chat message => exact textCommand_utf8 .chat (hclean _ (.head _))
  | whisper toCharacter message =>
    have hto : Clean 32 toCharacter := hclean _ (.head _)
    have hmessage : Clean 160 message := hclean _ (.tail _ (.head _))
    change (parseWhisperPayload (utf8 toCharacter ++ 0 :: utf8 message) >>= _ :
      Parse ClientCommand) = _
    rw [parseWhisperPayload_utf8 hto hmessage]
    rfl
  | guildChat message => exact textCommand_utf8 .guildChat (hclean _ (.head _))
  | heartbeat => rfl
  | logout => rfl

/-- Whatever a new character is to look like, its frame is read. -/
lemma parseCommand_asRead (version : ProtocolVersion) {cmd : ClientCommand}
    (hclean : CleanCommand cmd) :
    parseCommand parseStr (OpcodeMatrix.forVersion version) (commandOpcode cmd)
      (commandPayload cmd) = .ok (asRead cmd) := by
  have hcleanRead : CleanCommand (asRead cmd) := by
    rw [CleanCommand, commandTexts_asRead]
    exact hclean
  have hparse :=
    parseCommand_commandPayload parseStr version hcleanRead (parserDefaults_asRead cmd)
  rwa [commandOpcode_asRead, commandPayload_asRead] at hparse

/-- Clean texts pass the checks on the payload. -/
lemma validatePayload_of_clean {cmd : ClientCommand} (hclean : CleanCommand cmd) :
    validatePayload cmd = .ok () := by
  have htext : ∀ {maxLen : ℕ} {text : String}, Clean maxLen text → trim text ≠ "" := by
    intro maxLen text h
    rw [h.trim_eq]
    exact h.nonempty
  cases cmd with
  | login payload =>
    have hname : Clean 32 payload.username := hclean _ (.head _)
    have hpassword : Clean 128 payload.password := hclean _ (.tail _ (.head _))
    exact if_neg (not_or.mpr ⟨htext hname, hpassword.nonempty⟩)
  | chat message | guildChat message =>
    have hmessage : Clean 160 message := hclean _ (.head _)
    exact if_neg (htext hmessage)
  | _ => rfl

lemma translate_of_parse {packet : DecodedPacket} {sessionPhase : SessionPhase}
    {version : ProtocolVersion} {cmd : ClientCommand}
    (hparse : parseCommand parseStr (OpcodeMatrix.forVersion version) packet.header.opcode
      packet.payload = .ok cmd)
    (hallowed : allowedIn sessionPhase.asDomainState cmd = true)
    (hvalid : validatePayload cmd = .ok ()) :
    translatePacketForVersion parseStr packet sessionPhase version = .ok cmd := by
  have hcommand : validateClientCommand sessionPhase.asDomainState cmd = .ok () := by
    rw [validateClientCommand, if_pos hallowed, hvalid]
  unfold translatePacketForVersion
  rw [hparse]
  simp only [bind, Except.bind, hcommand]

/-- The longest payload is that of a whisper. -/
lemma length_commandPayload {cmd : ClientCommand} (hclean : CleanCommand cmd) :
    (commandPayload cmd).length ≤ 193 := by
  have hi32 : ∀ value, (leI32 value).length = 4 := fun value => rfl
  cases cmd with
  | login payload =>
    have hname : payload.username.utf8ByteSize ≤ 32 := (hclean _ (.head _)).fits
    have hpassword : payload.password.utf8ByteSize ≤ 128 := (hclean _ (.tail _ (.head _))).fits
    have hversion : payload.clientVersion.utf8ByteSize ≤ 24 :=
      (hclean _ (.tail _ (.tail _ (.head _)))).fits
    simp only [commandPayload, textz_cons_cons, textz_singleton, List.length_append,
      List.length_cons, List.length_nil, length_utf8]
    omega
  | characterCreate payload =>
    have hname : payload.name.utf8ByteSize ≤ 16 := (hclean _ (.head _)).fits
    simp only [commandPayload, List.length_append, List.length_cons, List.length_nil, length_utf8]
    omega
  | characterDelete u | characterSelect u | attack u | pickupItem u | npcInteraction u =>
    simp only [commandPayload, u.length_eq]
    omega
  | move x y run =>
    simp only [commandPayload, List.length_append, hi32, List.length_cons, List.length_nil]
    omega
  | castSkill skillId target =>
    cases target with
    | none =>
      simp only [commandPayload, hi32]
      omega
    | some u =>
      simp only [commandPayload, List.length_append, hi32, u.length_eq]
      omega
  | dropItem slot quantity =>
    simp only [commandPayload, List.length_append, hi32]
    omega
  | useItem slot =>
    simp only [commandPayload, hi32]
    omega
  | chat message | guildChat message =>
    have hmessage : message.utf8ByteSize ≤ 160 := (hclean _ (.head _)).fits
    simp only [commandPayload, length_utf8]
    omega
  | whisper toCharacter message =>
    have hto : toCharacter.utf8ByteSize ≤ 32 := (hclean _ (.head _)).fits
    have hmessage : message.utf8ByteSize ≤ 160 := (hclean _ (.tail _ (.head _))).fits
    simp only [commandPayload, List.length_append, List.length_cons, length_utf8]
    omega
  | characterList | enterWorld | heartbeat | logout => simp [commandPayload]

/-- The frame of a command is decoded to its opcode and payload, under every limit that has room
for the payload. -/
lemma decodeFrame_commandFrame {cmd : ClientCommand} {maxPayload : ℕ}
    (hlen : (commandPayload cmd).length ≤ 193) (hmax : (commandPayload cmd).length ≤ maxPayload) :
    decodeFrame (commandFrame cmd) maxPayload =
      .ok ⟨⟨UInt16.ofNat (2 + (commandPayload cmd).length), commandOpcode cmd⟩,
        commandPayload cmd⟩ := by
  rw [commandFrame, decodeFrame_encodeFrame _ _ (by omega), if_neg (by omega)]

end Commands

/-- **Commands survive the wire**: the frame of a command with clean texts is decoded and
translated to that command, in every phase that allows it and under both versions, so commands
that differ have frames that differ. No payload is longer than 193 bytes. -/
theorem commandFrame_roundTrip :
    (∀ parseStr cmd, CleanCommand cmd → ParserDefaults cmd →
      ∀ maxPayload, (commandPayload cmd).length ≤ maxPayload →
        ∃ packet, decodeFrame (commandFrame cmd) maxPayload = .ok packet ∧
          ∀ sessionPhase version, allowedIn sessionPhase.asDomainState cmd = true →
            translatePacketForVersion parseStr packet sessionPhase version = .ok cmd) ∧
    (∀ cmd, CleanCommand cmd → (commandPayload cmd).length ≤ 193) ∧
    ∀ cmd cmd', CleanCommand cmd → ParserDefaults cmd → CleanCommand cmd' → ParserDefaults cmd' →
      commandFrame cmd = commandFrame cmd' → cmd = cmd' := by
  refine ⟨fun parseStr cmd hclean hfixed maxPayload hmax => ?_,
    fun cmd hclean => length_commandPayload hclean,
    fun cmd cmd' hclean hfixed hclean' hfixed' heq => ?_⟩
  · have hlen := length_commandPayload hclean
    refine ⟨_, decodeFrame_commandFrame hlen hmax, fun sessionPhase version hallowed => ?_⟩
    exact translate_of_parse parseStr (parseCommand_commandPayload parseStr version hclean hfixed)
      hallowed (validatePayload_of_clean hclean)
  · -- the same frame holds the same opcode and payload, and these are read as one command
    have hlen := length_commandPayload hclean
    have hlen' := length_commandPayload hclean'
    have hdecode := decodeFrame_commandFrame hlen hlen
    have hdecode' := decodeFrame_commandFrame hlen' hlen'
    rw [← heq, hdecode, Except.ok.injEq, DecodedPacket.mk.injEq, PacketHeader.mk.injEq] at hdecode'
    obtain ⟨⟨-, hopcode⟩, hpayload⟩ := hdecode'
    have hparse := parseCommand_commandPayload (fun _ => none) .legacyV382 hclean hfixed
    have hparse' := parseCommand_commandPayload (fun _ => none) .legacyV382 hclean' hfixed'
    rw [hopcode, hpayload, hparse', Except.ok.injEq] at hparse
    exact hparse.symm

/-- A warrior's class byte, and coordinates at both ends. -/
theorem commandFrame_roundTrip_warrior :
    (∃ packet, decodeFrame (commandFrame
        (.characterCreate ⟨"neo", .warrior, 0, 0, 0, 0, 0, (10, 10, 10, 10, 10, 10)⟩)) 65535 =
          .ok packet ∧
      ∀ sessionPhase version,
        allowedIn sessionPhase.asDomainState
          (.characterCreate ⟨"neo", .warrior, 0, 0, 0, 0, 0, (10, 10, 10, 10, 10, 10)⟩) = true →
        translatePacketForVersion (fun _ => none) packet sessionPhase version =
          .ok (.characterCreate ⟨"neo", .warrior, 0, 0, 0, 0, 0, (10, 10, 10, 10, 10, 10)⟩)) ∧
    commandFrame (.move (-2147483648) 2147483647 true) ≠
      commandFrame (.move 2147483647 (-2147483648) true) := by
  have hname : CleanCommand
      (.characterCreate ⟨"neo", .warrior, 0, 0, 0, 0, 0, (10, 10, 10, 10, 10, 10)⟩) := by
    intro t ht
    rw [List.mem_singleton.mp ht]
    exact clean_of_ends rfl rfl (by decide) (by decide) (by decide)
  have hmove : ∀ x y run, CleanCommand (.move x y run) := fun x y run t ht => by cases ht
  refine ⟨commandFrame_roundTrip.1 _ _ hname
    ⟨rfl, rfl, rfl, rfl, rfl, rfl⟩ 65535 (by decide), fun heq => ?_⟩
  exact absurd (commandFrame_roundTrip.2.2 _ _ (hmove _ _ _) trivial (hmove _ _ _) trivial heq)
    (by decide)

end HelbreathBackend.ClientFrames
