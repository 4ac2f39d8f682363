import HelbreathBackend.ServerTranslate

/-!
Translation never panics, and what it accepts is well formed.

Here the parsers of the client's packets are given once more, with every index, range and copy of
the source as an operation that may panic. They are the parsers of the model, lifted, so none of
the operations does. What is translated is valid in its phase, and its texts are clean.
-/

namespace HelbreathBackend.Translate

open HelbreathBackend.Lib HelbreathBackend.Lib.MayPanic
open HelbreathBackend.Domain HelbreathBackend.Application HelbreathBackend.Frame
open HelbreathBackend.ServerTranslate

abbrev CheckedParse := MayPanic TranslateError

/-! ### The parsers, with their accesses -/

def parseLoginPayloadChecked (payload : Bytes) : CheckedParse LoginPayload :=
  let parts := payload.splitOnP (· == 0)
  if parts.length < 3 then
    throw (.invalidPayload "login payload expects username,password,version")
  else do
    let username ← lift (bytesToCleanString (← index parts 0) 32)
    let password ← lift (bytesToCleanString (← index parts 1) 128)
    let clientVersion ← lift (bytesToCleanString (← index parts 2) 24)
    pure ⟨username, password, clientVersion⟩

def parseCharacterCreatePayloadChecked (payload : Bytes) : CheckedParse CharacterCreatePayload :=
  let parts := payload.splitOnP (· == 0)
  if parts.length < 2 then throw (.invalidPayload "character_create payload is malformed")
  else do
    let characterClass : CharacterClass :=
      match (parts[1]?.bind List.head?).getD (0 : UInt8) with
      | 0 => .warrior
      | 1 => .mage
      | _ => .archer
    let name ← lift (bytesToCleanString (← index parts 0) 16)
    pure ⟨name, characterClass, 0, 0, 0, 0, 0, (10, 10, 10, 10, 10, 10)⟩

/-- `i32::from_le_bytes`, of four bytes of the payload. -/
def i32Checked (payload : Bytes) (i0 i1 i2 i3 : ℕ) : CheckedParse Int32 := do
  let b0 ← index payload i0
  let b1 ← index payload i1
  let b2 ← index payload i2
  let b3 ← index payload i3
  pure (i32FromLeBytes b0 b1 b2 b3)

lemma length_copied (raw : {bytes : Bytes // bytes.length = 16}) : raw.1.length = 16 := raw.2

section Uuids

variable (parseStr : String → Option Uuid)

def parseUuidPayloadChecked (payload : Bytes) : CheckedParse Uuid :=
  if 16 ≤ payload.length then do
    let raw ← copyFromSlice 16 (← slice payload 0 16)
    pure ⟨raw.1, length_copied raw⟩
  else do
    let text ← lift (parseTextPayload payload 64)
    match parseStr (trim text) with
    | some uuid => pure uuid
    | none => throw (.invalidPayload "invalid uuid payload")

def parseCommandChecked (op : OpcodeMatrix) (opcode : UInt16) (payload : Bytes) :
    CheckedParse ClientCommand :=
  if opcode = op.login then do pure (.login (← parseLoginPayloadChecked payload))
  else if opcode = op.characterList then pure .characterList
  else if opcode = op.characterCreate then do
    pure (.characterCreate (← parseCharacterCreatePayloadChecked payload))
  else if opcode = op.characterDelete then do
    pure (.characterDelete (← parseUuidPayloadChecked parseStr payload))
  else if opcode = op.characterSelect then do
    pure (.characterSelect (← parseUuidPayloadChecked parseStr payload))
  else if opcode = op.enterWorld then pure .enterWorld
  else if opcode = op.moveCmd then
    if payload.length < 9 then throw (.invalidPayload "move requires x,y,run")
    else do
      let x ← i32Checked payload 0 1 2 3
      let y ← i32Checked payload 4 5 6 7
      let run ← index payload 8
      pure (.move x y (run != 0))
  else if opcode = op.attack then do pure (.attack (← parseUuidPayloadChecked parseStr payload))
  else if opcode = op.castSkill then
    if payload.length < 4 then throw (.invalidPayload "cast_skill requires skill_id")
    else do
      let skillId ← i32Checked payload 0 1 2 3
      let targetId ←
        if 20 ≤ payload.length then do
          let bytes ← slice payload 4 20
          some <$> parseUuidPayloadChecked parseStr bytes
        else pure none
      pure (.castSkill skillId targetId)
  else if opcode = op.pickupItem then do
    pure (.pickupItem (← parseUuidPayloadChecked parseStr payload))
  else if opcode = op.dropItem then
    if payload.length < 8 then throw (.invalidPayload "drop_item requires slot,quantity")
    else do
      let slot ← i32Checked payload 0 1 2 3
      let quantity ← i32Checked payload 4 5 6 7
      pure (.dropItem slot quantity)
  else if opcode = op.useItem then
    if payload.length < 4 then throw (.invalidPayload "use_item requires slot")
    else do
      let slot ← i32Checked payload 0 1 2 3
      pure (.useItem slot)
  else if opcode = op.npcInteraction then do
    pure (.npcInteraction (← parseUuidPayloadChecked parseStr payload))
  else if opcode = op.chat then do pure (.chat (← lift (parseTextPayload payload 160)))
  else if opcode = op.whisper then do
    let (toCharacter, message) ← lift (parseWhisperPayload payload)
    pure (.whisper toCharacter message)
  else if opcode = op.guildChat then do pure (.guildChat (← lift (parseTextPayload payload 160)))
  else if opcode = op.heartbeat then pure .heartbeat
  else if opcode = op.logout then pure .logout
  else throw (.unknownOpcode opcode)

def translatePacketForVersionChecked (packet : DecodedPacket) (sessionPhase : SessionPhase)
    (version : ProtocolVersion) : CheckedParse ClientCommand := do
  let cmd ← parseCommandChecked parseStr (OpcodeMatrix.forVersion version) packet.header.opcode
    packet.payload
  match validateClientCommand sessionPhase.asDomainState cmd with
  | .ok _ => pure cmd
  | .error err => throw (.invalidSessionState err)

end Uuids

/-! ### They are the parsers of the model -/

lemma parseLoginPayloadChecked_eq (payload : Bytes) :
    parseLoginPayloadChecked payload = lift (parseLoginPayload payload) := by
  unfold parseLoginPayloadChecked parseLoginPayload
  rcases payload.splitOnP (· == 0) with _ | ⟨username, _ | ⟨password, _ | ⟨version, rest⟩⟩⟩
  · rfl
  · rfl
  · rfl
  · have hlen : ¬ (username :: password :: version :: rest).length < 3 := by simp
    dsimp only
    rw [if_neg hlen, index_eq (by simp), index_eq (by simp), index_eq (by simp)]
    simp only [lift_bind, lift_ok]
    rfl

lemma parseCharacterCreatePayloadChecked_eq (payload : Bytes) :
    parseCharacterCreatePayloadChecked payload = lift (parseCharacterCreatePayload payload) := by
  unfold parseCharacterCreatePayloadChecked parseCharacterCreatePayload
  rcases payload.splitOnP (· == 0) with _ | ⟨name, _ | ⟨classPart, rest⟩⟩
  · rfl
  · rfl
  · have hlen : ¬ (name :: classPart :: rest).length < 2 := by simp
    dsimp only
    rw [if_neg hlen, index_eq (by simp)]
    simp only [lift_bind, lift_ok]
    rfl

lemma parseUuidPayloadChecked_eq (parseStr : String → Option Uuid) (payload : Bytes) :
    parseUuidPayloadChecked parseStr payload = lift (parseUuidPayload parseStr payload) := by
  unfold parseUuidPayloadChecked parseUuidPayload
  split
  · next h =>
    have htake : ((payload.take 16).drop 0).length = 16 := by
      rw [List.drop_zero, List.length_take]
      omega
    rw [slice_eq (Nat.zero_le _) h, pure_bind, copyFromSlice_eq htake]
    rfl
  · rw [lift_bind]
    congr 1
    funext text
    rcases parseStr (trim text) with _ | uuid
    · rfl
    · rfl

lemma i32Checked_eq {payload : Bytes} {i0 i1 i2 i3 : ℕ} (h0 : i0 < payload.length)
    (h1 : i1 < payload.length) (h2 : i2 < payload.length) (h3 : i3 < payload.length) :
    i32Checked payload i0 i1 i2 i3 =
      pure (i32FromLeBytes payload[i0] payload[i1] payload[i2] payload[i3]) := by
  unfold i32Checked
  rw [index_eq h0, pure_bind, index_eq h1, pure_bind, index_eq h2, pure_bind, index_eq h3,
    pure_bind]

variable (parseStr : String → Option Uuid)

lemma parseCommandChecked_eq (op : OpcodeMatrix) (opcode : UInt16) (payload : Bytes) :
    parseCommandChecked parseStr op opcode payload =
      lift (parseCommand parseStr op opcode payload) := by
  have huuid : ∀ command : Uuid → ClientCommand,
      (do pure (command (← parseUuidPayloadChecked parseStr payload)) :
        CheckedParse ClientCommand) =
      lift (do .ok (command (← parseUuidPayload parseStr payload))) := by
    intro command
    rw [parseUuidPayloadChecked_eq, lift_bind]
    rfl
  have htext : ∀ command : String → ClientCommand,
      (do pure (command (← lift (parseTextPayload payload 160))) : CheckedParse ClientCommand) =
      lift (do .ok (command (← parseTextPayload payload 160))) := by
    intro command
    rw [lift_bind]
    rfl
  unfold parseCommandChecked parseCommand
  refine ite_eq_lift ?login (ite_eq_lift rfl (ite_eq_lift ?create (ite_eq_lift (huuid _)
    (ite_eq_lift (huuid _) (ite_eq_lift rfl (ite_eq_lift ?move (ite_eq_lift (huuid _)
    (ite_eq_lift ?castSkill (ite_eq_lift (huuid _) (ite_eq_lift ?dropItem (ite_eq_lift ?useItem
    (ite_eq_lift (huuid _) (ite_eq_lift (htext _) (ite_eq_lift ?whisper (ite_eq_lift (htext _)
    (ite_eq_lift rfl (ite_eq_lift rfl rfl)))))))))))))))))
  case login =>
    rw [parseLoginPayloadChecked_eq, lift_bind]
    rfl
  case create =>
    rw [parseCharacterCreatePayloadChecked_eq, lift_bind]
    rfl
  case whisper =>
    rw [lift_bind]
    rfl
  -- a payload that is too short fails on both sides, and a longer one is read at the same bytes
  case move =>
    rcases payload with _ | ⟨x0, _ | ⟨x1, _ | ⟨x2, _ | ⟨x3, _ | ⟨y0, _ | ⟨y1, _ | ⟨y2, _ | ⟨y3,
      _ | ⟨run, rest⟩⟩⟩⟩⟩⟩⟩⟩⟩
    iterate 9 rfl
    rw [if_neg (by simp), i32Checked_eq (by simp) (by simp) (by simp) (by simp),
      i32Checked_eq (by simp) (by simp) (by simp) (by simp), index_eq (by simp)]
    rfl
  case castSkill =>
    rcases payload with _ | ⟨s0, _ | ⟨s1, _ | ⟨s2, _ | ⟨s3, rest⟩⟩⟩⟩
    iterate 4 rfl
    rw [if_neg (by simp), i32Checked_eq (by simp) (by simp) (by simp) (by simp), pure_bind]
    split
    · next hlen =>
      rw [slice_eq (by decide) hlen, pure_bind, parseUuidPayloadChecked_eq, lift_bind, lift_map]
      rfl
    · rfl
  case dropItem =>
    rcases payload with _ | ⟨s0, _ | ⟨s1, _ | ⟨s2, _ | ⟨s3, _ | ⟨q0, _ | ⟨q1, _ | ⟨q2,
      _ | ⟨q3, rest⟩⟩⟩⟩⟩⟩⟩⟩
    iterate 8 rfl
    rw [if_neg (by simp), i32Checked_eq (by simp) (by simp) (by simp) (by simp),
      i32Checked_eq (by simp) (by simp) (by simp) (by simp)]
    rfl
  case useItem =>
    rcases payload with _ | ⟨s0, _ | ⟨s1, _ | ⟨s2, _ | ⟨s3, rest⟩⟩⟩⟩
    iterate 4 rfl
    rw [if_neg (by simp), i32Checked_eq (by simp) (by simp) (by simp) (by simp)]
    rfl

lemma translatePacketForVersionChecked_eq (packet : DecodedPacket) (sessionPhase : SessionPhase)
    (version : ProtocolVersion) :
    translatePacketForVersionChecked parseStr packet sessionPhase version =
      lift (translatePacketForVersion parseStr packet sessionPhase version) := by
  unfold translatePacketForVersionChecked translatePacketForVersion
  rw [parseCommandChecked_eq, lift_bind]
  congr 1
  funext cmd
  rcases validateClientCommand sessionPhase.asDomainState cmd with err | _
  · rfl
  · rfl

/-- **Translation never panics**: with every index, range, copy and sum of offsets checked, the
client's packets are translated as in the model, and those of the server are translated or fail. -/
theorem translation_never_panics :
    (∀ parseStr packet sessionPhase version,
      (translatePacketForVersionChecked parseStr packet sessionPhase version).run =
        some (translatePacketForVersion parseStr packet sessionPhase version)) ∧
    ∀ packet version, ∃ r, (translateServerPacketForVersion packet version).run = some r := by
  constructor
  · intro parseStr packet sessionPhase version
    rw [translatePacketForVersionChecked_eq, run_lift]
  · intro packet version
    obtain ⟨r, hrun, -⟩ := returns_parseMessage (ServerOpcodeMatrix.forVersion version)
      packet.header.opcode packet.payload
    exact ⟨r, hrun⟩

/-! ### What is accepted -/

/-- The texts of a command, each with its limit in bytes. -/
def commandTexts : ClientCommand → List (ℕ × String)
  | .login payload =>
    [(32, payload.username), (128, payload.password), (24, payload.clientVersion)]
  | .characterCreate payload => [(16, payload.name)]
  | .chat message | .guildChat message => [(160, message)]
  | .whisper toCharacter message => [(32, toCharacter), (160, message)]
  | _ => []

def CleanCommand (cmd : ClientCommand) : Prop := ∀ t ∈ commandTexts cmd, Clean t.1 t.2

variable {payload : Bytes} {cmd : ClientCommand}

lemma cleanCommand_of_texts_nil (h : commandTexts cmd = []) : CleanCommand cmd := by
  intro t ht
  rw [h] at ht
  cases ht

lemma returns_clean (input : Bytes) (maxLen : ℕ) :
    Returns (lift (bytesToCleanString input maxLen)) (Clean maxLen) :=
  returns_lift fun _ => clean_bytesToCleanString

lemma returns_parseLoginPayloadChecked :
    Returns (parseLoginPayloadChecked payload) fun p => CleanCommand (.login p) := by
  refine .ite (fun _ => returns_throw _) fun hlen => ?_
  refine (returns_index (by omega)).bind fun part0 _ => ?_
  refine (returns_clean part0 32).bind fun username husername => ?_
  refine (returns_index (by omega)).bind fun part1 _ => ?_
  refine (returns_clean part1 128).bind fun password hpassword => ?_
  refine (returns_index (by omega)).bind fun part2 _ => ?_
  refine (returns_clean part2 24).bind fun clientVersion hversion => returns_pure ?_
  intro t ht
  rcases ht with _ | ⟨_, _ | ⟨_, _ | ⟨_, ht⟩⟩⟩
  · exact husername
  · exact hpassword
  · exact hversion
  · cases ht

lemma returns_parseCharacterCreatePayloadChecked :
    Returns (parseCharacterCreatePayloadChecked payload) fun p =>
      CleanCommand (.characterCreate p) := by
  refine .ite (fun _ => returns_throw _) fun hlen => ?_
  refine (returns_index (by omega)).bind fun part0 _ => ?_
  refine (returns_clean part0 16).bind fun name hname => returns_pure ?_
  intro t ht
  rw [List.mem_singleton.mp ht]
  exact hname

lemma returns_whisper :
    Returns (do
      let (toCharacter, message) ← lift (parseWhisperPayload payload)
      pure (.whisper toCharacter message)) CleanCommand := by
  have hpair : Returns (lift (parseWhisperPayload payload)) fun p =>
      Clean 32 p.1 ∧ Clean 160 p.2 := by
    refine returns_lift fun p h => ?_
    unfold parseWhisperPayload at h
    split at h
    · cases h
    · obtain ⟨toCharacter, hto, h⟩ := except_bind_eq_ok_iff.mp h
      obtain ⟨message, hmessage, h⟩ := except_bind_eq_ok_iff.mp h
      cases h
      exact ⟨clean_bytesToCleanString hto, clean_bytesToCleanString hmessage⟩
  refine hpair.bind fun p hp => returns_pure fun t ht => ?_
  rcases List.mem_pair.mp ht with rfl | rfl
  · exact hp.1
  · exact hp.2

lemma returns_i32Checked {i0 i1 i2 i3 : ℕ} (h0 : i0 < payload.length) (h1 : i1 < payload.length)
    (h2 : i2 < payload.length) (h3 : i3 < payload.length) :
    Returns (i32Checked payload i0 i1 i2 i3) fun _ => True := by
  rw [i32Checked_eq h0 h1 h2 h3]
  exact returns_pure trivial

lemma returns_uuid : Returns (parseUuidPayloadChecked parseStr payload) fun _ => True := by
  rw [parseUuidPayloadChecked_eq]
  exact returns_lift fun _ _ => trivial

lemma returns_target :
    Returns (some <$> parseUuidPayloadChecked parseStr payload) fun _ => True :=
  (returns_uuid parseStr).map fun _ _ => trivial

/-- A command that is an identifier. -/
lemma returns_uuidCommand {command : Uuid → ClientCommand} (h : ∀ u, commandTexts (command u) = []) :
    Returns (do pure (command (← parseUuidPayloadChecked parseStr payload))) CleanCommand :=
  (returns_uuid parseStr).bind fun u _ => returns_pure (cleanCommand_of_texts_nil (h u))

/-- A command that is a message. -/
lemma returns_textCommand {command : String → ClientCommand}
    (h : ∀ text, commandTexts (command text) = [(160, text)]) :
    Returns (do pure (command (← lift (parseTextPayload payload 160)))) CleanCommand := by
  refine (returns_clean payload 160).bind fun text htext => returns_pure fun t ht => ?_
  rw [h text] at ht
  rw [List.mem_singleton.mp ht]
  exact htext

lemma returns_parseCommandChecked (op : OpcodeMatrix) (opcode : UInt16) (payload : Bytes) :
    Returns (parseCommandChecked parseStr op opcode payload) CleanCommand := by
  have hnil : ∀ {cmd : ClientCommand}, commandTexts cmd = [] →
      Returns (pure cmd : CheckedParse ClientCommand) CleanCommand := fun h =>
    returns_pure (cleanCommand_of_texts_nil h)
  unfold parseCommandChecked
  refine .ite (fun _ => returns_parseLoginPayloadChecked.bind fun _ => returns_pure) fun _ =>
    .ite (fun _ => hnil rfl) fun _ =>
    .ite (fun _ => returns_parseCharacterCreatePayloadChecked.bind fun _ => returns_pure) fun _ =>
    .ite (fun _ => returns_uuidCommand parseStr fun _ => rfl) fun _ =>
    .ite (fun _ => returns_uuidCommand parseStr fun _ => rfl) fun _ =>
    .ite (fun _ => hnil rfl) fun _ =>
    .ite (fun _ => ?move) fun _ =>
    .ite (fun _ => returns_uuidCommand parseStr fun _ => rfl) fun _ =>
    .ite (fun _ => ?castSkill) fun _ =>
    .ite (fun _ => returns_uuidCommand parseStr fun _ => rfl) fun _ =>
    .ite (fun _ => ?dropItem) fun _ =>
    .ite (fun _ => ?useItem) fun _ =>
    .ite (fun _ => returns_uuidCommand parseStr fun _ => rfl) fun _ =>
    .ite (fun _ => returns_textCommand fun _ => rfl) fun _ =>
    .ite (fun _ => returns_whisper) fun _ =>
    .ite (fun _ => returns_textCommand fun _ => rfl) fun _ =>
    .ite (fun _ => hnil rfl) fun _ =>
    .ite (fun _ => hnil rfl) fun _ => returns_throw _
  case move =>
    refine .ite (fun _ => returns_throw _) fun hlen => ?_
    refine (returns_i32Checked (by omega) (by omega) (by omega) (by omega)).bind fun x _ => ?_
    refine (returns_i32Checked (by omega) (by omega) (by omega) (by omega)).bind fun y _ => ?_
    exact (returns_index (by omega)).bind fun run _ => hnil rfl
  case castSkill =>
    refine .ite (fun _ => returns_throw _) fun hlen => ?_
    refine (returns_i32Checked (by omega) (by omega) (by omega) (by omega)).bind fun skill _ => ?_
    dsimp only
    refine .ite (fun hle => ?_) fun _ => ?_
    · refine (returns_slice (by decide) hle).bind fun bytes _ => ?_
      refine (returns_target parseStr).bind fun target _ => ?_
      exact hnil rfl
    · exact hnil rfl
  case dropItem =>
    refine .ite (fun _ => returns_throw _) fun hlen => ?_
    refine (returns_i32Checked (by omega) (by omega) (by omega) (by omega)).bind fun slot _ => ?_
    refine (returns_i32Checked (by omega) (by omega) (by omega) (by omega)).bind fun count _ => ?_
    exact hnil rfl
  case useItem =>
    refine .ite (fun _ => returns_throw _) fun hlen => ?_
    refine (returns_i32Checked (by omega) (by omega) (by omega) (by omega)).bind fun slot _ => ?_
    exact hnil rfl

lemma clean_parseCommand {op : OpcodeMatrix} {opcode : UInt16}
    (h : parseCommand parseStr op opcode payload = .ok cmd) : CleanCommand cmd := by
  have hreturns := returns_parseCommandChecked parseStr op opcode payload
  rw [parseCommandChecked_eq] at hreturns
  exact hreturns.of_run (by rw [run_lift, h])

/-- **What is accepted is well formed**: a command is valid in the state of its phase, and the
texts of a command or a message are clean, each within its limit. -/
theorem accepted_wellFormed :
    (∀ parseStr packet sessionPhase version cmd,
      translatePacketForVersion parseStr packet sessionPhase version = .ok cmd →
        validateClientCommand sessionPhase.asDomainState cmd = .ok () ∧
          ∀ t ∈ commandTexts cmd, Clean t.1 t.2) ∧
    ∀ packet version msg, (translateServerPacketForVersion packet version).run = some (.ok msg) →
      ∀ t ∈ msg.texts, Clean t.1 t.2 := by
  constructor
  · intro parseStr packet sessionPhase version cmd h
    obtain ⟨cmd', hparse, h⟩ := except_bind_eq_ok_iff.mp h
    rcases hvalid : validateClientCommand sessionPhase.asDomainState cmd' with err | ⟨⟩
    · rw [hvalid] at h
      cases h
    · rw [hvalid] at h
      cases h
      exact ⟨hvalid, clean_parseCommand parseStr hparse⟩
  · intro packet version msg h
    exact (returns_parseMessage (ServerOpcodeMatrix.forVersion version) packet.header.opcode
      packet.payload).of_run h

/-- A chat with a blank in front and bytes behind a zero, and the broadcast of a message. -/
theorem accepted_wellFormed_hi :
    (∀ t ∈ commandTexts (.chat "Hi"), Clean t.1 t.2) ∧
      ∀ t ∈ (ServerMessage.chatBroadcast "Ann" "Hi").texts, Clean t.1 t.2 :=
  ⟨(accepted_wellFormed.1 (fun _ => none) ⟨⟨7, 0x0200⟩, [32, 72, 105, 0, 7]⟩ .inWorld .legacyV382
      (.chat "Hi") (by decide)).2,
    accepted_wellFormed.2 ⟨⟨8, 0x8200⟩, [65, 110, 110, 0, 72, 105]⟩ .modernV400
      (.chatBroadcast "Ann" "Hi") (by decide)⟩

end HelbreathBackend.Translate
