import HelbreathBackend.CleanText
import HelbreathBackend.Wire
import HelbreathBackend.Lib.Panics

/-!
From packets of the server to messages.

The payloads are read at offsets, each after a check of the length, and the fields at the end of
some may be missing. An index, a range and the sum of two offsets are operations that may panic;
every parser returns all the same, and the texts of its message are clean.
-/

namespace HelbreathBackend.ServerTranslate

open HelbreathBackend.Lib HelbreathBackend.Lib.MayPanic
open HelbreathBackend.Domain HelbreathBackend.Application HelbreathBackend.Frame
open HelbreathBackend.Translate
open HelbreathBackend.Wire (usizeMax)

structure ServerOpcodeMatrix where
  loginResult : UInt16
  characterListResult : UInt16
  characterCreateResult : UInt16
  characterDeleteResult : UInt16
  characterSelectResult : UInt16
  enterWorldResult : UInt16
  moveResult : UInt16
  attackResult : UInt16
  castSkillResult : UInt16
  pickupItemResult : UInt16
  dropItemResult : UInt16
  useItemResult : UInt16
  npcInteractionResult : UInt16
  chatBroadcast : UInt16
  whisperBroadcast : UInt16
  guildChatBroadcast : UInt16
  heartbeatAck : UInt16
  logoutAck : UInt16
  error : UInt16
  deriving DecidableEq

namespace ServerOpcodeMatrix

def legacyV382 : ServerOpcodeMatrix where
  loginResult := 0x8001
  characterListResult := 0x8002
  characterCreateResult := 0x8003
  characterSelectResult := 0x8004
  enterWorldResult := 0x8005
  characterDeleteResult := 0x8006
  moveResult := 0x8100
  attackResult := 0x8101
  castSkillResult := 0x8102
  pickupItemResult := 0x8103
  dropItemResult := 0x8104
  useItemResult := 0x8105
  npcInteractionResult := 0x8106
  chatBroadcast := 0x8200
  whisperBroadcast := 0x8201
  guildChatBroadcast := 0x8202
  heartbeatAck := 0x82FE
  logoutAck := 0x82FF
  error := 0x8FFF

def modernV400 : ServerOpcodeMatrix := legacyV382

def forVersion : ProtocolVersion → ServerOpcodeMatrix
  | .legacyV382 => legacyV382
  | .modernV400 => modernV400

end ServerOpcodeMatrix

inductive WireErrorCode
  | ok
  | invalidCredentials
  | sessionExpired
  | characterNotFound
  | inventoryFull
  | targetNotFound
  | permissionDenied
  | rateLimited
  | invalidPayload
  | invalidSessionState
  | internalServerError
  | unknown
  deriving DecidableEq

def WireErrorCode.fromU16 (raw : UInt16) : WireErrorCode :=
  match raw.toNat with
  | 0 => .ok
  | 1 => .invalidCredentials
  | 2 => .sessionExpired
  | 3 => .characterNotFound
  | 4 => .inventoryFull
  | 5 => .targetNotFound
  | 6 => .permissionDenied
  | 7 => .rateLimited
  | 8 => .invalidPayload
  | 9 => .invalidSessionState
  | 500 => .internalServerError
  | _ => .unknown

def parseWireErrorCode (raw : UInt16) : WireErrorCode := .fromU16 raw

inductive ServerMessage
  | loginResult (accepted : Bool) (code : WireErrorCode) (message : Option String)
  | characterListResult (count : UInt16)
  | characterCreateResult (code : WireErrorCode) (characterId : Option Uuid)
  | characterDeleteResult (code : WireErrorCode) (characterId : Option Uuid)
  | characterSelectResult (code : WireErrorCode) (characterId : Option Uuid)
      (mapId x y : Option Int32)
  | enterWorldResult (code : WireErrorCode) (mapId x y : Option Int32)
  | moveResult (x y : Int32)
  | attackResult (targetId : Uuid) (damage : Int32) (defeated : Bool)
  | castSkillResult (skillId : Int32) (targetId : Option Uuid) (ok : Bool)
  | pickupItemResult (entityId : Uuid) (ok : Bool)
  | dropItemResult (slot quantity : Int32) (ok : Bool)
  | useItemResult (slot : Int32) (ok : Bool)
  | npcInteractionResult (npcId : Uuid) (payload : Option String)
  | chatBroadcast (sender message : String)
  | whisperBroadcast (sender message : String)
  | guildChatBroadcast (sender message : String)
  | heartbeatAck
  | logoutAck
  | error (code : WireErrorCode) (message : Option String)
  deriving DecidableEq

inductive ServerTranslateError
  | unknownOpcode (opcode : UInt16)
  | invalidPayload (reason : String)
  deriving DecidableEq

abbrev ServerParse := MayPanic ServerTranslateError

def invalid {α : Type} (reason : String) : ServerParse α := throw (.invalidPayload reason)

/-! ### Fields at an offset -/

def parseU16At (payload : Bytes) (offset : ℕ) (err : String) : ServerParse UInt16 := do
  let stop ← add usizeMax offset 2
  if payload.length < stop then invalid err
  else do
    let b0 ← index payload offset
    let b1 ← index payload (← add usizeMax offset 1)
    pure (u16FromLeBytes b0 b1)

def parseI32At (payload : Bytes) (offset : ℕ) (err : String) : ServerParse Int32 := do
  let stop ← add usizeMax offset 4
  if payload.length < stop then invalid err
  else do
    let b0 ← index payload offset
    let b1 ← index payload (← add usizeMax offset 1)
    let b2 ← index payload (← add usizeMax offset 2)
    let b3 ← index payload (← add usizeMax offset 3)
    pure (i32FromLeBytes b0 b1 b2 b3)

def parseUuidAt (payload : Bytes) (offset : ℕ) (err : String) : ServerParse Uuid := do
  let stop ← add usizeMax offset 16
  if payload.length < stop then invalid err
  else do
    let raw ← copyFromSlice 16 (← slice payload offset (← add usizeMax offset 16))
    pure ⟨raw.1, raw.2⟩

def parseBoolAt (payload : Bytes) (offset : ℕ) (err : String) : ServerParse Bool :=
  if payload.length ≤ offset then invalid err
  else do pure ((← index payload offset) != 0)

def bytesToOptionalServerString (input : Bytes) (maxLen : ℕ) :
    Except ServerTranslateError (Option String) :=
  let zeroTerminated := (input.splitOnP (· == 0)).head?.getD input
  match fromUtf8 zeroTerminated with
  | none => .error (.invalidPayload "server payload is not utf8")
  | some raw =>
    let text := trim raw
    if maxLen < text.utf8ByteSize then .error (.invalidPayload "server text payload too long")
    else if text = "" then .ok none
    else .ok (some text)

/-- A field at the end of a payload, read if the payload has `len` bytes. -/
def trailing {α : Type} (payload : Bytes) (len : ℕ) (field : ServerParse α) :
    ServerParse (Option α) :=
  if len ≤ payload.length then some <$> field else pure none

/-- A text at the end of a payload, behind the first `start` bytes. -/
def trailingText (payload : Bytes) (start maxLen : ℕ) : ServerParse (Option String) :=
  if start < payload.length then do
    lift (bytesToOptionalServerString (← slice payload start payload.length) maxLen)
  else pure none

/-! ### Payloads -/

def parseLoginResult (payload : Bytes) : ServerParse ServerMessage :=
  if payload.length < 3 then invalid "login_result requires accepted + code"
  else do
    let accepted ← index payload 0
    let lo ← index payload 1
    let hi ← index payload 2
    let message ← trailingText payload 3 160
    pure (.loginResult (accepted != 0) (parseWireErrorCode (u16FromLeBytes lo hi)) message)

/-- The code and the character of the three results about a character. -/
def parseCodeAndCharacter (codeErr idErr : String) (payload : Bytes) :
    ServerParse (WireErrorCode × Option Uuid) := do
  let code ← parseU16At payload 0 codeErr
  let characterId ← trailing payload 18 (parseUuidAt payload 2 idErr)
  pure (parseWireErrorCode code, characterId)

def parseCharacterCreateResult (payload : Bytes) : ServerParse ServerMessage := do
  let (code, characterId) ← parseCodeAndCharacter "character_create_result requires code"
    "character_create_result invalid character_id" payload
  pure (.characterCreateResult code characterId)

def parseCharacterDeleteResult (payload : Bytes) : ServerParse ServerMessage := do
  let (code, characterId) ← parseCodeAndCharacter "character_delete_result requires code"
    "character_delete_result invalid character_id" payload
  pure (.characterDeleteResult code characterId)

def parseCharacterSelectResult (payload : Bytes) : ServerParse ServerMessage := do
  let (code, characterId) ← parseCodeAndCharacter "character_select_result requires code"
    "character_select_result invalid character_id" payload
  let mapId ← trailing payload 22
    (parseI32At payload 18 "character_select_result invalid map_id")
  let x ← trailing payload 26 (parseI32At payload 22 "character_select_result invalid x")
  let y ← trailing payload 30 (parseI32At payload 26 "character_select_result invalid y")
  pure (.characterSelectResult code characterId mapId x y)

def parseEnterWorldResult (payload : Bytes) : ServerParse ServerMessage := do
  let code ← parseU16At payload 0 "enter_world_result requires code"
  let mapId ← trailing payload 6 (parseI32At payload 2 "enter_world_result invalid map_id")
  let x ← trailing payload 10 (parseI32At payload 6 "enter_world_result invalid x")
  let y ← trailing payload 14 (parseI32At payload 10 "enter_world_result invalid y")
  pure (.enterWorldResult (parseWireErrorCode code) mapId x y)

def parseAttackResult (payload : Bytes) : ServerParse ServerMessage := do
  let targetId ← parseUuidAt payload 0 "attack_result requires target_id"
  let damage ← parseI32At payload 16 "attack_result requires damage"
  let defeated ← parseBoolAt payload 20 "attack_result requires defeated flag"
  pure (.attackResult targetId damage defeated)

def parseCastSkillResult (payload : Bytes) : ServerParse ServerMessage := do
  let skillId ← parseI32At payload 0 "cast_skill_result requires skill_id"
  let ok ← parseBoolAt payload 4 "cast_skill_result requires ok flag"
  let targetId ← trailing payload 21 (parseUuidAt payload 5 "cast_skill_result invalid target_id")
  pure (.castSkillResult skillId targetId ok)

def parsePickupItemResult (payload : Bytes) : ServerParse ServerMessage := do
  let entityId ← parseUuidAt payload 0 "pickup_item_result requires entity_id"
  let ok ← parseBoolAt payload 16 "pickup_item_result requires ok flag"
  pure (.pickupItemResult entityId ok)

def parseDropItemResult (payload : Bytes) : ServerParse ServerMessage := do
  let slot ← parseI32At payload 0 "drop_item_result requires slot"
  let quantity ← parseI32At payload 4 "drop_item_result requires quantity"
  let ok ← parseBoolAt payload 8 "drop_item_result requires ok flag"
  pure (.dropItemResult slot quantity ok)

def parseUseItemResult (payload : Bytes) : ServerParse ServerMessage := do
  let slot ← parseI32At payload 0 "use_item_result requires slot"
  let ok ← parseBoolAt payload 4 "use_item_result requires ok flag"
  pure (.useItemResult slot ok)

def parseNpcInteractionResult (payload : Bytes) : ServerParse ServerMessage := do
  let npcId ← parseUuidAt payload 0 "npc_interaction_result requires npc_id"
  let text ← trailingText payload 16 256
  pure (.npcInteractionResult npcId text)

/-- `ok_or`, on a text that is left. -/
def textOr (err : String) : Option String → Except ServerTranslateError String
  | some text => .ok text
  | none => .error (.invalidPayload err)

def parseSenderAndMessage (payload : Bytes) : Except ServerTranslateError (String × String) :=
  match splitAtZero payload with
  | (_, none) => .error (.invalidPayload "message missing")
  | (senderRaw, some messageRaw) => do
    let sender ← textOr "sender empty" (← bytesToOptionalServerString senderRaw 32)
    let message ← textOr "message empty" (← bytesToOptionalServerString messageRaw 160)
    .ok (sender, message)

def parseErrorResult (payload : Bytes) : ServerParse ServerMessage := do
  let code ← parseU16At payload 0 "error requires code"
  let message ← trailingText payload 2 160
  pure (.error (parseWireErrorCode code) message)

/-! ### Packets -/

/-- The match on the opcode. -/
def parseMessage (op : ServerOpcodeMatrix) (opcode : UInt16) (payload : Bytes) :
    ServerParse ServerMessage :=
  if opcode = op.loginResult then parseLoginResult payload
  else if opcode = op.characterListResult then do
    pure (.characterListResult (← parseU16At payload 0 "character_list_result requires count"))
  else if opcode = op.characterCreateResult then parseCharacterCreateResult payload
  else if opcode = op.characterDeleteResult then parseCharacterDeleteResult payload
  else if opcode = op.characterSelectResult then parseCharacterSelectResult payload
  else if opcode = op.enterWorldResult then parseEnterWorldResult payload
  else if opcode = op.moveResult then do
    let x ← parseI32At payload 0 "move_result requires x,y"
    let y ← parseI32At payload 4 "move_result requires x,y"
    pure (.moveResult x y)
  else if opcode = op.attackResult then parseAttackResult payload
  else if opcode = op.castSkillResult then parseCastSkillResult payload
  else if opcode = op.pickupItemResult then parsePickupItemResult payload
  else if opcode = op.dropItemResult then parseDropItemResult payload
  else if opcode = op.useItemResult then parseUseItemResult payload
  else if opcode = op.npcInteractionResult then parseNpcInteractionResult payload
  else if opcode = op.chatBroadcast then do
    let (sender, message) ← lift (parseSenderAndMessage payload)
    pure (.chatBroadcast sender message)
  else if opcode = op.whisperBroadcast then do
    let (sender, message) ← lift (parseSenderAndMessage payload)
    pure (.whisperBroadcast sender message)
  else if opcode = op.guildChatBroadcast then do
    let (sender, message) ← lift (parseSenderAndMessage payload)
    pure (.guildChatBroadcast sender message)
  else if opcode = op.heartbeatAck then pure .heartbeatAck
  else if opcode = op.logoutAck then pure .logoutAck
  else if opcode = op.error then parseErrorResult payload
  else throw (.unknownOpcode opcode)

def translateServerPacketForVersion (packet : DecodedPacket) (version : ProtocolVersion) :
    ServerParse ServerMessage :=
  parseMessage (ServerOpcodeMatrix.forVersion version) packet.header.opcode packet.payload

/-! ### Fields return -/

variable {payload : Bytes} {offset start maxLen : ℕ} {α : Type}

lemma returns_parseU16At (h : offset + 2 ≤ usizeMax) (err : String) :
    Returns (parseU16At payload offset err) fun _ => True := by
  unfold parseU16At
  refine (returns_add h).bind fun stop hstop => .ite (fun _ => returns_throw _) fun hlen => ?_
  refine (returns_index (by omega)).bind fun b0 _ => ?_
  refine (returns_add (by omega)).bind fun i hi => ?_
  exact (returns_index (by omega)).bind fun b1 _ => returns_pure trivial

lemma returns_parseI32At (h : offset + 4 ≤ usizeMax) (err : String) :
    Returns (parseI32At payload offset err) fun _ => True := by
  unfold parseI32At
  refine (returns_add h).bind fun stop hstop => .ite (fun _ => returns_throw _) fun hlen => ?_
  refine (returns_index (by omega)).bind fun b0 _ => ?_
  refine (returns_add (by omega)).bind fun i hi => ?_
  refine (returns_index (by omega)).bind fun b1 _ => ?_
  refine (returns_add (by omega)).bind fun j hj => ?_
  refine (returns_index (by omega)).bind fun b2 _ => ?_
  refine (returns_add (by omega)).bind fun k hk => ?_
  exact (returns_index (by omega)).bind fun b3 _ => returns_pure trivial

lemma returns_parseUuidAt (h : offset + 16 ≤ usizeMax) (err : String) :
    Returns (parseUuidAt payload offset err) fun _ => True := by
  unfold parseUuidAt
  refine (returns_add h).bind fun stop hstop => .ite (fun _ => returns_throw _) fun hlen => ?_
  refine (returns_add h).bind fun stop' hstop' => ?_
  refine (returns_slice (by omega) (by omega)).bind fun raw hraw => ?_
  exact (returns_copyFromSlice (by omega)).bind fun _ _ => returns_pure trivial

lemma returns_parseBoolAt (err : String) :
    Returns (parseBoolAt payload offset err) fun _ => True := by
  refine .ite (fun _ => returns_throw _) fun hlen => ?_
  exact (returns_index (by omega)).bind fun _ _ => returns_pure trivial

lemma Returns.trailing {field : ServerParse α} (len : ℕ) (h : Returns field fun _ => True) :
    Returns (trailing payload len field) fun _ => True :=
  .ite (fun _ => h.map fun _ _ => True.intro) fun _ => returns_pure trivial

/-- A text that is there is clean. -/
lemma clean_bytesToOptionalServerString {input : Bytes} {text : Option String}
    (h : bytesToOptionalServerString input maxLen = .ok text) : ∀ t ∈ text, Clean maxLen t := by
  unfold bytesToOptionalServerString at h
  dsimp only at h
  split at h
  · cases h
  · next raw hraw =>
    split at h
    · cases h
    · next hfits =>
      split at h
      · cases h
        exact fun t ht => absurd ht (Option.not_mem_none t)
      · next hempty =>
        cases h
        rintro _ ⟨⟩
        exact clean_trim hraw hempty (by omega)

lemma returns_trailingText :
    Returns (trailingText payload start maxLen) fun text => ∀ t ∈ text, Clean maxLen t := by
  refine .ite (fun hlen => ?_) fun _ => returns_pure fun t ht => absurd ht (Option.not_mem_none t)
  refine (returns_slice (by omega) (Nat.le_refl _)).bind fun input _ => ?_
  exact returns_lift fun _ => clean_bytesToOptionalServerString

lemma textOr_eq_ok {err text : String} {o : Option String} (h : textOr err o = .ok text) :
    o = some text := by
  cases o with
  | none => cases h
  | some t => cases h; rfl

lemma clean_parseSenderAndMessage {sender message : String}
    (h : parseSenderAndMessage payload = .ok (sender, message)) :
    Clean 32 sender ∧ Clean 160 message := by
  unfold parseSenderAndMessage at h
  split at h
  · cases h
  · next senderRaw messageRaw hsplit =>
    obtain ⟨o, ho, h⟩ := except_bind_eq_ok_iff.mp h
    obtain ⟨s, hs, h⟩ := except_bind_eq_ok_iff.mp h
    obtain ⟨o', ho', h⟩ := except_bind_eq_ok_iff.mp h
    obtain ⟨m, hm, h⟩ := except_bind_eq_ok_iff.mp h
    cases h
    exact ⟨clean_bytesToOptionalServerString ho _ (textOr_eq_ok hs),
      clean_bytesToOptionalServerString ho' _ (textOr_eq_ok hm)⟩

/-! ### Messages return, and are well formed -/

/-- The texts of a message, each with its limit in bytes. -/
def ServerMessage.texts : ServerMessage → List (ℕ × String)
  | .loginResult _ _ message | .error _ message => message.toList.map (160, ·)
  | .npcInteractionResult _ text => text.toList.map (256, ·)
  | .chatBroadcast sender message | .whisperBroadcast sender message
  | .guildChatBroadcast sender message => [(32, sender), (160, message)]
  | _ => []

def ServerMessage.WellFormed (msg : ServerMessage) : Prop := ∀ t ∈ msg.texts, Clean t.1 t.2

variable {msg : ServerMessage}

lemma wellFormed_of_texts_nil (h : msg.texts = []) : msg.WellFormed := by
  intro t ht
  rw [h] at ht
  cases ht

lemma wellFormed_of_texts_optional {text : Option String} (h : msg.texts = text.toList.map (maxLen, ·))
    (htext : ∀ t ∈ text, Clean maxLen t) : msg.WellFormed := by
  intro t ht
  rw [h, List.mem_map] at ht
  obtain ⟨t, hmem, rfl⟩ := ht
  exact htext t (Option.mem_toList.mp hmem)

lemma wellFormed_of_texts_pair {sender message : String}
    (h : msg.texts = [(32, sender), (160, message)])
    (hclean : Clean 32 sender ∧ Clean 160 message) : msg.WellFormed := by
  intro t ht
  rw [h] at ht
  rcases List.mem_pair.mp ht with rfl | rfl
  · exact hclean.1
  · exact hclean.2

lemma returns_parseLoginResult :
    Returns (parseLoginResult payload) ServerMessage.WellFormed := by
  refine .ite (fun _ => returns_throw _) fun hlen => ?_
  refine (returns_index (by omega)).bind fun accepted _ => ?_
  refine (returns_index (by omega)).bind fun lo _ => ?_
  refine (returns_index (by omega)).bind fun hi _ => ?_
  exact returns_trailingText.bind fun text ht =>
    returns_pure (wellFormed_of_texts_optional rfl ht)

lemma returns_parseCodeAndCharacter (codeErr idErr : String) :
    Returns (parseCodeAndCharacter codeErr idErr payload) fun _ => True := by
  refine (returns_parseU16At (by decide) _).bind fun code _ => ?_
  exact (Returns.trailing 18 (returns_parseUuidAt (by decide) _)).bind fun _ _ =>
    returns_pure trivial

lemma returns_parseCharacterCreateResult :
    Returns (parseCharacterCreateResult payload) ServerMessage.WellFormed :=
  (returns_parseCodeAndCharacter _ _).bind fun _ _ => returns_pure (wellFormed_of_texts_nil rfl)

lemma returns_parseCharacterDeleteResult :
    Returns (parseCharacterDeleteResult payload) ServerMessage.WellFormed :=
  (returns_parseCodeAndCharacter _ _).bind fun _ _ => returns_pure (wellFormed_of_texts_nil rfl)

lemma returns_parseCharacterSelectResult :
    Returns (parseCharacterSelectResult payload) ServerMessage.WellFormed := by
  refine (returns_parseCodeAndCharacter _ _).bind fun _ _ => ?_
  refine (Returns.trailing 22 (returns_parseI32At (by decide) _)).bind fun mapId _ => ?_
  refine (Returns.trailing 26 (returns_parseI32At (by decide) _)).bind fun x _ => ?_
  refine (Returns.trailing 30 (returns_parseI32At (by decide) _)).bind fun y _ => ?_
  exact returns_pure (wellFormed_of_texts_nil rfl)

lemma returns_parseEnterWorldResult :
    Returns (parseEnterWorldResult payload) ServerMessage.WellFormed := by
  refine (returns_parseU16At (by decide) _).bind fun code _ => ?_
  refine (Returns.trailing 6 (returns_parseI32At (by decide) _)).bind fun mapId _ => ?_
  refine (Returns.trailing 10 (returns_parseI32At (by decide) _)).bind fun x _ => ?_
  refine (Returns.trailing 14 (returns_parseI32At (by decide) _)).bind fun y _ => ?_
  exact returns_pure (wellFormed_of_texts_nil rfl)

lemma returns_parseAttackResult :
    Returns (parseAttackResult payload) ServerMessage.WellFormed := by
  refine (returns_parseUuidAt (by decide) _).bind fun targetId _ => ?_
  refine (returns_parseI32At (by decide) _).bind fun damage _ => ?_
  exact (returns_parseBoolAt _).bind fun _ _ => returns_pure (wellFormed_of_texts_nil rfl)

lemma returns_parseCastSkillResult :
    Returns (parseCastSkillResult payload) ServerMessage.WellFormed := by
  refine (returns_parseI32At (by decide) _).bind fun skillId _ => ?_
  refine (returns_parseBoolAt _).bind fun ok _ => ?_
  exact (Returns.trailing 21 (returns_parseUuidAt (by decide) _)).bind fun _ _ =>
    returns_pure (wellFormed_of_texts_nil rfl)

lemma returns_parsePickupItemResult :
    Returns (parsePickupItemResult payload) ServerMessage.WellFormed := by
  refine (returns_parseUuidAt (by decide) _).bind fun entityId _ => ?_
  exact (returns_parseBoolAt _).bind fun _ _ => returns_pure (wellFormed_of_texts_nil rfl)

lemma returns_parseDropItemResult :
    Returns (parseDropItemResult payload) ServerMessage.WellFormed := by
  refine (returns_parseI32At (by decide) _).bind fun slot _ => ?_
  refine (returns_parseI32At (by decide) _).bind fun quantity _ => ?_
  exact (returns_parseBoolAt _).bind fun _ _ => returns_pure (wellFormed_of_texts_nil rfl)

lemma returns_parseUseItemResult :
    Returns (parseUseItemResult payload) ServerMessage.WellFormed := by
  refine (returns_parseI32At (by decide) _).bind fun slot _ => ?_
  exact (returns_parseBoolAt _).bind fun _ _ => returns_pure (wellFormed_of_texts_nil rfl)

lemma returns_parseNpcInteractionResult :
    Returns (parseNpcInteractionResult payload) ServerMessage.WellFormed := by
  refine (returns_parseUuidAt (by decide) _).bind fun npcId _ => ?_
  exact returns_trailingText.bind fun text ht =>
    returns_pure (wellFormed_of_texts_optional rfl ht)

lemma returns_parseErrorResult :
    Returns (parseErrorResult payload) ServerMessage.WellFormed := by
  refine (returns_parseU16At (by decide) _).bind fun code _ => ?_
  exact returns_trailingText.bind fun text ht =>
    returns_pure (wellFormed_of_texts_optional rfl ht)

/-- The three broadcasts differ in their constructor alone. -/
lemma returns_broadcast {broadcast : String → String → ServerMessage}
    (h : ∀ sender message, (broadcast sender message).texts = [(32, sender), (160, message)]) :
    Returns (do
      let (sender, message) ← lift (parseSenderAndMessage payload)
      pure (broadcast sender message)) ServerMessage.WellFormed := by
  have hpair : Returns (lift (parseSenderAndMessage payload)) fun p =>
      Clean 32 p.1 ∧ Clean 160 p.2 := returns_lift fun _ => clean_parseSenderAndMessage
  exact hpair.bind fun p hp => returns_pure (wellFormed_of_texts_pair (h p.1 p.2) hp)

/-- **Every packet of the server** is read without a panic, and what it is read as is well
formed. -/
lemma returns_parseMessage (op : ServerOpcodeMatrix) (opcode : UInt16) (payload : Bytes) :
    Returns (parseMessage op opcode payload) ServerMessage.WellFormed := by
  unfold parseMessage
  refine .ite (fun _ => returns_parseLoginResult) fun _ => ?_
  refine .ite (fun _ => (returns_parseU16At (by decide) _).bind fun _ _ =>
    returns_pure (wellFormed_of_texts_nil rfl)) fun _ => ?_
  refine .ite (fun _ => returns_parseCharacterCreateResult) fun _ => ?_
  refine .ite (fun _ => returns_parseCharacterDeleteResult) fun _ => ?_
  refine .ite (fun _ => returns_parseCharacterSelectResult) fun _ => ?_
  refine .ite (fun _ => returns_parseEnterWorldResult) fun _ => ?_
  refine .ite (fun _ => (returns_parseI32At (by decide) _).bind fun _ _ =>
    (returns_parseI32At (by decide) _).bind fun _ _ =>
      returns_pure (wellFormed_of_texts_nil rfl)) fun _ => ?_
  refine .ite (fun _ => returns_parseAttackResult) fun _ => ?_
  refine .ite (fun _ => returns_parseCastSkillResult) fun _ => ?_
  refine .ite (fun _ => returns_parsePickupItemResult) fun _ => ?_
  refine .ite (fun _ => returns_parseDropItemResult) fun _ => ?_
  refine .ite (fun _ => returns_parseUseItemResult) fun _ => ?_
  refine .ite (fun _ => returns_parseNpcInteractionResult) fun _ => ?_
  refine .ite (fun _ => returns_broadcast fun _ _ => rfl) fun _ => ?_
  refine .ite (fun _ => returns_broadcast fun _ _ => rfl) fun _ => ?_
  refine .ite (fun _ => returns_broadcast fun _ _ => rfl) fun _ => ?_
  refine .ite (fun _ => returns_pure (wellFormed_of_texts_nil rfl)) fun _ => ?_
  refine .ite (fun _ => returns_pure (wellFormed_of_texts_nil rfl)) fun _ => ?_
  exact .ite (fun _ => returns_parseErrorResult) fun _ => returns_throw _

end HelbreathBackend.ServerTranslate
