import HelbreathBackend.ClientFrames

/-!
Identifiers as texts.

A payload that is one identifier may be its sixteen bytes or, the documentation says, its text. But
sixteen bytes of anything are taken for the identifier, and no text of one is shorter. So a text is
read as another identifier, but for a few that spell their own first sixteen characters.
-/

namespace HelbreathBackend.UuidTexts

open HelbreathBackend.Domain HelbreathBackend.Application HelbreathBackend.Frame
open HelbreathBackend.Translate HelbreathBackend.ClientFrames

/-! ### The texts -/

/-- The forms that `Uuid::parse_str` reads. -/
inductive TextForm
  | simple
  | hyphenated
  | braced
  | urn
  deriving DecidableEq

def hexDigit (upper : Bool) (n : ℕ) : Char :=
  if upper then (Nat.digitChar n).toUpper else Nat.digitChar n

section

-- the digits that are capitals, counted from the first one of the identifier
variable (upper : ℕ → Bool)

/-- The digits of some bytes of an identifier, of which the first digit has number `i`. -/
def hexDigits : ℕ → Bytes → List Char
  | _, [] => []
  | i, b :: rest =>
    hexDigit (upper i) (b.toNat / 16) :: hexDigit (upper (i + 1)) (b.toNat % 16) ::
      hexDigits (i + 2) rest

/-- The digits of `n` bytes after the first `i`. -/
def hexPart (u : Uuid) (i n : ℕ) : List Char := hexDigits upper (2 * i) ((u.bytes.drop i).take n)

def hyphenatedDigits (u : Uuid) : List Char :=
  hexPart upper u 0 4 ++ '-' :: (hexPart upper u 4 2 ++ '-' :: (hexPart upper u 6 2 ++
    '-' :: (hexPart upper u 8 2 ++ '-' :: hexPart upper u 10 6)))

def textChars (u : Uuid) : TextForm → List Char
  | .simple => hexPart upper u 0 16
  | .hyphenated => hyphenatedDigits upper u
  | .braced => '{' :: (hyphenatedDigits upper u ++ ['}'])
  | .urn => ['u', 'r', 'n', ':', 'u', 'u', 'i', 'd', ':'] ++ hyphenatedDigits upper u

def uuidText (u : Uuid) (form : TextForm) : String := String.ofList (textChars upper u form)

/-- The payload that is a text, with or without a zero behind it. -/
def textPayload (u : Uuid) (form : TextForm) (terminated : Bool) : Bytes :=
  utf8 (uuidText upper u form) ++ if terminated then [0] else []

/-- The identifiers whose text, in this form and with these capitals, begins with their bytes. -/
def Coincides (u : Uuid) : TextForm → Prop
  | .simple => u.bytes = List.replicate 16 0x33
  | .hyphenated =>
    u.bytes = [0x33, 0x33, 0x33, 0x33, 0x33, 0x33, 0x33, 0x33, 0x2d, 0x33, 0x33, 0x33, 0x33, 0x2d,
      0x33, 0x33]
  | .braced =>
    u.bytes =
      if upper 1 then
        [0x7b, 0x37, 0x42, 0x33, 0x37, 0x34, 0x32, 0x33, 0x33, 0x2d, 0x33, 0x37, 0x33, 0x34, 0x2d,
          0x33]
      else
        [0x7b, 0x37, 0x62, 0x33, 0x37, 0x36, 0x32, 0x33, 0x33, 0x2d, 0x33, 0x37, 0x33, 0x36, 0x2d,
          0x33]
  | .urn =>
    u.bytes = [0x75, 0x72, 0x6e, 0x3a, 0x75, 0x75, 0x69, 0x64, 0x3a, 0x37, 0x35, 0x37, 0x32, 0x36,
      if upper 5 then 0x45 else 0x65, 0x33]

end

/-- The lower-case hyphenated text is the one in which identifiers are printed. -/
lemma uuidText_hyphenated (u : Uuid) : uuidText (fun _ => false) u .hyphenated = u.format := by
  have hdigits : ∀ i bytes, hexDigits (fun _ => false) i bytes = bytes.flatMap fun b =>
      [Nat.digitChar (b.toNat / 16), Nat.digitChar (b.toNat % 16)] := by
    intro i bytes
    induction bytes generalizing i with
    | nil => rfl
    | cons b rest ih =>
      rw [hexDigits, ih, List.flatMap_cons]
      rfl
  unfold uuidText textChars hyphenatedDigits hexPart Uuid.format
  simp only [hdigits, List.intercalate, List.intersperse_cons_cons, List.intersperse_singleton,
    List.flatten_cons, List.flatten_nil, List.append_nil,
    List.cons_append, List.nil_append]

/-! ### Their bytes -/

def hexByte (upper : Bool) (n : ℕ) : UInt8 := UInt8.ofNat (hexDigit upper n).toNat

lemma hexByte_of_lt {upper : Bool} {n : ℕ} (h : n < 10) :
    hexByte upper n = UInt8.ofNat (48 + n) := by
  have hall : ∀ upper, ∀ n < 10, hexByte upper n = UInt8.ofNat (48 + n) := by decide
  exact hall upper n h

/-- Only the digit 3 is the high half of its own code. -/
lemma hexByte_eq_iff {upper : Bool} {b : UInt8} : hexByte upper (b.toNat / 16) = b ↔ b = 0x33 := by
  have hhalf : ∀ upper, ∀ n < 16, (hexByte upper n).toNat / 16 = n → n = 3 := by decide
  have hlt := b.toNat_lt
  constructor
  · intro h
    have hthree := hhalf upper (b.toNat / 16) (by omega) (by rw [h])
    rw [hthree, hexByte_of_lt (by decide)] at h
    exact h.symm
  · rintro rfl
    exact hexByte_of_lt (by decide)

lemma utf8_ofList {cs : List Char} (h : ∀ c ∈ cs, c.toNat < 128) :
    utf8 (String.ofList cs) = cs.map fun c => UInt8.ofNat c.toNat := by
  rw [utf8, String.toList_ofList]
  induction cs with
  | nil => rfl
  | cons c cs ih =>
    have hc : c.val.toNat ≤ 0x7f := Nat.le_of_lt_succ (h c List.mem_cons_self)
    rw [List.flatMap_cons, ih fun c' hc' => h c' (List.mem_cons_of_mem _ hc'), List.map_cons,
      String.utf8EncodeChar]
    rw [if_pos hc]
    rfl

variable {upper : ℕ → Bool}

lemma toNat_hexDigits {i : ℕ} {bytes : Bytes} : ∀ c ∈ hexDigits upper i bytes, c.toNat < 128 := by
  have hdigit : ∀ up, ∀ n < 16, (hexDigit up n).toNat < 128 := by decide
  induction bytes generalizing i with
  | nil => exact fun c hc => absurd hc List.not_mem_nil
  | cons b rest ih =>
    have hlt := b.toNat_lt
    intro c hc
    rcases List.mem_cons.mp hc with rfl | hc
    · exact hdigit _ _ (by omega)
    rcases List.mem_cons.mp hc with rfl | hc
    · exact hdigit _ _ (by omega)
    · exact ih c hc

lemma toNat_hyphenatedDigits {u : Uuid} : ∀ c ∈ hyphenatedDigits upper u, c.toNat < 128 := by
  intro c hc
  simp only [hyphenatedDigits, List.mem_append, List.mem_cons] at hc
  rcases hc with hc | rfl | hc | rfl | hc | rfl | hc | rfl | hc
  · exact toNat_hexDigits c hc
  · decide
  · exact toNat_hexDigits c hc
  · decide
  · exact toNat_hexDigits c hc
  · decide
  · exact toNat_hexDigits c hc
  · decide
  · exact toNat_hexDigits c hc

lemma toNat_textChars {u : Uuid} {form : TextForm} :
    ∀ c ∈ textChars upper u form, c.toNat < 128 := by
  intro c hc
  cases form with
  | simple => exact toNat_hexDigits c hc
  | hyphenated => exact toNat_hyphenatedDigits c hc
  | braced =>
    rcases List.mem_cons.mp hc with rfl | hc
    · decide
    rcases List.mem_append.mp hc with hc | hc
    · exact toNat_hyphenatedDigits c hc
    · rw [List.mem_singleton.mp hc]
      decide
  | urn =>
    rcases List.mem_append.mp hc with hc | hc
    · have hall : ['u', 'r', 'n', ':', 'u', 'u', 'i', 'd', ':'].all (fun c => decide (c.toNat < 128)) =
          true := by decide
      exact of_decide_eq_true (List.all_eq_true.mp hall c hc)
    · exact toNat_hyphenatedDigits c hc

lemma length_hexPart {u : Uuid} {i n : ℕ} (h : i + n ≤ 16) :
    (hexPart upper u i n).length = 2 * n := by
  have hdigits : ∀ i bytes, (hexDigits upper i bytes).length = 2 * bytes.length := by
    intro i bytes
    induction bytes generalizing i with
    | nil => rfl
    | cons b rest ih =>
      rw [hexDigits, List.length_cons, List.length_cons, ih, List.length_cons]
      omega
  rw [hexPart, hdigits, List.length_take, List.length_drop, u.length_eq]
  omega

lemma length_hyphenatedDigits (upper : ℕ → Bool) (u : Uuid) : (hyphenatedDigits upper u).length = 36 := by
  simp [hyphenatedDigits, length_hexPart]

lemma length_textChars (upper : ℕ → Bool) (u : Uuid) (form : TextForm) :
    32 ≤ (textChars upper u form).length := by
  have hlen := length_hyphenatedDigits upper u
  cases form with
  | simple =>
    rw [textChars, length_hexPart (by rfl)]
  | hyphenated =>
    rw [textChars, hlen]
    decide
  | braced =>
    rw [textChars, List.length_cons, List.length_append, hlen]
    decide
  | urn =>
    rw [textChars, List.length_append, hlen]
    decide

/-- The first sixteen bytes of a text. -/
def frontBytes (upper : ℕ → Bool) (u : Uuid) (form : TextForm) : Bytes :=
  ((textChars upper u form).take 16).map fun c => UInt8.ofNat c.toNat

lemma take_textPayload (u : Uuid) (form : TextForm) (terminated : Bool) :
    (textPayload upper u form terminated).take 16 = frontBytes upper u form := by
  have hlen := length_textChars upper u form
  unfold textPayload uuidText frontBytes
  rw [utf8_ofList toNat_textChars, List.take_append_of_le_length (by rw [List.length_map]; omega),
    List.map_take]

lemma frontBytes_simple {u : Uuid} :
    frontBytes upper u .simple = u.bytes ↔ Coincides upper u .simple := by
  match u with
  | ⟨[b0, b1, b2, b3, b4, b5, b6, b7, b8, b9, b10, b11, b12, b13, b14, b15], hlen⟩ =>
    change [hexByte (upper 0) (b0.toNat / 16), hexByte (upper 1) (b0.toNat % 16),
      hexByte (upper 2) (b1.toNat / 16), hexByte (upper 3) (b1.toNat % 16),
      hexByte (upper 4) (b2.toNat / 16), hexByte (upper 5) (b2.toNat % 16),
      hexByte (upper 6) (b3.toNat / 16), hexByte (upper 7) (b3.toNat % 16),
      hexByte (upper 8) (b4.toNat / 16), hexByte (upper 9) (b4.toNat % 16),
      hexByte (upper 10) (b5.toNat / 16), hexByte (upper 11) (b5.toNat % 16),
      hexByte (upper 12) (b6.toNat / 16), hexByte (upper 13) (b6.toNat % 16),
      hexByte (upper 14) (b7.toNat / 16), hexByte (upper 15) (b7.toNat % 16)] = _ ↔ _
    simp only [Coincides, List.replicate, List.cons.injEq, and_true]
    constructor
    · rintro ⟨h0, rfl, rfl, rfl, rfl, rfl, rfl, rfl, rfl, rfl, rfl, rfl, rfl, rfl, rfl, rfl⟩
      obtain rfl := hexByte_eq_iff.mp h0
      simp [hexByte_of_lt]
    · rintro ⟨rfl, rfl, rfl, rfl, rfl, rfl, rfl, rfl, rfl, rfl, rfl, rfl, rfl, rfl, rfl, rfl⟩
      simp [hexByte_of_lt]

lemma frontBytes_hyphenated {u : Uuid} :
    frontBytes upper u .hyphenated = u.bytes ↔ Coincides upper u .hyphenated := by
  match u with
  | ⟨[b0, b1, b2, b3, b4, b5, b6, b7, b8, b9, b10, b11, b12, b13, b14, b15], hlen⟩ =>
    change [hexByte (upper 0) (b0.toNat / 16), hexByte (upper 1) (b0.toNat % 16),
      hexByte (upper 2) (b1.toNat / 16), hexByte (upper 3) (b1.toNat % 16),
      hexByte (upper 4) (b2.toNat / 16), hexByte (upper 5) (b2.toNat % 16),
      hexByte (upper 6) (b3.toNat / 16), hexByte (upper 7) (b3.toNat % 16), 0x2d,
      hexByte (upper 8) (b4.toNat / 16), hexByte (upper 9) (b4.toNat % 16),
      hexByte (upper 10) (b5.toNat / 16), hexByte (upper 11) (b5.toNat % 16), 0x2d,
      hexByte (upper 12) (b6.toNat / 16), hexByte (upper 13) (b6.toNat % 16)] = _ ↔ _
    simp only [Coincides, List.cons.injEq, and_true]
    constructor
    · rintro ⟨h0, rfl, rfl, rfl, rfl, rfl, rfl, rfl, rfl, rfl, rfl, rfl, rfl, rfl, rfl, rfl⟩
      obtain rfl := hexByte_eq_iff.mp h0
      simp [hexByte_of_lt]
    · rintro ⟨rfl, rfl, rfl, rfl, rfl, rfl, rfl, rfl, rfl, rfl, rfl, rfl, rfl, rfl, rfl, rfl⟩
      simp [hexByte_of_lt]

/-- The digit `b` of the brace's code may be a capital. -/
lemma frontBytes_braced {u : Uuid} :
    frontBytes upper u .braced = u.bytes ↔ Coincides upper u .braced := by
  match u with
  | ⟨[b0, b1, b2, b3, b4, b5, b6, b7, b8, b9, b10, b11, b12, b13, b14, b15], hlen⟩ =>
    change [0x7b, hexByte (upper 0) (b0.toNat / 16), hexByte (upper 1) (b0.toNat % 16),
      hexByte (upper 2) (b1.toNat / 16), hexByte (upper 3) (b1.toNat % 16),
      hexByte (upper 4) (b2.toNat / 16), hexByte (upper 5) (b2.toNat % 16),
      hexByte (upper 6) (b3.toNat / 16), hexByte (upper 7) (b3.toNat % 16), 0x2d,
      hexByte (upper 8) (b4.toNat / 16), hexByte (upper 9) (b4.toNat % 16),
      hexByte (upper 10) (b5.toNat / 16), hexByte (upper 11) (b5.toNat % 16), 0x2d,
      hexByte (upper 12) (b6.toNat / 16)] = _ ↔ _
    have hb : hexByte (upper 1) 11 = if upper 1 then 0x42 else 0x62 := by cases upper 1 <;> rfl
    rw [Coincides]
    cases hup : upper 1 with
    | false =>
      rw [hup] at hb
      simp only [if_false, Bool.false_eq_true, List.cons.injEq, and_true] at hb ⊢
      constructor
      · rintro ⟨rfl, rfl, rfl, rfl, rfl, rfl, rfl, rfl, rfl, rfl, rfl, rfl, rfl, rfl, rfl, rfl⟩
        simp [hexByte_of_lt, hb]
      · rintro ⟨rfl, rfl, rfl, rfl, rfl, rfl, rfl, rfl, rfl, rfl, rfl, rfl, rfl, rfl, rfl, rfl⟩
        simp [hexByte_of_lt, hb]
    | true =>
      rw [hup] at hb
      simp only [if_true, List.cons.injEq, and_true] at hb ⊢
      constructor
      · rintro ⟨rfl, rfl, rfl, rfl, rfl, rfl, rfl, rfl, rfl, rfl, rfl, rfl, rfl, rfl, rfl, rfl⟩
        simp [hexByte_of_lt, hb]
      · rintro ⟨rfl, rfl, rfl, rfl, rfl, rfl, rfl, rfl, rfl, rfl, rfl, rfl, rfl, rfl, rfl, rfl⟩
        simp [hexByte_of_lt, hb]

/-- And so may the `e` of the code of `n`. -/
lemma frontBytes_urn {u : Uuid} : frontBytes upper u .urn = u.bytes ↔ Coincides upper u .urn := by
  match u with
  | ⟨[b0, b1, b2, b3, b4, b5, b6, b7, b8, b9, b10, b11, b12, b13, b14, b15], hlen⟩ =>
    change [0x75, 0x72, 0x6e, 0x3a, 0x75, 0x75, 0x69, 0x64, 0x3a,
      hexByte (upper 0) (b0.toNat / 16), hexByte (upper 1) (b0.toNat % 16),
      hexByte (upper 2) (b1.toNat / 16), hexByte (upper 3) (b1.toNat % 16),
      hexByte (upper 4) (b2.toNat / 16), hexByte (upper 5) (b2.toNat % 16),
      hexByte (upper 6) (b3.toNat / 16)] = _ ↔ _
    have he : hexByte (upper 5) 14 = if upper 5 then 0x45 else 0x65 := by cases upper 5 <;> rfl
    simp only [Coincides, List.cons.injEq, and_true]
    constructor
    · rintro ⟨rfl, rfl, rfl, rfl, rfl, rfl, rfl, rfl, rfl, rfl, rfl, rfl, rfl, rfl, rfl, rfl⟩
      simp [hexByte_of_lt, he]
    · rintro ⟨rfl, rfl, rfl, rfl, rfl, rfl, rfl, rfl, rfl, rfl, rfl, rfl, rfl, rfl, rfl, rfl⟩
      simp [hexByte_of_lt, he]

/-- **Texts that spell themselves**: which texts begin with the bytes of their identifier. -/
lemma take_textPayload_iff {u : Uuid} {form : TextForm} {terminated : Bool} :
    (textPayload upper u form terminated).take 16 = u.bytes ↔ Coincides upper u form := by
  rw [take_textPayload]
  cases form with
  | simple => exact frontBytes_simple
  | hyphenated => exact frontBytes_hyphenated
  | braced => exact frontBytes_braced
  | urn => exact frontBytes_urn

/-! ### The commands that are one identifier -/

def uuidCommands : List (Uuid → ClientCommand) :=
  [.characterDelete, .characterSelect, .attack, .pickupItem, .npcInteraction]

lemma mem_uuidCommands_iff {command : Uuid → ClientCommand} : command ∈ uuidCommands ↔
    command = .characterDelete ∨ command = .characterSelect ∨ command = .attack ∨
      command = .pickupItem ∨ command = .npcInteraction := by
  simp only [uuidCommands, List.mem_cons, List.not_mem_nil, or_false]

variable {command : Uuid → ClientCommand} {parseStr : String → Option Uuid} {header : PacketHeader}
  {sessionPhase : SessionPhase} {u : Uuid}

/-- Sixteen bytes and more are the identifier in front, whatever they were meant to be. -/
lemma translate_uuid (hc : command ∈ uuidCommands) {payload : Bytes} (hlen : 16 ≤ payload.length)
    (hopcode : header.opcode = commandOpcode (command u))
    (hallowed : allowedIn sessionPhase.asDomainState (command u) = true)
    (version : ProtocolVersion) :
    translatePacketForVersion parseStr ⟨header, payload⟩ sessionPhase version =
      .ok (command ⟨payload.take 16, length_take_sixteen hlen⟩) := by
  have hparse : parseUuidPayload parseStr payload =
      .ok ⟨payload.take 16, length_take_sixteen hlen⟩ := dif_pos hlen
  have hmatrix : OpcodeMatrix.forVersion version = OpcodeMatrix.legacyV382 := by
    cases version <;> rfl
  have hcommand : parseCommand parseStr (OpcodeMatrix.forVersion version) header.opcode payload =
      (do .ok (command (← parseUuidPayload parseStr payload)) : Parse ClientCommand) := by
    rw [hmatrix, hopcode]
    rcases mem_uuidCommands_iff.mp hc with rfl | rfl | rfl | rfl | rfl <;> rfl
  have hallowed' : ∀ v, allowedIn sessionPhase.asDomainState (command v) = true := by
    intro v
    rw [← hallowed]
    rcases mem_uuidCommands_iff.mp hc with rfl | rfl | rfl | rfl | rfl <;>
      cases sessionPhase <;> rfl
  refine translate_of_parse parseStr (by rw [hcommand, hparse]; rfl) (hallowed' _) ?_
  rcases mem_uuidCommands_iff.mp hc with rfl | rfl | rfl | rfl | rfl <;> rfl

lemma injective_of_mem_uuidCommands (hc : command ∈ uuidCommands) : Function.Injective command := by
  intro u v h
  rcases mem_uuidCommands_iff.mp hc with rfl | rfl | rfl | rfl | rfl <;> (cases h; rfl)

/-- **Identifiers in binary and in text**: the sixteen bytes are always read as the identifier they
are; its text is so only where it begins with these very bytes. -/
theorem uuidPayload_exact (hc : command ∈ uuidCommands)
    (hopcode : header.opcode = commandOpcode (command u))
    (hallowed : allowedIn sessionPhase.asDomainState (command u) = true)
    (version : ProtocolVersion) :
    translatePacketForVersion parseStr ⟨header, u.bytes⟩ sessionPhase version = .ok (command u) ∧
      ∀ upper form terminated,
        translatePacketForVersion parseStr ⟨header, textPayload upper u form terminated⟩
            sessionPhase version = .ok (command u) ↔ Coincides upper u form := by
  constructor
  · have htake : u.bytes.take 16 = u.bytes := by rw [← u.length_eq, List.take_length]
    rw [translate_uuid hc u.length_eq.ge hopcode hallowed version]
    simp only [htake]
  · intro upper form terminated
    have hlen : 16 ≤ (textPayload upper u form terminated).length := by
      have hchars := length_textChars upper u form
      unfold textPayload uuidText
      rw [utf8_ofList toNat_textChars, List.length_append, List.length_map]
      omega
    rw [translate_uuid hc hlen hopcode hallowed version, Except.ok.injEq,
      (injective_of_mem_uuidCommands hc).eq_iff, Uuid.mk.injEq, take_textPayload_iff]

theorem uuidPayload_attack :
    translatePacketForVersion (fun _ => none) ⟨⟨18, 0x0101⟩, (Uuid.fill 7).bytes⟩ .inWorld
        .modernV400 = .ok (.attack (Uuid.fill 7)) ∧
      translatePacketForVersion (fun _ => none)
        ⟨⟨34, 0x0101⟩, textPayload (fun _ => true) (Uuid.fill 0x33) .simple true⟩ .inWorld
        .legacyV382 = .ok (.attack (Uuid.fill 0x33)) :=
  have hattack : ClientCommand.attack ∈ uuidCommands := by simp [uuidCommands]
  ⟨(uuidPayload_exact hattack rfl rfl _).1, ((uuidPayload_exact hattack rfl rfl _).2 _ _ _).mpr rfl⟩

/-- The hyphenated text of an identifier attacks another: that of its first sixteen characters. -/
theorem uuidPayload_text_misread :
    translatePacketForVersion
        (fun text => if text = (Uuid.fill 1).format then some (Uuid.fill 1) else none)
        ⟨⟨38, 0x0101⟩, textPayload (fun _ => false) (Uuid.fill 1) .hyphenated false⟩ .inWorld
        .legacyV382 =
      .ok (.attack ⟨[0x30, 0x31, 0x30, 0x31, 0x30, 0x31, 0x30, 0x31, 0x2d, 0x30, 0x31, 0x30, 0x31,
        0x2d, 0x30, 0x31], rfl⟩) ∧
    translatePacketForVersion
        (fun text => if text = (Uuid.fill 1).format then some (Uuid.fill 1) else none)
        ⟨⟨38, 0x0101⟩, textPayload (fun _ => false) (Uuid.fill 1) .hyphenated false⟩ .inWorld
        .legacyV382 ≠ .ok (.attack (Uuid.fill 1)) := by
  have hread : translatePacketForVersion
      (fun text => if text = (Uuid.fill 1).format then some (Uuid.fill 1) else none)
      ⟨⟨38, 0x0101⟩, textPayload (fun _ => false) (Uuid.fill 1) .hyphenated false⟩ .inWorld
      .legacyV382 =
    .ok (.attack ⟨[0x30, 0x31, 0x30, 0x31, 0x30, 0x31, 0x30, 0x31, 0x2d, 0x30, 0x31, 0x30, 0x31,
      0x2d, 0x30, 0x31], rfl⟩) := rfl
  refine ⟨hread, ?_⟩
  rw [hread]
  decide

end HelbreathBackend.UuidTexts
