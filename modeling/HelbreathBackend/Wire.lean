import HelbreathBackend.Frame
import HelbreathBackend.Lib.EscapeRuns

/-!
The optional wire codec: run-length compression with the escape byte `0xFF`, then an XOR
stream that depends on the position.

The compressor is the greedy coder of `Lib.EscapeRuns` at the byte alphabet, and the
decompressor reads valid tokens back under a limit on its output. The frame around the
encoded payload is the plain frame of `Frame`.
-/

namespace HelbreathBackend.Wire

open HelbreathBackend.Lib HelbreathBackend.Frame

structure WireCodecOptions where
  compression : Bool
  obfuscationSeed : Option UInt8
  deriving DecidableEq

inductive WireCodecError
  | malformedCompressionStream
  | decompressedPayloadTooLarge
  deriving DecidableEq

inductive WireDecodeError
  | frame (err : DecodeError)
  | codec (err : WireCodecError)
  deriving DecidableEq

/-- The largest `usize`, at which `saturating_add` stops. -/
def usizeMax : ℕ := 2 ^ 64 - 1

def saturatingAdd (a b : ℕ) : ℕ := min (a + b) usizeMax

/-! ### The codec -/

/-- The position counts as a byte: the key stream repeats every 256 bytes. -/
def obfuscateWirePayload (payload : Bytes) (seed : UInt8) : Bytes :=
  payload.mapIdx fun idx byte => byte ^^^ (seed + UInt8.ofNat idx * 31)

def deobfuscateWirePayload (payload : Bytes) (seed : UInt8) : Bytes :=
  obfuscateWirePayload payload seed

/-- The inner loop of `compress_wire_payload`: the run of `byte` at the front of `rest`. -/
def runOf (byte : UInt8) : Bytes → ℕ → ℕ
  | [], run => run
  | b :: rest, run => if b = byte ∧ run < 255 then runOf byte rest (run + 1) else run

/-- The outer loop; each round takes at least one byte off the payload. -/
def compressLoop : ℕ → Bytes → Bytes → Bytes
  | 0, _, out => out
  | _ + 1, [], out => out
  | fuel + 1, byte :: rest, out =>
    let run := runOf byte rest 1
    let out :=
      if 4 ≤ run ∨ byte = 0xFF then out ++ [0xFF, UInt8.ofNat run, byte]
      else out ++ List.replicate run byte
    compressLoop fuel (rest.drop (run - 1)) out

def compressWirePayload (payload : Bytes) : Bytes :=
  if payload.isEmpty then [] else compressLoop payload.length payload []

def decompressLoop (maxOutput : ℕ) : Bytes → Bytes → Except WireCodecError Bytes
  | [], out => .ok out
  | b :: t, out =>
    if b ≠ 0xFF then
      if maxOutput < (out ++ [b]).length then .error .decompressedPayloadTooLarge
      else decompressLoop maxOutput t (out ++ [b])
    else
      match t with
      | count :: value :: rest =>
        if count.toNat = 0 then .error .malformedCompressionStream
        else if maxOutput < saturatingAdd out.length count.toNat then
          .error .decompressedPayloadTooLarge
        else decompressLoop maxOutput rest (out ++ List.replicate count.toNat value)
      | _ => .error .malformedCompressionStream

def decompressWirePayload (payload : Bytes) (maxOutput : ℕ) : Except WireCodecError Bytes :=
  decompressLoop maxOutput payload []

/-- The payload as it is put into the frame. -/
def encodeWirePayload (payload : Bytes) (options : WireCodecOptions) : Bytes :=
  let encoded := if options.compression then compressWirePayload payload else payload
  match options.obfuscationSeed with
  | some seed => obfuscateWirePayload encoded seed
  | none => encoded

def encodeWireFrame (opcode : UInt16) (payload : Bytes) (options : WireCodecOptions) : Bytes :=
  encodeFrame opcode (encodeWirePayload payload options)

/-- What `decode_wire_frame` does with the payload of a decoded frame. -/
def decodeWirePayload (payload : Bytes) (maxPayload : ℕ) (options : WireCodecOptions) :
    Except WireCodecError Bytes :=
  let payload :=
    match options.obfuscationSeed with
    | some seed => deobfuscateWirePayload payload seed
    | none => payload
  if options.compression then decompressWirePayload payload maxPayload else .ok payload

def decodeWireFrame (frame : Bytes) (maxPayload : ℕ) (options : WireCodecOptions) :
    Except WireDecodeError DecodedPacket :=
  match decodeFrame frame maxPayload with
  | .error err => .error (.frame err)
  | .ok decoded =>
    match decodeWirePayload decoded.payload maxPayload options with
    | .error err => .error (.codec err)
    | .ok payload =>
      if maxPayload < payload.length then .error (.codec .decompressedPayloadTooLarge)
      else .ok ⟨⟨UInt16.ofNat (2 + payload.length), decoded.header.opcode⟩, payload⟩

/-! ### Obfuscation -/

@[simp] lemma obfuscate_length (p : Bytes) (seed : UInt8) :
    (obfuscateWirePayload p seed).length = p.length := by
  simp [obfuscateWirePayload]

lemma deobfuscate_obfuscate (p : Bytes) (seed : UInt8) :
    deobfuscateWirePayload (obfuscateWirePayload p seed) seed = p := by
  simp only [deobfuscateWirePayload, obfuscateWirePayload, List.mapIdx_mapIdx]
  refine List.ext_getElem (by simp) fun i h1 h2 => ?_
  rw [List.getElem_mapIdx, Function.comp_apply, UInt8.xor_assoc, UInt8.xor_self, UInt8.xor_zero]

/-! ### Compression -/

/-- The byte alphabet: `0xFF` escapes, and a count is one byte. -/
def byteCode : EscapeCode UInt8 where
  esc := 0xFF
  cap := 255
  cap_pos := by decide
  digit := UInt8.ofNat
  value := UInt8.toNat
  value_digit h := by rw [UInt8.toNat_ofNat']; omega

lemma runOf_eq (byte : UInt8) (rest : Bytes) (run : ℕ) :
    runOf byte rest run = EscapeCode.runLength 255 byte rest run := by
  induction rest generalizing run with
  | nil => rfl
  | cons b rest ih => rw [runOf, EscapeCode.runLength, ih]

lemma compressLoop_eq (fuel : ℕ) (p out : Bytes) (h : p.length ≤ fuel) :
    compressLoop fuel p out = out ++ byteCode.writeAll (byteCode.tokens 4 p) := by
  induction fuel generalizing p out with
  | zero =>
    obtain rfl : p = [] := List.length_eq_zero_iff.mp (by omega)
    simp [compressLoop, EscapeCode.tokens]
  | succ fuel ih =>
    rcases p with _ | ⟨byte, rest⟩
    · simp [compressLoop, EscapeCode.tokens]
    · have hrest : (rest.drop (runOf byte rest 1 - 1)).length ≤ fuel := by
        simp only [List.length_drop, List.length_cons] at h ⊢; omega
      have hcap : byteCode.cap = 255 := rfl
      have hesc : byteCode.esc = 0xFF := rfl
      rw [compressLoop, ih _ _ hrest, EscapeCode.tokens, EscapeCode.writeAll_append,
        EscapeCode.pack, hcap, hesc, ← runOf_eq, ← List.append_assoc]
      congr 1
      split
      · simp [EscapeCode.write, byteCode]
      · rw [EscapeCode.writeAll_lits]

/-- The compressor is the greedy coder. -/
theorem compress_eq (p : Bytes) :
    compressWirePayload p = byteCode.writeAll (byteCode.tokens 4 p) := by
  rw [compressWirePayload]
  split
  · next h =>
    obtain rfl := List.isEmpty_iff.mp h
    simp [EscapeCode.tokens]
  · rw [compressLoop_eq _ _ _ (Nat.le_refl _), List.nil_append]

lemma decompressLoop_lit (m : ℕ) {b : UInt8} (hb : b ≠ 0xFF) (t out : Bytes) :
    decompressLoop m (b :: t) out =
      if m < out.length + 1 then .error .decompressedPayloadTooLarge
      else decompressLoop m t (out ++ [b]) := by
  rw [decompressLoop.eq_def]
  simp only [if_pos hb, List.length_append, List.length_singleton]

/-- Where a sum saturates, it is over every smaller limit all the same. -/
lemma lt_saturatingAdd_iff {m a b : ℕ} (h : m < usizeMax ∨ a + b ≤ usizeMax) :
    m < saturatingAdd a b ↔ m < a + b := by
  unfold saturatingAdd
  omega

lemma decompressLoop_run (m : ℕ) {n : ℕ} (hpos : 0 < n) (hcap : n ≤ 255) (a : UInt8)
    (t out : Bytes) (hsize : m < usizeMax ∨ out.length + n ≤ usizeMax) :
    decompressLoop m (0xFF :: UInt8.ofNat n :: a :: t) out =
      if m < out.length + n then .error .decompressedPayloadTooLarge
      else decompressLoop m t (out ++ List.replicate n a) := by
  have hval : (UInt8.ofNat n).toNat = n := by rw [UInt8.toNat_ofNat']; omega
  simp only [decompressLoop, hval, lt_saturatingAdd_iff hsize]
  rw [if_neg (by simp), if_neg (by omega)]

/-- Decompressing valid tokens expands them, or stops at the limit and nowhere else. -/
lemma decompressLoop_writeAll (m : ℕ) (ts : List (Token UInt8)) (out : Bytes)
    (hv : ∀ t ∈ ts, byteCode.Valid t) (hout : out.length ≤ m)
    (hsize : out.length + (EscapeCode.expandAll ts).length ≤ usizeMax) :
    decompressLoop m (byteCode.writeAll ts) out =
      if m < out.length + (EscapeCode.expandAll ts).length then
        .error .decompressedPayloadTooLarge
      else .ok (out ++ EscapeCode.expandAll ts) := by
  induction ts generalizing out with
  | nil => simp [decompressLoop, Nat.not_lt.mpr hout]
  | cons t ts ih =>
    have ht := hv t (by simp)
    have hts : ∀ u ∈ ts, byteCode.Valid u := fun u hu => hv u (by simp [hu])
    cases t with
    | lit a =>
      have ha : a ≠ 0xFF := ht
      simp only [EscapeCode.writeAll_cons, EscapeCode.expandAll_cons, EscapeCode.write,
        EscapeCode.expand, List.singleton_append, List.length_cons] at hsize ⊢
      rw [decompressLoop_lit m ha]
      rcases Nat.lt_or_ge m (out.length + 1) with hlt | hge
      · rw [if_pos hlt, if_pos (by omega)]
      · rw [if_neg (by omega), ih _ hts (by simpa using hge) (by simp; omega)]
        simp only [List.length_append, List.length_singleton, List.append_assoc,
          List.singleton_append, Nat.add_assoc, Nat.add_comm 1]
    | run n a =>
      obtain ⟨hpos, hcap⟩ : 0 < n ∧ n ≤ 255 := ht
      have hw : byteCode.write (.run n a) = [0xFF, UInt8.ofNat n, a] := rfl
      simp only [EscapeCode.writeAll_cons, EscapeCode.expandAll_cons, hw, EscapeCode.expand,
        List.cons_append, List.nil_append, List.length_append, List.length_replicate] at hsize ⊢
      rw [decompressLoop_run m hpos hcap a _ out (.inr (by omega))]
      rcases Nat.lt_or_ge m (out.length + n) with hlt | hge
      · rw [if_pos hlt, if_pos (by omega)]
      · rw [if_neg (by omega), ih _ hts (by simpa using hge) (by simp; omega)]
        simp only [List.length_append, List.length_replicate, List.append_assoc, Nat.add_assoc]

/-- A payload is at most 255 times as long as its compression. -/
lemma length_le_compress (p : Bytes) : p.length ≤ 255 * (compressWirePayload p).length := by
  have h := byteCode.length_expandAll_le (byteCode.valid_tokens 4 p)
  rwa [byteCode.expandAll_tokens, ← compress_eq] at h

/-- **Decompression inverts compression**, up to the limit on the output. -/
theorem decompress_compress (p : Bytes) (m : ℕ) (h : p.length ≤ usizeMax) :
    decompressWirePayload (compressWirePayload p) m =
      if m < p.length then .error .decompressedPayloadTooLarge else .ok p := by
  rw [decompressWirePayload, compress_eq, decompressLoop_writeAll _ _ _ (byteCode.valid_tokens 4 p)
    (Nat.zero_le m) (by simpa [byteCode.expandAll_tokens] using h), byteCode.expandAll_tokens]
  simp

/-! ### The round trip -/

lemma decodeWirePayload_encode (p : Bytes) (m : ℕ) (o : WireCodecOptions)
    (hp : p.length ≤ usizeMax) :
    decodeWirePayload (encodeWirePayload p o) m o =
      if o.compression = true ∧ m < p.length then .error .decompressedPayloadTooLarge
      else .ok p := by
  obtain ⟨compression, seed⟩ := o
  have hseed : ∀ q : Bytes, (match seed with
      | some s => deobfuscateWirePayload (match seed with
        | some s => obfuscateWirePayload q s
        | none => q) s
      | none => match seed with
        | some s => obfuscateWirePayload q s
        | none => q) = q := by
    intro q
    cases seed with
    | none => rfl
    | some s => exact deobfuscate_obfuscate q s
  simp only [decodeWirePayload, encodeWirePayload, hseed]
  cases compression with
  | false => simp
  | true => simp [decompress_compress p m hp]

/-- How long the payload is once encoded decides only whether the frame is accepted. -/
lemma length_le_encode (p : Bytes) (o : WireCodecOptions) :
    p.length ≤ 255 * (encodeWirePayload p o).length ∧
      (o.compression = false → (encodeWirePayload p o).length = p.length) := by
  obtain ⟨compression, seed⟩ := o
  have hlen : (encodeWirePayload p ⟨compression, seed⟩).length =
      (if compression then compressWirePayload p else p).length := by
    cases seed <;> simp [encodeWirePayload]
  rw [hlen]
  cases compression with
  | false => exact ⟨by simp; omega, fun _ => rfl⟩
  | true => exact ⟨length_le_compress p, nofun⟩

/-- **Wire round trip**: while the encoded payload fits its length field, decoding an
encoded frame gives back the opcode and the payload, or the error of the limit that was
exceeded, and no other. -/
theorem wire_roundtrip (opcode : UInt16) (p : Bytes) (o : WireCodecOptions) (m : ℕ)
    (he : (encodeWirePayload p o).length ≤ 65533) :
    ((encodeWirePayload p o).length ≤ m → p.length ≤ m →
      decodeWireFrame (encodeWireFrame opcode p o) m o =
        .ok ⟨⟨UInt16.ofNat (2 + p.length), opcode⟩, p⟩) ∧
    (m < (encodeWirePayload p o).length →
      decodeWireFrame (encodeWireFrame opcode p o) m o = .error (.frame .payloadTooLarge)) ∧
    ((encodeWirePayload p o).length ≤ m → m < p.length →
      decodeWireFrame (encodeWireFrame opcode p o) m o =
        .error (.codec .decompressedPayloadTooLarge)) ∧
    decodeWireFrame (encodeWireFrame opcode p o) m o ≠
      .error (.codec .malformedCompressionStream) ∧
    decodeWireFrame (encodeWireFrame opcode p o) m o ≠ .error (.frame .invalidLength) ∧
    decodeWireFrame (encodeWireFrame opcode p o) m o ≠ .error (.frame .frameTooShort) := by
  obtain ⟨hle, heq⟩ := length_le_encode p o
  have hsize : p.length ≤ usizeMax := by unfold usizeMax; omega
  have hdec := decodeWirePayload_encode p m o hsize
  have hres : decodeWireFrame (encodeWireFrame opcode p o) m o =
      if m < (encodeWirePayload p o).length then .error (.frame .payloadTooLarge)
      else if m < p.length then .error (.codec .decompressedPayloadTooLarge)
      else .ok ⟨⟨UInt16.ofNat (2 + p.length), opcode⟩, p⟩ := by
    rw [decodeWireFrame, encodeWireFrame, decodeFrame_encodeFrame opcode m he]
    rcases Nat.lt_or_ge m (encodeWirePayload p o).length with hm | hm
    · rw [if_pos hm, if_pos hm]
    · rw [if_neg (by omega), if_neg (by omega)]
      dsimp only
      rw [hdec]
      by_cases hc : o.compression = true
      · by_cases hp : m < p.length <;> simp [hc, hp]
      · have := heq (by simpa using hc)
        have hp : ¬ m < p.length := by omega
        simp [hc, hp]
  rw [hres]
  refine ⟨fun h1 h2 => ?_, fun h => if_pos h, fun h1 h2 => ?_, ?_, ?_, ?_⟩
  · rw [if_neg (by omega), if_neg (by omega)]
  · rw [if_neg (by omega), if_pos h2]
  all_goals split <;> [simp; split <;> simp]

/-- The payload of the repository's own test, compressed and obfuscated. -/
theorem wire_roundtrip_test :
    decodeWireFrame (encodeWireFrame 0x0200
        (List.replicate 6 65 ++ List.replicate 8 66 ++ List.replicate 12 67 ++ [0xFF, 0xFF] ++
          List.replicate 4 90) ⟨true, some 0x5A⟩) 1024 ⟨true, some 0x5A⟩ =
      .ok ⟨⟨34, 0x0200⟩, List.replicate 6 65 ++ List.replicate 8 66 ++ List.replicate 12 67 ++
        [0xFF, 0xFF] ++ List.replicate 4 90⟩ :=
  (wire_roundtrip 0x0200 _ ⟨true, some 0x5A⟩ 1024 (by decide)).1 (by decide) (by decide)

end HelbreathBackend.Wire
