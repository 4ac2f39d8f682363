import HelbreathBackend.Wire

/-!
Encoded wire frames one after another on a connection.

The length field of a frame holds at most 65535, so a frame delimits itself exactly while
its encoded payload has at most 65533 bytes. Compression can make a payload longer, since
an isolated `0xFF` costs three bytes; how long the result is follows from the runs of the
payload.
-/

namespace HelbreathBackend.WireStream

open HelbreathBackend.Lib HelbreathBackend.Frame HelbreathBackend.Wire

/-- What a sender puts on the wire. -/
structure WireMessage where
  opcode : UInt16
  payload : Bytes
  options : WireCodecOptions

def WireMessage.encode (w : WireMessage) : Bytes :=
  encodeWireFrame w.opcode w.payload w.options

/-- The number of bytes a payload takes in its frame: with compression, three for every
token of an escaped or long run and one for every other byte. -/
def wireSize (payload : Bytes) (options : WireCodecOptions) : ℕ :=
  if options.compression then byteCode.cost 4 payload else payload.length

lemma encodeWirePayload_length (p : Bytes) (o : WireCodecOptions) :
    (encodeWirePayload p o).length = wireSize p o := by
  obtain ⟨compression, seed⟩ := o
  have hc : (compressWirePayload p).length = byteCode.cost 4 p := by
    rw [compress_eq, byteCode.length_write_tokens (by decide) (by decide)]
  cases compression <;> cases seed <;> simp [encodeWirePayload, wireSize, hc]

/-- A frame is recognised at its own length exactly when its length field did not wrap. -/
lemma frameSize_encodeFrame (opcode : UInt16) (payload c : Bytes) :
    frameSize (encodeFrame opcode payload ++ c) = some (encodeFrame opcode payload).length ↔
      payload.length ≤ 65533 := by
  have hlen : (UInt16.ofNat (2 + payload.length)).toNat = (2 + payload.length) % 65536 :=
    UInt16.toNat_ofNat'
  rw [frameSize_eq_some, encodeFrame_length]
  constructor
  · rintro ⟨b0, b1, t, he, hn, -⟩
    simp only [encodeFrame, u16ToLeBytes, List.cons_append, List.cons.injEq] at he
    obtain ⟨rfl, rfl, -⟩ := he
    rw [u16FromLeBytes_toLe, hlen] at hn
    omega
  · intro h
    refine ⟨_, _, _, rfl, ?_, ?_⟩
    · rw [u16FromLeBytes_toLe, hlen]; omega
    · rw [List.length_append, encodeFrame_length]; omega

lemma delimited_encode {w : WireMessage} (h : wireSize w.payload w.options ≤ 65533) :
    wireFraming.Delimited w.encode := by
  have := frameSize_encodeFrame w.opcode (encodeWirePayload w.payload w.options) []
  rw [encodeWirePayload_length, List.append_nil] at this
  exact this.mpr h

/-- Frames that come back as they were sent have not wrapped. -/
lemma wireSize_le_of_splitFrames {ws : List WireMessage}
    (h : (splitFrames (ws.flatMap WireMessage.encode)).1 = ws.map WireMessage.encode) :
    ∀ w ∈ ws, wireSize w.payload w.options ≤ 65533 := by
  intro w hw
  rw [splitFrames_eq] at h
  have hmem : w.encode ∈ (wireFraming.extract (ws.flatMap WireMessage.encode)).1 := by
    rw [h]; exact List.mem_map_of_mem hw
  obtain ⟨c, hc⟩ := wireFraming.size_of_mem_extract hmem
  rw [← encodeWirePayload_length]
  exact (frameSize_encodeFrame w.opcode _ c).mp hc

/-- **Self-delimiting frames**: splitting a stream of encoded frames gives back exactly the
frames, and leaves nothing, if and only if every payload fits its length field encoded. -/
theorem wire_stream_self_delimiting (ws : List WireMessage) :
    splitFrames (ws.flatMap WireMessage.encode) = (ws.map WireMessage.encode, []) ↔
      ∀ w ∈ ws, wireSize w.payload w.options ≤ 65533 := by
  constructor
  · intro h
    exact wireSize_le_of_splitFrames (congrArg Prod.fst h)
  · intro h
    have hd : ∀ u ∈ ws.map WireMessage.encode, wireFraming.Delimited u := by
      intro u hu
      obtain ⟨w, hw, rfl⟩ := List.mem_map.mp hu
      exact delimited_encode (h w hw)
    have := Framing.extract_flatten_delimited hd []
    rw [wireFraming.extract_none (b := []) rfl] at this
    rw [splitFrames_eq, List.flatMap_def]
    simpa using this

/-! ### A payload that does not fit -/

/-- `n` escape bytes, each followed by a zero. -/
def escapePairs (n : ℕ) : Bytes := (List.replicate n [0xFF, 0]).flatten

lemma escapePairs_succ (n : ℕ) : escapePairs (n + 1) = 0xFF :: 0 :: escapePairs n := by
  simp [escapePairs, List.replicate_succ]

lemma escapePairs_length (n : ℕ) : (escapePairs n).length = 2 * n := by
  induction n with
  | zero => rfl
  | succ n ih => rw [escapePairs_succ, List.length_cons, List.length_cons, ih]; omega

lemma runs_escapePairs (n : ℕ) :
    EscapeCode.runs (escapePairs n) =
      (List.replicate n [((0xFF : UInt8), 1), ((0 : UInt8), 1)]).flatten := by
  induction n with
  | zero => rfl
  | succ n ih =>
    rw [escapePairs_succ, List.replicate_succ, List.flatten_cons, ← ih]
    cases n with
    | zero => rfl
    | succ n =>
      have hhead : EscapeCode.runs (escapePairs (n + 1)) = (0xFF, 1) :: (0, 1) ::
          (List.replicate n [((0xFF : UInt8), 1), ((0 : UInt8), 1)]).flatten := by
        rw [ih, List.replicate_succ]; rfl
      rw [EscapeCode.runs, EscapeCode.runs, hhead]
      rfl

lemma cost_escapePairs (n : ℕ) : byteCode.cost 4 (escapePairs n) = 4 * n := by
  rw [EscapeCode.cost, runs_escapePairs]
  induction n with
  | zero => rfl
  | succ n ih =>
    rw [List.replicate_succ, List.flatten_cons, List.map_append, List.sum_append, ih]
    have : (([((0xFF : UInt8), 1), ((0 : UInt8), 1)]).map
        fun r => byteCode.runCost 4 r.1 r.2).sum = 4 := by decide
    omega

/-- A payload of 32768 bytes, half of them escapes, with compression on: it takes 65536
bytes in its frame, the length wraps, and the stream is not split where the frame ends. -/
theorem wire_stream_wraps :
    (escapePairs 16384).length ≤ 65533 ∧
      splitFrames ([⟨0x0200, escapePairs 16384, ⟨true, none⟩⟩].flatMap WireMessage.encode) ≠
        ([⟨0x0200, escapePairs 16384, ⟨true, none⟩⟩].map WireMessage.encode, []) := by
  refine ⟨by rw [escapePairs_length]; decide, fun h => ?_⟩
  have hfit := wireSize_le_of_splitFrames (congrArg Prod.fst h) _ (List.mem_singleton_self _)
  rw [wireSize, if_pos rfl, cost_escapePairs] at hfit
  exact absurd hfit (by decide)

end HelbreathBackend.WireStream
