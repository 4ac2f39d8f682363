import HelbreathBackend.WireGrammar

/-!
The header of a decoded wire packet.

A plain frame cannot be longer than its length field says. A compressed payload can: the limit on
what it decompresses to is a `usize` of the configuration, and the length of the result is cast to
the sixteen bits of the header without a check.
-/

namespace HelbreathBackend.Wire

open HelbreathBackend.Lib HelbreathBackend.Frame

variable {f : Bytes} {m : ℕ} {o : WireCodecOptions} {packet : DecodedPacket}

/-- The default of `packet_max_payload` in the settings. -/
def packetMaxPayloadDefault : ℕ := 65535

/-- The header says how long the packet is, and the limit is kept. -/
def Truthful (m : ℕ) (packet : DecodedPacket) : Prop :=
  packet.header.length.toNat = 2 + packet.payload.length ∧ packet.payload.length ≤ m

/-- The payload of a frame with the obfuscation taken off. -/
def deobfuscated (o : WireCodecOptions) (payload : Bytes) : Bytes :=
  match o.obfuscationSeed with
  | some seed => deobfuscateWirePayload payload seed
  | none => payload

/-- A compressed frame within the limit whose tokens stand for more bytes than the length field can
tell, and for no more than the limit. -/
def Overlong (f : Bytes) (m : ℕ) (o : WireCodecOptions) : Prop :=
  o.compression = true ∧ ∃ opcode payload ts,
    f = encodeFrame opcode payload ∧ payload.length ≤ min m 65533 ∧
    (∀ t ∈ ts, byteCode.Valid t) ∧ deobfuscated o payload = byteCode.writeAll ts ∧
    65533 < (EscapeCode.expandAll ts).length ∧ (EscapeCode.expandAll ts).length ≤ m

lemma length_deobfuscated (o : WireCodecOptions) (payload : Bytes) :
    (deobfuscated o payload).length = payload.length := by
  unfold deobfuscated
  split
  · exact obfuscate_length payload _
  · rfl

lemma deobfuscated_deobfuscated (o : WireCodecOptions) (payload : Bytes) :
    deobfuscated o (deobfuscated o payload) = payload := by
  obtain ⟨compression, seed | seed⟩ := o
  · rfl
  · exact deobfuscate_obfuscate payload seed

lemma decodeWirePayload_eq (payload : Bytes) (m : ℕ) (o : WireCodecOptions) :
    decodeWirePayload payload m o =
      if o.compression then decompressWirePayload (deobfuscated o payload) m
      else .ok (deobfuscated o payload) := rfl

lemma decodeWireFrame_eq_ok_iff :
    decodeWireFrame f m o = .ok packet ↔
      ∃ decoded payload, decodeFrame f m = .ok decoded ∧
        decodeWirePayload decoded.payload m o = .ok payload ∧ payload.length ≤ m ∧
        packet = ⟨⟨UInt16.ofNat (2 + payload.length), decoded.header.opcode⟩, payload⟩ := by
  constructor
  · intro h
    unfold decodeWireFrame at h
    split at h
    · cases h
    · next decoded hframe =>
      split at h
      · cases h
      · next payload hpayload =>
        split at h
        · cases h
        · next hfits =>
          cases h
          exact ⟨decoded, payload, hframe, hpayload, by omega, rfl⟩
  · rintro ⟨decoded, payload, hframe, hpayload, hm, rfl⟩
    simp only [decodeWireFrame, hframe, hpayload]
    rw [if_neg (by omega)]

/-- The cast keeps the length exactly while it fits sixteen bits. -/
lemma toNat_ofNat_length (n : ℕ) : (UInt16.ofNat (2 + n)).toNat = 2 + n ↔ n ≤ 65533 := by
  rw [UInt16.toNat_ofNat']
  omega

lemma sizes_fit {payload : Bytes} (hle : payload.length ≤ min m 65533) :
    m < usizeMax ∨ 255 * (deobfuscated o payload).length ≤ usizeMax := by
  rw [length_deobfuscated]
  unfold usizeMax
  omega

lemma Overlong.untruthful (h : Overlong f m o) :
    ∃ packet, decodeWireFrame f m o = .ok packet ∧ ¬ Truthful m packet := by
  obtain ⟨hcomp, opcode, payload, ts, hf, hle, hv, hts, hlong, hm⟩ := h
  have hframe : decodeFrame f m =
      .ok ⟨⟨UInt16.ofNat (2 + payload.length), opcode⟩, payload⟩ := by
    rw [hf, decodeFrame_encodeFrame _ _ (by omega), if_neg (by omega)]
  have hpayload : decodeWirePayload payload m o = .ok (EscapeCode.expandAll ts) := by
    rw [decodeWirePayload_eq, if_pos hcomp]
    exact decompress_all hv hts hm (sizes_fit hle)
  refine ⟨_, decodeWireFrame_eq_ok_iff.mpr ⟨_, _, hframe, hpayload, hm, rfl⟩, fun htrue => ?_⟩
  have hfits := (toNat_ofNat_length _).mp htrue.1
  omega

/-- Nothing else is decoded with a header that is not truthful. -/
lemma truthful_of_not_overlong (h : ¬ Overlong f m o) (hok : decodeWireFrame f m o = .ok packet) :
    Truthful m packet := by
  obtain ⟨decoded, payload, hframe, hpayload, hm, rfl⟩ := decodeWireFrame_eq_ok_iff.mp hok
  obtain ⟨hf, hle, -⟩ := decodeFrame_eq_ok_iff.mp hframe
  refine ⟨(toNat_ofNat_length _).mpr ?_, hm⟩
  rw [decodeWirePayload_eq] at hpayload
  split at hpayload
  · next hcomp =>
    obtain ⟨ts, hv, hts, rfl, -⟩ := (decompress_eq_ok_iff (sizes_fit hle)).mp hpayload
    by_contra hlong
    exact h ⟨hcomp, _, _, ts, hf, hle, hv, hts, by omega, hm⟩
  · cases hpayload
    rw [length_deobfuscated]
    omega

/-- 302 runs of 217 zeros: in a frame of 910 bytes, a payload of 65534. -/
def longRuns : List (Token UInt8) := List.replicate 302 (.run 217 0)

lemma valid_longRuns : ∀ t ∈ longRuns, byteCode.Valid t := by
  intro t ht
  rw [List.eq_of_mem_replicate ht, valid_run]
  decide

lemma length_longRuns : (EscapeCode.expandAll longRuns).length = 65534 := by
  rw [EscapeCode.expandAll, longRuns, List.length_flatMap, List.map_replicate, List.sum_replicate,
    EscapeCode.expand, List.length_replicate]
  rfl

lemma length_write_longRuns : (byteCode.writeAll longRuns).length = 906 := by
  rw [EscapeCode.writeAll, longRuns, List.length_flatMap, List.map_replicate, List.sum_replicate]
  rfl

lemma overlong_longRuns (hm : 65533 < m) (ho : o.compression = true) :
    Overlong (encodeFrame 0 (deobfuscated o (byteCode.writeAll longRuns))) m o := by
  refine ⟨ho, 0, _, longRuns, rfl, ?_, valid_longRuns, deobfuscated_deobfuscated o _, ?_, ?_⟩
  · rw [length_deobfuscated, length_write_longRuns]
    omega
  · rw [length_longRuns]
    decide
  · rw [length_longRuns]
    omega

/-- **When a wire packet's header is truthful**: on every frame that is not overlong; so on all
frames exactly where the limit is at most what the length field can tell, or nothing is
decompressed. -/
theorem decodeWireFrame_truthful_iff (m : ℕ) (o : WireCodecOptions) :
    (∀ f, (∀ packet, decodeWireFrame f m o = .ok packet → Truthful m packet) ↔
      ¬ Overlong f m o) ∧
    ((∀ f packet, decodeWireFrame f m o = .ok packet → Truthful m packet) ↔
      m ≤ 65533 ∨ o.compression = false) := by
  refine ⟨fun f => ⟨fun h hlong => ?_, fun h packet => truthful_of_not_overlong h⟩,
    fun h => ?_, fun h f packet => truthful_of_not_overlong ?_⟩
  · obtain ⟨packet, hok, hnot⟩ := hlong.untruthful
    exact hnot (h packet hok)
  · by_contra hnot
    rw [not_or, Nat.not_le, Bool.not_eq_false] at hnot
    obtain ⟨packet, hok, hlie⟩ := (overlong_longRuns hnot.1 hnot.2).untruthful
    exact hlie (h _ packet hok)
  · rintro ⟨hcomp, _, _, ts, -, -, -, -, hlong, hle⟩
    rcases h with hm | ho
    · omega
    · rw [ho] at hcomp
      cases hcomp

/-- With the default limit, compression on and no obfuscation, the header of 65534 bytes says
zero. -/
theorem decodeWireFrame_lies :
    ∃ packet, decodeWireFrame (encodeFrame 0 (byteCode.writeAll longRuns))
        packetMaxPayloadDefault ⟨true, none⟩ = .ok packet ∧
      packet.header.length.toNat ≠ 2 + packet.payload.length := by
  have hlong : Overlong (encodeFrame 0 (byteCode.writeAll longRuns)) packetMaxPayloadDefault
      ⟨true, none⟩ := overlong_longRuns (o := ⟨true, none⟩) (by decide) rfl
  obtain ⟨packet, hok, hlie⟩ := hlong.untruthful
  obtain ⟨_, _, -, -, hm, rfl⟩ := decodeWireFrame_eq_ok_iff.mp hok
  exact ⟨_, hok, fun htrue => hlie ⟨htrue, hm⟩⟩

end HelbreathBackend.Wire
