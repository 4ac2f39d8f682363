import HelbreathBackend.Lib.Framing
import Mathlib.Tactic.Common

/-!
Frames on the wire, and their reassembly from the byte stream of a connection.

A frame is a little-endian length, a little-endian opcode and the payload; the length
counts the opcode and the payload, not itself. The reader keeps the bytes that do not make
a complete frame yet and goes on from there when the next read arrives.
-/

namespace HelbreathBackend.Frame

open HelbreathBackend.Lib

abbrev Bytes := List UInt8

/-! ### Sixteen-bit integers -/

/-- `u16::to_le_bytes`. -/
def u16ToLeBytes (n : UInt16) : Bytes := [UInt8.ofNat n.toNat, UInt8.ofNat (n.toNat / 256)]

/-- `u16::from_le_bytes`. -/
def u16FromLeBytes (lo hi : UInt8) : UInt16 := UInt16.ofNat (lo.toNat + 256 * hi.toNat)

lemma u16FromLeBytes_toNat (lo hi : UInt8) :
    (u16FromLeBytes lo hi).toNat = lo.toNat + 256 * hi.toNat := by
  have := lo.toNat_lt
  have := hi.toNat_lt
  rw [u16FromLeBytes, UInt16.toNat_ofNat']
  omega

lemma u16FromLeBytes_toLe (n : UInt16) :
    u16FromLeBytes (UInt8.ofNat n.toNat) (UInt8.ofNat (n.toNat / 256)) = n := by
  have := n.toNat_lt
  apply UInt16.toNat_inj.mp
  rw [u16FromLeBytes_toNat, UInt8.toNat_ofNat', UInt8.toNat_ofNat']
  omega

/-! ### Frames -/

structure PacketHeader where
  length : UInt16
  opcode : UInt16
  deriving DecidableEq

structure DecodedPacket where
  header : PacketHeader
  payload : Bytes
  deriving DecidableEq

inductive DecodeError
  | frameTooShort
  | invalidLength
  | payloadTooLarge
  deriving DecidableEq

def decodeFrame (frame : Bytes) (maxPayload : ℕ) : Except DecodeError DecodedPacket :=
  match frame with
  | l0 :: l1 :: o0 :: o1 :: payload =>
    let length := u16FromLeBytes l0 l1
    let opcode := u16FromLeBytes o0 o1
    if length.toNat + 2 ≠ frame.length then .error .invalidLength
    else if maxPayload < payload.length then .error .payloadTooLarge
    else .ok ⟨⟨length, opcode⟩, payload⟩
  | _ => .error .frameTooShort

/-- The length is cast to sixteen bits, as in the source: a payload too long for it wraps. -/
def encodeFrame (opcode : UInt16) (payload : Bytes) : Bytes :=
  let length := UInt16.ofNat (2 + payload.length)
  u16ToLeBytes length ++ u16ToLeBytes opcode ++ payload

@[simp] lemma encodeFrame_length (opcode : UInt16) (payload : Bytes) :
    (encodeFrame opcode payload).length = 4 + payload.length := by
  simp [encodeFrame, u16ToLeBytes]; omega

/-- While the length fits its field, decoding a frame only checks the payload's size. -/
lemma decodeFrame_encodeFrame (opcode : UInt16) {payload : Bytes} (maxPayload : ℕ)
    (h : payload.length ≤ 65533) :
    decodeFrame (encodeFrame opcode payload) maxPayload =
      if maxPayload < payload.length then .error .payloadTooLarge
      else .ok ⟨⟨UInt16.ofNat (2 + payload.length), opcode⟩, payload⟩ := by
  have hlen : (UInt16.ofNat (2 + payload.length)).toNat = 2 + payload.length := by
    rw [UInt16.toNat_ofNat']; omega
  simp only [encodeFrame, u16ToLeBytes, decodeFrame, List.cons_append, List.nil_append,
    u16FromLeBytes_toLe, List.length_cons]
  rw [hlen, if_neg (by omega)]

/-! ### Splitting the stream -/

/-- The loop of `split_frames`; each round takes at least two bytes, so `fuel` bounds the
rounds when it is the length of the buffer. -/
def splitFramesLoop : ℕ → List Bytes → Bytes → List Bytes × Bytes
  | 0, frames, buffer => (frames, buffer)
  | fuel + 1, frames, buffer =>
    match buffer with
    | b0 :: b1 :: _ =>
      let total := (u16FromLeBytes b0 b1).toNat + 2
      if buffer.length < total then (frames, buffer)
      else splitFramesLoop fuel (frames ++ [buffer.take total]) (buffer.drop total)
    | _ => (frames, buffer)

/-- The complete frames at the front of the buffer, and the buffer that is left. -/
def splitFrames (buffer : Bytes) : List Bytes × Bytes :=
  splitFramesLoop buffer.length [] buffer

/-- The reader of a connection: each read is appended to the buffer and frames are split
off. -/
def readStep (s : List Bytes × Bytes) (chunk : Bytes) : List Bytes × Bytes :=
  (s.1 ++ (splitFrames (s.2 ++ chunk)).1, (splitFrames (s.2 ++ chunk)).2)

def readAll (chunks : List Bytes) : List Bytes × Bytes := chunks.foldl readStep ([], [])

/-! ### The framing -/

/-- The length of the frame at the front of the buffer, once all of it has arrived. -/
def frameSize (buffer : Bytes) : Option ℕ :=
  match buffer with
  | b0 :: b1 :: _ =>
    let total := (u16FromLeBytes b0 b1).toNat + 2
    if buffer.length < total then none else some total
  | _ => none

lemma frameSize_eq_some {buffer : Bytes} {n : ℕ} :
    frameSize buffer = some n ↔
      ∃ b0 b1 t, buffer = b0 :: b1 :: t ∧ n = (u16FromLeBytes b0 b1).toNat + 2 ∧
        n ≤ buffer.length := by
  unfold frameSize
  split
  · next b0 b1 t =>
    dsimp only
    split
    · next hlt =>
      refine ⟨nofun, ?_⟩
      rintro ⟨c0, c1, u, he, rfl, hle⟩
      cases he; omega
    · next hge =>
      constructor
      · rintro h
        cases h
        exact ⟨b0, b1, t, rfl, rfl, by omega⟩
      · rintro ⟨c0, c1, u, he, rfl, -⟩
        cases he; rfl
  · next hne =>
    refine ⟨nofun, ?_⟩
    rintro ⟨b0, b1, t, rfl, -⟩
    exact absurd rfl (hne b0 b1 t)

def wireFraming : Framing UInt8 where
  size := frameSize
  pos h := by
    obtain ⟨b0, b1, t, -, rfl, -⟩ := frameSize_eq_some.mp h
    omega
  le h := by
    obtain ⟨b0, b1, t, -, -, hle⟩ := frameSize_eq_some.mp h
    exact hle
  mono c h := by
    obtain ⟨b0, b1, t, rfl, rfl, hle⟩ := frameSize_eq_some.mp h
    refine frameSize_eq_some.mpr ⟨b0, b1, t ++ c, rfl, rfl, ?_⟩
    rw [List.length_append]; omega

lemma splitFramesLoop_eq (fuel : ℕ) (frames : List Bytes) (buffer : Bytes)
    (h : buffer.length ≤ fuel) :
    splitFramesLoop fuel frames buffer =
      (frames ++ (wireFraming.extract buffer).1, (wireFraming.extract buffer).2) := by
  induction fuel generalizing frames buffer with
  | zero =>
    have hb : buffer = [] := List.length_eq_zero_iff.mp (by omega)
    subst hb
    rw [wireFraming.extract_none rfl]
    simp [splitFramesLoop]
  | succ fuel ih =>
    rcases hs : frameSize buffer with _ | n
    · rw [wireFraming.extract_none hs]
      rcases buffer with _ | ⟨b0, _ | ⟨b1, t⟩⟩
      · simp [splitFramesLoop]
      · simp [splitFramesLoop]
      · have hlt : (b0 :: b1 :: t).length < (u16FromLeBytes b0 b1).toNat + 2 := by
          by_contra hge
          simp only [frameSize, if_neg hge] at hs
          cases hs
        simp only [splitFramesLoop, if_pos hlt, List.append_nil]
    · rw [wireFraming.extract_some hs]
      obtain ⟨b0, b1, t, rfl, rfl, hle⟩ := frameSize_eq_some.mp hs
      simp only [splitFramesLoop]
      have hlen : ((b0 :: b1 :: t).drop ((u16FromLeBytes b0 b1).toNat + 2)).length ≤ fuel := by
        simp only [List.length_drop, List.length_cons] at h ⊢
        omega
      rw [if_neg (by omega), ih _ _ hlen]
      simp

/-- `split_frames` extracts the units of the wire framing. -/
theorem splitFrames_eq (buffer : Bytes) : splitFrames buffer = wireFraming.extract buffer := by
  rw [splitFrames, splitFramesLoop_eq _ _ _ (Nat.le_refl _)]
  simp

lemma readStep_eq : readStep = wireFraming.feed := by
  funext s chunk
  simp only [readStep, splitFrames_eq, Framing.feed]

/-- Reading in chunks is splitting the whole. -/
lemma readAll_eq (chunks : List Bytes) : readAll chunks = splitFrames chunks.flatten := by
  have h := wireFraming.foldl_feed [] chunks
  rw [wireFraming.extract_none rfl, List.nil_append] at h
  rw [readAll, readStep_eq, h, splitFrames_eq]

/-! ### Reassembly -/

/-- A complete frame: two bytes of length, and as many bytes as they say. -/
def IsFrame (f : Bytes) : Prop :=
  ∃ b0 b1 t, f = b0 :: b1 :: t ∧ f.length = 2 + (u16FromLeBytes b0 b1).toNat

lemma isFrame_of_frameSize {f c : Bytes} (h : frameSize (f ++ c) = some f.length) :
    IsFrame f := by
  obtain ⟨b0, b1, t, he, hn, -⟩ := frameSize_eq_some.mp h
  rcases f with _ | ⟨c0, _ | ⟨c1, u⟩⟩
  · simp at hn
  · simp at hn
  · simp only [List.cons_append, List.cons.injEq] at he
    obtain ⟨rfl, rfl, -⟩ := he
    exact ⟨c0, c1, u, rfl, by omega⟩

lemma isFrame_of_mem_splitFrames {b f : Bytes} (h : f ∈ (splitFrames b).1) : IsFrame f := by
  rw [splitFrames_eq] at h
  obtain ⟨c, hc⟩ := wireFraming.size_of_mem_extract h
  exact isFrame_of_frameSize hc

lemma frameSize_isFrame_append {f : Bytes} (h : IsFrame f) (c : Bytes) :
    frameSize (f ++ c) = some f.length := by
  obtain ⟨b0, b1, t, rfl, hlen⟩ := h
  exact frameSize_eq_some.mpr ⟨b0, b1, t ++ c, rfl, by omega, by simp⟩

/-- What is left holds no complete frame, and so is shorter than the longest one. -/
lemma splitFrames_rest (b : Bytes) :
    (∀ f c, (splitFrames b).2 = f ++ c → ¬ IsFrame f) ∧ (splitFrames b).2.length < 65537 := by
  have hrest : frameSize (splitFrames b).2 = none := by
    rw [splitFrames_eq]; exact wireFraming.extract_rest b
  generalize (splitFrames b).2 = r at hrest
  refine ⟨fun f c he hf => ?_, ?_⟩
  · rw [he, frameSize_isFrame_append hf c] at hrest
    cases hrest
  · rcases r with _ | ⟨b0, _ | ⟨b1, t⟩⟩
    · simp
    · simp
    · have hlt : (b0 :: b1 :: t).length < (u16FromLeBytes b0 b1).toNat + 2 := by
        by_contra hge
        simp only [frameSize, if_neg hge] at hrest
        cases hrest
      have := (u16FromLeBytes b0 b1).toNat_lt
      omega

/-- **Stream reassembly**: however a byte stream is cut into reads, the reader gets the
frames and the rest that one call on the whole stream gives; nothing is lost, every frame
has the length its prefix declares, and no complete frame stays in the buffer. -/
theorem stream_reassembly (B : Bytes) (chunks : List Bytes) (hB : chunks.flatten = B) :
    readAll chunks = splitFrames B ∧
      (splitFrames B).1.flatten ++ (splitFrames B).2 = B ∧
      (∀ f ∈ (splitFrames B).1, IsFrame f) ∧
      (∀ f c, (splitFrames B).2 = f ++ c → ¬ IsFrame f) ∧
      (splitFrames B).2.length < 65537 := by
  refine ⟨?_, ?_, fun f hf => isFrame_of_mem_splitFrames hf, splitFrames_rest B⟩
  · rw [readAll_eq, hB]
  · rw [splitFrames_eq]; exact wireFraming.extract_flatten B

/-- A frame of six bytes arriving in three reads, with one byte of the next behind it. -/
theorem stream_reassembly_three_reads :
    readAll [[4], [0, 1, 0, 7], [8, 1]] = splitFrames [4, 0, 1, 0, 7, 8, 1] ∧
      splitFrames [4, 0, 1, 0, 7, 8, 1] = ([[4, 0, 1, 0, 7, 8]], [1]) :=
  ⟨(stream_reassembly [4, 0, 1, 0, 7, 8, 1] [[4], [0, 1, 0, 7], [8, 1]] (by decide)).1,
    by decide⟩

/-! ### One frame -/

/-- The length that the first two bytes declare is that of the rest. -/
def DeclaresLength (f : Bytes) : Prop :=
  ∃ b0 b1 t, f = b0 :: b1 :: t ∧ b0.toNat + 256 * b1.toNat + 2 = f.length

lemma declaresLength_iff_isFrame {f : Bytes} : DeclaresLength f ↔ IsFrame f := by
  unfold DeclaresLength IsFrame
  simp only [u16FromLeBytes_toNat]
  constructor
  · rintro ⟨b0, b1, t, rfl, hlen⟩
    exact ⟨b0, b1, t, rfl, by omega⟩
  · rintro ⟨b0, b1, t, rfl, hlen⟩
    exact ⟨b0, b1, t, rfl, by omega⟩

lemma declaresLength_cons {b0 b1 : UInt8} {t : Bytes} :
    DeclaresLength (b0 :: b1 :: t) ↔
      (u16FromLeBytes b0 b1).toNat + 2 = (b0 :: b1 :: t).length := by
  rw [u16FromLeBytes_toNat]
  constructor
  · rintro ⟨c0, c1, u, he, hlen⟩
    cases he
    exact hlen
  · intro hlen
    exact ⟨b0, b1, t, rfl, hlen⟩

/-- What `decode_frame` does, in the order of its checks. -/
inductive Decoded (f : Bytes) (maxPayload : ℕ) : Except DecodeError DecodedPacket → Prop
  | tooShort (h : f.length < 4) : Decoded f maxPayload (.error .frameTooShort)
  | invalid (hlen : 4 ≤ f.length) (h : ¬ DeclaresLength f) :
      Decoded f maxPayload (.error .invalidLength)
  | tooLarge (hlen : 4 ≤ f.length) (hdecl : DeclaresLength f)
      (h : maxPayload < f.length - 4) : Decoded f maxPayload (.error .payloadTooLarge)
  | ok {p : DecodedPacket} (hcode : f = encodeFrame p.header.opcode p.payload)
      (hdecl : DeclaresLength f) (hmax : p.payload.length ≤ maxPayload)
      (hheader : p.header.length.toNat = 2 + p.payload.length) :
      Decoded f maxPayload (.ok p)

lemma u16ToLeBytes_fromLe (lo hi : UInt8) : u16ToLeBytes (u16FromLeBytes lo hi) = [lo, hi] := by
  have hlo := lo.toNat_lt
  have hhi := hi.toNat_lt
  rw [u16ToLeBytes, u16FromLeBytes_toNat]
  have h0 : UInt8.ofNat (lo.toNat + 256 * hi.toNat) = lo := by
    apply UInt8.toNat_inj.mp
    rw [UInt8.toNat_ofNat']
    omega
  have h1 : UInt8.ofNat ((lo.toNat + 256 * hi.toNat) / 256) = hi := by
    apply UInt8.toNat_inj.mp
    rw [UInt8.toNat_ofNat']
    omega
  rw [h0, h1]

/-- The four bytes in front of a payload, put back. -/
lemma encodeFrame_of_declares {l0 l1 o0 o1 : UInt8} {payload : Bytes}
    (h : (u16FromLeBytes l0 l1).toNat = 2 + payload.length) :
    encodeFrame (u16FromLeBytes o0 o1) payload = l0 :: l1 :: o0 :: o1 :: payload := by
  have hlength : UInt16.ofNat (2 + payload.length) = u16FromLeBytes l0 l1 := by
    apply UInt16.toNat_inj.mp
    have hlt := (u16FromLeBytes l0 l1).toNat_lt
    rw [UInt16.toNat_ofNat', h]
    omega
  rw [encodeFrame, hlength, u16ToLeBytes_fromLe, u16ToLeBytes_fromLe]
  rfl

lemma decoded_decodeFrame (f : Bytes) (maxPayload : ℕ) :
    Decoded f maxPayload (decodeFrame f maxPayload) := by
  unfold decodeFrame
  split
  · next l0 l1 o0 o1 payload =>
    have hfour : 4 ≤ (l0 :: l1 :: o0 :: o1 :: payload).length := by simp
    have hsize : (l0 :: l1 :: o0 :: o1 :: payload).length = payload.length + 4 := rfl
    have hdecl : DeclaresLength (l0 :: l1 :: o0 :: o1 :: payload) ↔
        (u16FromLeBytes l0 l1).toNat + 2 = (l0 :: l1 :: o0 :: o1 :: payload).length :=
      declaresLength_cons
    dsimp only
    split
    · next hne => exact .invalid hfour fun h => hne (hdecl.mp h)
    · next heq =>
      have hlength := not_not.mp heq
      split
      · next hlarge => exact .tooLarge hfour (hdecl.mpr hlength) (by omega)
      · next hfits =>
        have hheader : (u16FromLeBytes l0 l1).toNat = 2 + payload.length := by omega
        have hmax : payload.length ≤ maxPayload := by omega
        exact .ok (p := ⟨⟨_, u16FromLeBytes o0 o1⟩, payload⟩)
          (encodeFrame_of_declares hheader).symm (hdecl.mpr hlength) hmax hheader
  · next hshort =>
    refine .tooShort ?_
    by_contra hlen
    obtain ⟨l0, l1, o0, o1, payload, rfl⟩ : ∃ l0 l1 o0 o1 payload,
        f = l0 :: l1 :: o0 :: o1 :: payload := by
      rcases f with _ | ⟨l0, _ | ⟨l1, _ | ⟨o0, _ | ⟨o1, payload⟩⟩⟩⟩
      · simp at hlen
      · simp at hlen
      · simp at hlen
      · simp at hlen
      · exact ⟨l0, l1, o0, o1, payload, rfl⟩
    exact hshort l0 l1 o0 o1 payload rfl

lemma decodeFrame_eq_ok_iff {f : Bytes} {maxPayload : ℕ} {p : DecodedPacket} :
    decodeFrame f maxPayload = .ok p ↔
      f = encodeFrame p.header.opcode p.payload ∧ p.payload.length ≤ min maxPayload 65533 ∧
        p.header.length.toNat = 2 + p.payload.length := by
  constructor
  · intro h
    have hdecoded := decoded_decodeFrame f maxPayload
    rw [h] at hdecoded
    cases hdecoded with
    | ok hcode hdecl hmax hheader =>
      have hlt := p.header.length.toNat_lt
      exact ⟨hcode, by omega, hheader⟩
  · rintro ⟨hcode, hle, hheader⟩
    have hlength : UInt16.ofNat (2 + p.payload.length) = p.header.length := by
      apply UInt16.toNat_inj.mp
      rw [UInt16.toNat_ofNat', hheader]
      omega
    rw [hcode, decodeFrame_encodeFrame _ _ (by omega), if_neg (by omega), hlength]

/-- **The codec of one frame.** Decoding gives a packet exactly where encoding it gives the frame
back and the payload is within the limit and its length field; where it fails, the first check that
fails says how. -/
theorem decodeFrame_exact (f : Bytes) (maxPayload : ℕ) :
    (∀ p, decodeFrame f maxPayload = .ok p ↔
      f = encodeFrame p.header.opcode p.payload ∧ p.payload.length ≤ min maxPayload 65533 ∧
        p.header.length.toNat = 2 + p.payload.length) ∧
    (decodeFrame f maxPayload = .error .frameTooShort ↔ f.length < 4) ∧
    (decodeFrame f maxPayload = .error .invalidLength ↔ 4 ≤ f.length ∧ ¬ DeclaresLength f) ∧
    (decodeFrame f maxPayload = .error .payloadTooLarge ↔
      4 ≤ f.length ∧ DeclaresLength f ∧ maxPayload < f.length - 4) ∧
    (∀ buffer, f ∈ (splitFrames buffer).1 →
      decodeFrame f maxPayload ≠ .error .invalidLength) ∧
    ∀ p, decodeFrame f maxPayload = .ok p → encodeFrame p.header.opcode p.payload = f := by
  have hsplit : ∀ buffer, f ∈ (splitFrames buffer).1 → DeclaresLength f := fun buffer hf =>
    declaresLength_iff_isFrame.mpr (isFrame_of_mem_splitFrames hf)
  refine ⟨fun p => decodeFrame_eq_ok_iff, ?_⟩
  have hdecoded := decoded_decodeFrame f maxPayload
  generalize decodeFrame f maxPayload = result at hdecoded ⊢
  cases hdecoded with
  | tooShort h =>
    have hnot : ¬ 4 ≤ f.length := by omega
    simp [h, hnot]
  | invalid hlen h =>
    have hnot : ¬ f.length < 4 := by omega
    refine ⟨by simp [hnot], by simp [hlen, h], by simp [h], fun buffer hf => ?_, by simp⟩
    exact absurd (hsplit buffer hf) h
  | tooLarge hlen hdecl h =>
    have hnot : ¬ f.length < 4 := by omega
    simp [hlen, hnot, hdecl, h]
  | @ok p hcode hdecl hmax hheader =>
    have hlen : f.length = 4 + p.payload.length := by rw [hcode, encodeFrame_length]
    have hnot : ¬ f.length < 4 := by omega
    have hfits : ¬ maxPayload < f.length - 4 := by omega
    refine ⟨by simp [hnot], by simp [hdecl], by simp [hfits], by simp, fun p' he => ?_⟩
    cases he
    exact hcode.symm

end HelbreathBackend.Frame
