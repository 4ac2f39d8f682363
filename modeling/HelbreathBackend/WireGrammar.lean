import HelbreathBackend.WireStream

/-!
What the decompressor accepts.

A byte stream is read from left to right as tokens: a literal byte other than `0xFF`, or `0xFF`, a
count of at least one and a byte. The decompressor gives what the tokens stand for, or stops at the
first one that cannot be read or goes over the limit. No stream that stands for a payload is
shorter than what the compressor makes of it.
-/

namespace HelbreathBackend.Wire

open HelbreathBackend.Lib HelbreathBackend.Frame

variable {m : ℕ} {s out : Bytes}

/-! ### Tokens -/

/-- An escape byte with less than two bytes behind it, or with the count zero. -/
def IllFormed (s : Bytes) : Prop := ∃ t, s = 0xFF :: t ∧ (t.length < 2 ∨ ∃ u, t = 0 :: u)

lemma write_run (n : ℕ) (a : UInt8) : byteCode.write (.run n a) = [0xFF, UInt8.ofNat n, a] := rfl

lemma valid_run {n : ℕ} {a : UInt8} : byteCode.Valid (.run n a) ↔ 0 < n ∧ n ≤ 255 := Iff.rfl

lemma valid_lit {a : UInt8} : byteCode.Valid (.lit a) ↔ a ≠ 0xFF := Iff.rfl

/-- Reading gets stuck at ill-formed tokens and nowhere else. -/
lemma stuck_iff : byteCode.Stuck s ↔ IllFormed s := by
  constructor
  · rintro ⟨hne, hstuck⟩
    rcases s with _ | ⟨b, t⟩
    · exact absurd rfl hne
    by_cases hb : b = 0xFF
    · subst hb
      refine ⟨t, rfl, ?_⟩
      rcases t with _ | ⟨count, _ | ⟨value, rest⟩⟩
      · simp
      · simp
      · right
        by_contra hcount
        have hpos : 0 < count.toNat := by
          by_contra hzero
          have : count = 0 := UInt8.toNat_inj.mp (by simp; omega)
          exact hcount ⟨value :: rest, by rw [this]⟩
        have hle : count.toNat ≤ 255 := Nat.le_of_lt_succ count.toNat_lt
        refine hstuck (.run count.toNat value) rest (valid_run.mpr ⟨hpos, hle⟩) ?_
        rw [write_run, UInt8.ofNat_toNat]
        rfl
    · exact absurd rfl (hstuck (.lit b) t (valid_lit.mpr hb))
  · rintro ⟨t, rfl, ht⟩
    refine ⟨List.cons_ne_nil _ _, fun tok rest htok he => ?_⟩
    cases tok with
    | lit a =>
      have ha := (List.cons.inj he).1
      exact valid_lit.mp htok ha.symm
    | run n a =>
      obtain ⟨hpos, hcap⟩ := valid_run.mp htok
      obtain rfl : t = UInt8.ofNat n :: a :: rest := (List.cons.inj he).2
      rcases ht with hlen | ⟨u, hu⟩
      · rw [List.length_cons, List.length_cons] at hlen
        omega
      · have hzero : (UInt8.ofNat n).toNat = 0 := by rw [(List.cons.inj hu).1]; rfl
        rw [UInt8.toNat_ofNat'] at hzero
        omega

/-! ### The loop, token by token -/

lemma decompressLoop_illFormed (h : IllFormed s) (m : ℕ) (out : Bytes) :
    decompressLoop m s out = .error .malformedCompressionStream := by
  obtain ⟨t, rfl, ht⟩ := h
  rcases t with _ | ⟨count, _ | ⟨value, rest⟩⟩
  · simp [decompressLoop]
  · simp [decompressLoop]
  · rcases ht with hlen | ⟨u, hu⟩
    · rw [List.length_cons, List.length_cons] at hlen
      omega
    · obtain rfl := (List.cons.inj hu).1
      simp [decompressLoop]

lemma decompressLoop_token {t : Token UInt8} (ht : byteCode.Valid t) (rest : Bytes)
    (hsize : m < usizeMax ∨ out.length + (EscapeCode.expand t).length ≤ usizeMax) :
    decompressLoop m (byteCode.write t ++ rest) out =
      if m < out.length + (EscapeCode.expand t).length then .error .decompressedPayloadTooLarge
      else decompressLoop m rest (out ++ EscapeCode.expand t) := by
  cases t with
  | lit a => exact decompressLoop_lit m (valid_lit.mp ht) rest out
  | run n a =>
    obtain ⟨hpos, hcap⟩ := valid_run.mp ht
    have hlen : (EscapeCode.expand (.run n a)).length = n := List.length_replicate
    rw [hlen] at hsize ⊢
    exact decompressLoop_run m hpos hcap a rest out hsize

lemma decompressLoop_tokens {ts : List (Token UInt8)} (hv : ∀ t ∈ ts, byteCode.Valid t)
    (rest : Bytes) (hm : out.length + (EscapeCode.expandAll ts).length ≤ m)
    (hsize : m < usizeMax ∨ out.length + (EscapeCode.expandAll ts).length ≤ usizeMax) :
    decompressLoop m (byteCode.writeAll ts ++ rest) out =
      decompressLoop m rest (out ++ EscapeCode.expandAll ts) := by
  induction ts generalizing out with
  | nil => simp
  | cons t ts ih =>
    have hexpand : (EscapeCode.expandAll (t :: ts)).length =
        (EscapeCode.expand t).length + (EscapeCode.expandAll ts).length := by
      rw [EscapeCode.expandAll_cons, List.length_append]
    have hout : (out ++ EscapeCode.expand t).length = out.length + (EscapeCode.expand t).length :=
      List.length_append
    rw [EscapeCode.writeAll_cons, List.append_assoc,
      decompressLoop_token (hv t List.mem_cons_self) _ (by omega), if_neg (by omega),
      ih (fun u hu => hv u (List.mem_cons_of_mem _ hu)) (by omega) (by omega),
      EscapeCode.expandAll_cons, List.append_assoc]

/-! ### The loop, as the source counts

The source goes through the payload with an index, pushing one byte at a time. -/

/-- One pass of the loop of `decompress_wire_payload`: what the buffer holds after each push, and
how the pass ends. -/
def decompressRound (payload : Bytes) (maxOutput idx : ℕ) (h : idx < payload.length) (out : Bytes) :
    List Bytes × Except WireCodecError (ℕ × Bytes) :=
  if payload[idx] ≠ 0xFF then
    let out := out ++ [payload[idx]]
    ([out], if maxOutput < out.length then .error .decompressedPayloadTooLarge
      else .ok (idx + 1, out))
  else if hlen : payload.length ≤ idx + 2 then ([], .error .malformedCompressionStream)
  else
    let count := payload[idx + 1].toNat
    let value := payload[idx + 2]
    if count = 0 then ([], .error .malformedCompressionStream)
    else if maxOutput < saturatingAdd out.length count then
      ([], .error .decompressedPayloadTooLarge)
    else
      ((List.range count).map fun pushed => out ++ List.replicate (pushed + 1) value,
        .ok (idx + 3, out ++ List.replicate count value))

/-- The loop, with everything the buffer has held; `none` when the fuel is not enough. -/
def decompressWhile (payload : Bytes) (maxOutput : ℕ) :
    ℕ → ℕ → Bytes → List Bytes → Option (List Bytes × Except WireCodecError Bytes)
  | 0, _, _, _ => none
  | fuel + 1, idx, out, held =>
    if h : idx < payload.length then
      match decompressRound payload maxOutput idx h out with
      | (pushed, .error err) => some (held ++ pushed, .error err)
      | (pushed, .ok (idx', out')) =>
        decompressWhile payload maxOutput fuel idx' out' (held ++ pushed)
    else some (held, .ok out)

/-- What one pass does, next to the loop over the rest of the payload: it ends the loop, or takes
one or three bytes off the rest; and it pushes one byte over the limit at most. -/
structure Passes (m : ℕ) (payload : Bytes) (idx : ℕ) (out : Bytes) (pushed : List Bytes)
    (result : Except WireCodecError (ℕ × Bytes)) : Prop where
  held : ∀ b ∈ pushed, b.length ≤ m + 1
  stops : ∀ err, result = .error err →
    decompressLoop m (payload.drop idx) out = .error err
  goes : ∀ idx' out', result = .ok (idx', out') → idx < idx' ∧ idx' ≤ payload.length ∧
    out'.length ≤ m ∧ out'.length ≤ out.length + 255 * (idx' - idx) ∧
    decompressLoop m (payload.drop idx) out = decompressLoop m (payload.drop idx') out'

lemma passes_of_error {payload : Bytes} {idx : ℕ} {pushed : List Bytes} {err : WireCodecError}
    (hheld : ∀ b ∈ pushed, b.length ≤ m + 1)
    (h : decompressLoop m (payload.drop idx) out = .error err) :
    Passes m payload idx out pushed (.error err) :=
  ⟨hheld, fun err' he => by cases he; exact h, fun _ _ he => by cases he⟩

lemma passes_of_ok {payload out' : Bytes} {idx idx' : ℕ} {pushed : List Bytes}
    (hheld : ∀ b ∈ pushed, b.length ≤ m + 1) (hlt : idx < idx') (hle : idx' ≤ payload.length)
    (hout : out'.length ≤ m) (hgrow : out'.length ≤ out.length + 255 * (idx' - idx))
    (h : decompressLoop m (payload.drop idx) out = decompressLoop m (payload.drop idx') out') :
    Passes m payload idx out pushed (.ok (idx', out')) :=
  ⟨hheld, fun _ he => (by cases he), fun _ _ he => by cases he; exact ⟨hlt, hle, hout, hgrow, h⟩⟩

lemma passes_round {payload : Bytes} {idx : ℕ} (h : idx < payload.length) (hm : out.length ≤ m)
    (hsize : m < usizeMax ∨ out.length + 255 ≤ usizeMax) :
    Passes m payload idx out (decompressRound payload m idx h out).1
      (decompressRound payload m idx h out).2 := by
  have hdrop : payload.drop idx = payload[idx] :: payload.drop (idx + 1) :=
    List.drop_eq_getElem_cons h
  have hnone : ∀ b ∈ ([] : List Bytes), b.length ≤ m + 1 := fun _ hb => absurd hb List.not_mem_nil
  unfold decompressRound
  split
  · next hlit =>
    have hloop := decompressLoop_lit m hlit (payload.drop (idx + 1)) out
    rw [← hdrop] at hloop
    have hlen : (out ++ [payload[idx]]).length = out.length + 1 := by simp
    have hheld : ∀ b ∈ [out ++ [payload[idx]]], b.length ≤ m + 1 := by
      intro b hb
      rw [List.mem_singleton.mp hb, hlen]
      omega
    dsimp only
    rw [hlen]
    split
    · next hover =>
      rw [if_pos hover] at hloop
      exact passes_of_error hheld hloop
    · next hfits =>
      rw [if_neg hfits] at hloop
      exact passes_of_ok hheld (by omega) (by omega) (by omega) (by omega) hloop
  · next hesc =>
    have hesc := not_not.mp hesc
    rw [hesc] at hdrop
    split
    · next hshort =>
      have hill : IllFormed (payload.drop idx) := by
        refine ⟨_, hdrop, .inl ?_⟩
        rw [List.length_drop]
        omega
      exact passes_of_error hnone (decompressLoop_illFormed hill m out)
    · next hlen =>
      have hrest : payload.drop (idx + 1) =
          payload[idx + 1] :: payload[idx + 2] :: payload.drop (idx + 3) := by
        rw [List.drop_eq_getElem_cons (by omega), List.drop_eq_getElem_cons (by omega)]
      rw [hrest] at hdrop
      dsimp only
      split
      · next hzero =>
        have hcount : payload[idx + 1] = 0 := UInt8.toNat_inj.mp hzero
        have hill : IllFormed (payload.drop idx) := ⟨_, hdrop, .inr ⟨_, by rw [hcount]⟩⟩
        exact passes_of_error hnone (decompressLoop_illFormed hill m out)
      · next hpos =>
        have hcap : payload[idx + 1].toNat ≤ 255 := Nat.le_of_lt_succ payload[idx + 1].toNat_lt
        have hfit : m < usizeMax ∨ out.length + payload[idx + 1].toNat ≤ usizeMax := by omega
        have hloop := decompressLoop_run m (Nat.pos_of_ne_zero hpos) hcap payload[idx + 2]
          (payload.drop (idx + 3)) out hfit
        rw [UInt8.ofNat_toNat, ← hdrop] at hloop
        have hsat := lt_saturatingAdd_iff hfit
        split
        · next hover =>
          rw [if_pos (hsat.mp hover)] at hloop
          exact passes_of_error hnone hloop
        · next hfits =>
          rw [hsat] at hfits
          rw [if_neg hfits] at hloop
          have hlen : (out ++ List.replicate payload[idx + 1].toNat payload[idx + 2]).length =
              out.length + payload[idx + 1].toNat := by
            rw [List.length_append, List.length_replicate]
          refine passes_of_ok ?_ (by omega) (by omega) (by omega) (by omega) hloop
          intro b hb
          obtain ⟨pushed, hlt, rfl⟩ := List.mem_map.mp hb
          have hlt := List.mem_range.mp hlt
          rw [List.length_append, List.length_replicate]
          omega

/-- **The loop**: with more fuel than bytes it ends, with what decompressing the rest gives, and
what the buffer holds is never more than one byte over the limit. -/
lemma decompressWhile_eq (payload : Bytes) (fuel idx : ℕ) (held : List Bytes)
    (hfuel : payload.length - idx < fuel) (hidx : idx ≤ payload.length) (hm : out.length ≤ m)
    (hsize : m < usizeMax ∨ out.length + 255 * (payload.length - idx) ≤ usizeMax) :
    ∃ pushed, decompressWhile payload m fuel idx out held =
        some (held ++ pushed, decompressLoop m (payload.drop idx) out) ∧
      ∀ b ∈ pushed, b.length ≤ m + 1 := by
  induction fuel generalizing idx out held with
  | zero => omega
  | succ fuel ih =>
    rw [decompressWhile]
    split
    · next h =>
      have hpasses := passes_round h hm (m := m) (by omega)
      rcases hround : decompressRound payload m idx h out with ⟨pushed, err | ⟨idx', out'⟩⟩
      · rw [hround] at hpasses
        exact ⟨pushed, by rw [hpasses.stops err rfl], hpasses.held⟩
      · rw [hround] at hpasses
        obtain ⟨hlt, hle, hout, hgrow, hloop⟩ := hpasses.goes idx' out' rfl
        obtain ⟨more, hwhile, hmore⟩ := ih idx' (held ++ pushed) (by omega) hle hout (by omega)
        refine ⟨pushed ++ more, ?_, fun b hb => ?_⟩
        · dsimp only
          rw [hwhile, hloop, List.append_assoc]
        · rcases List.mem_append.mp hb with hb | hb
          · exact hpasses.held b hb
          · exact hmore b hb
    · next h =>
      have hnil : payload.drop idx = [] := List.drop_eq_nil_of_le (by omega)
      refine ⟨[], ?_, fun b hb => absurd hb List.not_mem_nil⟩
      rw [hnil, List.append_nil, decompressLoop]

/-! ### The grammar -/

/-- The length of what the tokens at the front of a stream stand for never makes the sum of the
source saturate below the limit. -/
lemma token_sizes {ts : List (Token UInt8)} (us : List (Token UInt8)) {rest : Bytes}
    (hv : ∀ t ∈ ts ++ us, byteCode.Valid t) (hs : s = byteCode.writeAll (ts ++ us) ++ rest)
    (hsize : m < usizeMax ∨ 255 * s.length ≤ usizeMax) :
    m < usizeMax ∨
      (EscapeCode.expandAll ts).length + (EscapeCode.expandAll us).length ≤ usizeMax := by
  have hle : (EscapeCode.expandAll (ts ++ us)).length ≤
      255 * (byteCode.writeAll (ts ++ us)).length := byteCode.length_expandAll_le hv
  rw [EscapeCode.expandAll_append, List.length_append] at hle
  rw [hs, List.length_append] at hsize
  omega

lemma decompress_tokens {ts : List (Token UInt8)} (hv : ∀ t ∈ ts, byteCode.Valid t) (rest : Bytes)
    (hs : s = byteCode.writeAll ts ++ rest) (hm : (EscapeCode.expandAll ts).length ≤ m)
    (hsize : m < usizeMax ∨ 255 * s.length ≤ usizeMax) :
    decompressWirePayload s m = decompressLoop m rest (EscapeCode.expandAll ts) := by
  have hsum := token_sizes [] (by simpa using hv) (by simpa using hs) hsize
  rw [decompressWirePayload, hs, decompressLoop_tokens hv rest (by simpa using hm)
    (by simpa using hsum), List.nil_append]

lemma decompress_all {ts : List (Token UInt8)} (hv : ∀ t ∈ ts, byteCode.Valid t)
    (hs : s = byteCode.writeAll ts) (hm : (EscapeCode.expandAll ts).length ≤ m)
    (hsize : m < usizeMax ∨ 255 * s.length ≤ usizeMax) :
    decompressWirePayload s m = .ok (EscapeCode.expandAll ts) := by
  rw [decompress_tokens hv [] (by simpa using hs) hm hsize, decompressLoop]

lemma decompress_illFormed {ts : List (Token UInt8)} {rest : Bytes}
    (hv : ∀ t ∈ ts, byteCode.Valid t) (hs : s = byteCode.writeAll ts ++ rest)
    (hrest : IllFormed rest) (hm : (EscapeCode.expandAll ts).length ≤ m)
    (hsize : m < usizeMax ∨ 255 * s.length ≤ usizeMax) :
    decompressWirePayload s m = .error .malformedCompressionStream := by
  rw [decompress_tokens hv rest hs hm hsize, decompressLoop_illFormed hrest]

lemma decompress_over {ts : List (Token UInt8)} {t : Token UInt8} {rest : Bytes}
    (hv : ∀ u ∈ ts, byteCode.Valid u) (ht : byteCode.Valid t)
    (hs : s = byteCode.writeAll ts ++ (byteCode.write t ++ rest))
    (hm : (EscapeCode.expandAll ts).length ≤ m)
    (hover : m < (EscapeCode.expandAll ts).length + (EscapeCode.expand t).length)
    (hsize : m < usizeMax ∨ 255 * s.length ≤ usizeMax) :
    decompressWirePayload s m = .error .decompressedPayloadTooLarge := by
  have hvalid : ∀ u ∈ ts ++ [t], byteCode.Valid u := by
    intro u hu
    rcases List.mem_append.mp hu with hu | hu
    · exact hv u hu
    · rw [List.mem_singleton.mp hu]
      exact ht
  have hall : s = byteCode.writeAll (ts ++ [t]) ++ rest := by
    rw [hs, EscapeCode.writeAll_append, EscapeCode.writeAll_cons, EscapeCode.writeAll_nil,
      List.append_nil, List.append_assoc]
  have hsum := token_sizes [t] hvalid hall hsize
  rw [EscapeCode.expandAll_cons, EscapeCode.expandAll_nil, List.append_nil] at hsum
  rw [decompress_tokens hv _ hs hm hsize, decompressLoop_token ht rest hsum, if_pos hover]

/-- How reading a stream from left to right ends: all of it is tokens within the limit, or an
ill-formed token comes first, or one that goes over the limit. -/
inductive Read (s : Bytes) (m : ℕ) : Except WireCodecError Bytes → Prop
  | all {ts : List (Token UInt8)} (hv : ∀ t ∈ ts, byteCode.Valid t) (hs : s = byteCode.writeAll ts)
      (hm : (EscapeCode.expandAll ts).length ≤ m) : Read s m (.ok (EscapeCode.expandAll ts))
  | illFormed {ts : List (Token UInt8)} {rest : Bytes} (hv : ∀ t ∈ ts, byteCode.Valid t)
      (hs : s = byteCode.writeAll ts ++ rest) (hm : (EscapeCode.expandAll ts).length ≤ m)
      (hrest : IllFormed rest) : Read s m (.error .malformedCompressionStream)
  | tooLarge {ts : List (Token UInt8)} {t : Token UInt8} {rest : Bytes}
      (hv : ∀ u ∈ ts, byteCode.Valid u) (ht : byteCode.Valid t)
      (hs : s = byteCode.writeAll ts ++ (byteCode.write t ++ rest))
      (hm : (EscapeCode.expandAll ts).length ≤ m)
      (hover : m < (EscapeCode.expandAll ts).length + (EscapeCode.expand t).length) :
      Read s m (.error .decompressedPayloadTooLarge)

lemma read_decompress (hsize : m < usizeMax ∨ 255 * s.length ≤ usizeMax) :
    Read s m (decompressWirePayload s m) := by
  obtain ⟨ts, hv, hm, hread⟩ := byteCode.exists_reading m s (Nat.zero_le m)
  rw [Nat.zero_add] at hm hread
  rcases hread with hs | ⟨rest, hs, hstuck⟩ | ⟨t, rest, hs, ht, hover⟩
  · rw [decompress_all hv hs hm hsize]
    exact .all hv hs hm
  · have hrest := stuck_iff.mp hstuck
    rw [decompress_illFormed hv hs hrest hm hsize]
    exact .illFormed hv hs hm hrest
  · rw [decompress_over hv ht hs hm hover hsize]
    exact .tooLarge hv ht hs hm hover

lemma decompress_eq_ok_iff {p : Bytes} (hsize : m < usizeMax ∨ 255 * s.length ≤ usizeMax) :
    decompressWirePayload s m = .ok p ↔
      ∃ ts, (∀ t ∈ ts, byteCode.Valid t) ∧ s = byteCode.writeAll ts ∧
        p = EscapeCode.expandAll ts ∧ p.length ≤ m := by
  constructor
  · intro h
    have hread := read_decompress hsize
    rw [h] at hread
    cases hread with
    | all hv hs hm => exact ⟨_, hv, hs, rfl, hm⟩
  · rintro ⟨ts, hv, hs, rfl, hle⟩
    exact decompress_all hv hs hle hsize

/-- **The decompressor reads its grammar.** It succeeds exactly on the streams that are all tokens
and stand for at most `m` bytes, and fails at the first token that is ill-formed or goes over the
limit. The loop of the source ends on every stream, with never more than `m + 1` bytes in its
buffer. Only for the largest `usize` as limit does the length of the stream matter, where the sum
of the source would saturate: it never does on the payload of a frame. -/
theorem decompress_exact (s : Bytes) (m : ℕ)
    (hsize : m < usizeMax ∨ 255 * s.length ≤ usizeMax) :
    (∀ p, decompressWirePayload s m = .ok p ↔
      ∃ ts, (∀ t ∈ ts, byteCode.Valid t) ∧ s = byteCode.writeAll ts ∧
        p = EscapeCode.expandAll ts ∧ p.length ≤ m) ∧
    (decompressWirePayload s m = .error .malformedCompressionStream ↔
      ∃ ts rest, (∀ t ∈ ts, byteCode.Valid t) ∧ s = byteCode.writeAll ts ++ rest ∧
        (EscapeCode.expandAll ts).length ≤ m ∧ IllFormed rest) ∧
    (decompressWirePayload s m = .error .decompressedPayloadTooLarge ↔
      ∃ ts t rest, (∀ u ∈ ts, byteCode.Valid u) ∧ byteCode.Valid t ∧
        s = byteCode.writeAll ts ++ (byteCode.write t ++ rest) ∧
        (EscapeCode.expandAll ts).length ≤ m ∧
        m < (EscapeCode.expandAll ts).length + (EscapeCode.expand t).length) ∧
    ∀ fuel, s.length < fuel → ∃ held,
      decompressWhile s m fuel 0 [] [] = some (held, decompressWirePayload s m) ∧
        ∀ b ∈ held, b.length ≤ m + 1 := by
  refine ⟨fun p => decompress_eq_ok_iff hsize, ⟨fun h => ?_, ?_⟩, ⟨fun h => ?_, ?_⟩,
    fun fuel hfuel => ?_⟩
  · have hread := read_decompress hsize
    rw [h] at hread
    cases hread with
    | illFormed hv hs hm hrest => exact ⟨_, _, hv, hs, hm, hrest⟩
  · rintro ⟨ts, rest, hv, hs, hm, hrest⟩
    exact decompress_illFormed hv hs hrest hm hsize
  · have hread := read_decompress hsize
    rw [h] at hread
    cases hread with
    | tooLarge hv ht hs hm hover => exact ⟨_, _, _, hv, ht, hs, hm, hover⟩
  · rintro ⟨ts, t, rest, hv, ht, hs, hm, hover⟩
    exact decompress_over hv ht hs hm hover hsize
  · have hempty : ([] : Bytes).length ≤ m := Nat.zero_le m
    exact decompressWhile_eq s fuel 0 [] hfuel (Nat.zero_le _) hempty (by simpa using hsize)

/-- A literal, a run of escape bytes and a truncated run. -/
theorem decompress_exact_truncated :
    (30 < usizeMax ∨ 255 * ([7, 0xFF, 2, 0xFF, 0xFF, 9] : Bytes).length ≤ usizeMax) ∧
      decompressWirePayload [7, 0xFF, 2, 0xFF, 0xFF, 9] 30 = .error .malformedCompressionStream :=
  ⟨by decide, (decompress_exact [7, 0xFF, 2, 0xFF, 0xFF, 9] 30 (by decide)).2.1.mpr
    ⟨[.lit 7, .run 2 0xFF], [0xFF, 9], by
      simp only [List.mem_cons, List.not_mem_nil, or_false, forall_eq_or_imp, forall_eq, valid_lit,
        valid_run]
      decide, rfl, by decide, [9], rfl, by simp⟩⟩

/-! ### No shorter stream -/

/-- Whatever the limit, what comes out is what some tokens stand for. -/
lemma tokens_of_decompressLoop {p : Bytes} (h : decompressLoop m s out = .ok p) :
    ∃ ts, (∀ t ∈ ts, byteCode.Valid t) ∧ s = byteCode.writeAll ts ∧
      p = out ++ EscapeCode.expandAll ts := by
  fun_induction decompressLoop m s out with
  | case1 out =>
    cases h
    exact ⟨[], by simp, rfl, by simp⟩
  | case2 => cases h
  | case3 b t out hb hfits ih =>
    obtain ⟨ts, hv, rfl, rfl⟩ := ih h
    refine ⟨.lit b :: ts, ?_, rfl, ?_⟩
    · rintro u (_ | ⟨_, hu⟩)
      · exact valid_lit.mpr hb
      · exact hv u hu
    · rw [EscapeCode.expandAll_cons, List.append_assoc]
      rfl
  | case4 => cases h
  | case5 => cases h
  | case6 b out hb count value rest hpos hfits ih =>
    obtain ⟨ts, hv, rfl, rfl⟩ := ih h
    obtain rfl := not_not.mp hb
    have hcap : count.toNat ≤ 255 := Nat.le_of_lt_succ count.toNat_lt
    refine ⟨.run count.toNat value :: ts, ?_, ?_, ?_⟩
    · rintro u (_ | ⟨_, hu⟩)
      · exact valid_run.mpr ⟨Nat.pos_of_ne_zero hpos, hcap⟩
      · exact hv u hu
    · rw [EscapeCode.writeAll_cons, write_run, UInt8.ofNat_toNat]
      rfl
    · rw [EscapeCode.expandAll_cons, List.append_assoc]
      rfl
  | case7 => cases h

/-- No tokens for a payload take fewer bytes than the compressor does. -/
lemma length_compress_le {ts : List (Token UInt8)} (hv : ∀ t ∈ ts, byteCode.Valid t) :
    (compressWirePayload (EscapeCode.expandAll ts)).length ≤ (byteCode.writeAll ts).length := by
  rw [compress_eq, byteCode.length_write_tokens (by decide) (by decide)]
  exact byteCode.cost_expandAll_le (by decide) (by decide) (by decide) hv

/-- **The compressor is optimal**: no stream that decompresses to a payload is shorter than its
compression, which without an escape byte is no longer than the payload, and which is such a stream
itself. -/
theorem compress_optimal (p : Bytes) :
    (∀ s m, decompressWirePayload s m = .ok p → (compressWirePayload p).length ≤ s.length) ∧
      (0xFF ∉ p → (compressWirePayload p).length ≤ p.length) ∧
      ∀ m, p.length ≤ m → p.length ≤ usizeMax →
        decompressWirePayload (compressWirePayload p) m = .ok p := by
  refine ⟨?_, ?_, fun m hm hsize => ?_⟩
  · intro s m h
    obtain ⟨ts, hv, rfl, rfl⟩ := tokens_of_decompressLoop h
    exact length_compress_le hv
  · intro hp
    have hv : ∀ t ∈ p.map Token.lit, byteCode.Valid t := by
      intro t ht
      obtain ⟨b, hb, rfl⟩ := List.mem_map.mp ht
      exact valid_lit.mpr fun he => hp (he ▸ hb)
    have hwrite : byteCode.writeAll (p.map .lit) = p := by
      rw [EscapeCode.writeAll, List.flatMap_map]
      exact List.flatMap_singleton' p
    have hexpand : EscapeCode.expandAll (p.map .lit) = p := by
      rw [EscapeCode.expandAll, List.flatMap_map]
      exact List.flatMap_singleton' p
    have hle := length_compress_le hv
    rwa [hwrite, hexpand] at hle
  · rw [decompress_compress p m hsize, if_neg (Nat.not_lt.mpr hm)]

/-- A run of the escape byte: four bytes for six. -/
theorem compress_optimal_escapes :
    (compressWirePayload [0xFF, 0xFF, 0xFF, 0xFF, 0xFF, 1]).length ≤
        ([0xFF, 5, 0xFF, 1] : Bytes).length ∧
      (compressWirePayload [9, 9, 1]).length ≤ 3 ∧
      decompressWirePayload (compressWirePayload [0xFF, 0xFF, 0xFF, 0xFF, 0xFF, 1]) 6 =
        .ok [0xFF, 0xFF, 0xFF, 0xFF, 0xFF, 1] :=
  ⟨(compress_optimal [0xFF, 0xFF, 0xFF, 0xFF, 0xFF, 1]).1 [0xFF, 5, 0xFF, 1] 6 (by rfl),
    (compress_optimal [9, 9, 1]).2.1 (by decide),
    (compress_optimal [0xFF, 0xFF, 0xFF, 0xFF, 0xFF, 1]).2.2 6 (by decide) (by decide)⟩

end HelbreathBackend.Wire
