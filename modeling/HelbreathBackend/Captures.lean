import HelbreathBackend.SessionStream

/-!
Captures of the packets of clients.

A proxy between a client and the gateway writes the frames of the client into a file, a tool makes
test cases of the file, and a test of the network crate replays them. Each of the three splits the
stream in a way of its own; the gateway splits it once more.
-/

namespace HelbreathBackend.Captures

open HelbreathBackend.Lib HelbreathBackend.Domain HelbreathBackend.Application
open HelbreathBackend.Frame HelbreathBackend.Translate HelbreathBackend.ClientFrames
open HelbreathBackend.SessionStream (splitFrames_flatten splitFrames_commandFrames)

/-! ### The proxy -/

structure FrameCollector where
  buffer : Bytes
  /-- what has been written to the file -/
  written : Bytes
  frames : ℕ
  bytes : ℕ
  deriving DecidableEq

namespace FrameCollector

def new : FrameCollector := ⟨[], [], 0, 0⟩

/-- The loop of `feed`; each round takes at least a byte, so `fuel` bounds the rounds when it is the
length of the buffer. -/
def feedLoop : ℕ → FrameCollector → FrameCollector
  | 0, c => c
  | fuel + 1, c =>
    match c.buffer with
    | b0 :: b1 :: _ =>
      let total := 2 + (u16FromLeBytes b0 b1).toNat
      -- the branch of the malformed stream
      if 65537 < total then feedLoop fuel { c with buffer := c.buffer.drop 1 }
      else if c.buffer.length < total then c
      else
        feedLoop fuel
          { buffer := c.buffer.drop total
            written := c.written ++ c.buffer.take total
            frames := c.frames + 1
            bytes := c.bytes + (c.buffer.take total).length }
    | _ => c

def feed (c : FrameCollector) (chunk : Bytes) : FrameCollector :=
  feedLoop (c.buffer ++ chunk).length { c with buffer := c.buffer ++ chunk }

end FrameCollector

/-- What the proxy has made of the reads of `pipe_stream`, in their order. The clients of a proxy have
one collector. -/
def captured (chunks : List Bytes) : FrameCollector := chunks.foldl FrameCollector.feed .new

/-! ### The cases -/

inductive ReplayExpectation
  | command (command : String)
  | decodeError
  | translateError
  deriving DecidableEq

structure ReplayCase where
  name : String
  phase : SessionPhase
  protocolVersion : ProtocolVersion
  origin : String
  frame : Bytes
  expect : ReplayExpectation
  deriving DecidableEq

inductive ExpectMode
  | translateError
  | opcodeCommand
  deriving DecidableEq

/-- The arguments of `replay_fixture_from_bin`. -/
structure FixtureArgs where
  phase : SessionPhase
  protocolVersion : ProtocolVersion
  expectMode : ExpectMode
  autoPhase : Bool
  origin : String

def legacyOpcodeToCommand : List (ℕ × String) :=
  [(0x0001, "login"), (0x0002, "character_list"), (0x0003, "character_create"),
    (0x0004, "character_select"), (0x0005, "enter_world"), (0x0006, "character_delete"),
    (0x0100, "move"), (0x0101, "attack"), (0x0102, "cast_skill"), (0x0103, "pickup_item"),
    (0x0104, "drop_item"), (0x0105, "use_item"), (0x0106, "npc_interaction"), (0x0200, "chat"),
    (0x0201, "whisper"), (0x0202, "guild_chat"), (0x02FE, "heartbeat"), (0x02FF, "logout")]

def modernOpcodeToCommand : List (ℕ × String) := legacyOpcodeToCommand

def commandForOpcode (opcode : ℕ) : ProtocolVersion → Option String
  | .modernV400 => modernOpcodeToCommand.lookup opcode
  | .legacyV382 => legacyOpcodeToCommand.lookup opcode

def phaseForCommand (command : String) (fallbackPhase : SessionPhase) : SessionPhase :=
  if command = "login" then .preAuth
  else if command ∈ ["character_list", "character_create", "character_delete",
    "character_select"] then .inCharacterList
  else if command = "enter_world" then .inCharacterList
  else if command ∈ ["move", "attack", "cast_skill", "pickup_item", "drop_item", "use_item",
    "npc_interaction", "chat", "whisper", "guild_chat"] then .inWorld
  else fallbackPhase

/-- The loop of `iter_frames`, which stops at the end of the file or at an unfinished frame. -/
def iterFramesLoop (blob : Bytes) : ℕ → ℕ → List (ℕ × Bytes)
  | 0, _ => []
  | fuel + 1, offset =>
    match blob.drop offset with
    | b0 :: b1 :: _ =>
      let stop := offset + 2 + (u16FromLeBytes b0 b1).toNat
      if blob.length < stop then []
      else (offset, (blob.take stop).drop offset) :: iterFramesLoop blob fuel stop
    | _ => []

def iterFrames (blob : Bytes) : List (ℕ × Bytes) := iterFramesLoop blob blob.length 0

/-- `int.from_bytes(frame[2:4], "little")`: a slice may be shorter than it is asked for. -/
def frameOpcode (frame : Bytes) : ℕ :=
  match frame.drop 2 with
  | [] => 0
  | [o0] => o0.toNat
  | o0 :: o1 :: _ => (u16FromLeBytes o0 o1).toNat

def versionName : ProtocolVersion → String
  | .legacyV382 => "legacy_v382"
  | .modernV400 => "modern_v400"

/-- `{opcode:04X}` -/
def hex4 (opcode : ℕ) : String :=
  String.leftpad 4 '0' (String.ofList ((Nat.toDigits 16 opcode).map Char.toUpper))

def caseOf (args : FixtureArgs) (idx : ℕ) (frame : Bytes) : ReplayCase :=
  let opcode := frameOpcode frame
  let name := "capture_" ++ versionName args.protocolVersion ++ "_" ++
    String.leftpad 8 '0' (toString idx) ++ "_op_" ++ hex4 opcode
  match args.expectMode, commandForOpcode opcode args.protocolVersion with
  | .opcodeCommand, some command =>
    let phase := if args.autoPhase then phaseForCommand command args.phase else args.phase
    ⟨name, phase, args.protocolVersion, args.origin, frame, .command command⟩
  | _, _ => ⟨name, args.phase, args.protocolVersion, args.origin, frame, .translateError⟩

def fixture (args : FixtureArgs) (blob : Bytes) : List ReplayCase :=
  (iterFrames blob).map fun x => caseOf args x.1 x.2

/-- Whether `run_case` goes through. -/
def runCase (parseStr : String → Option Uuid) (c : ReplayCase) : Bool :=
  match c.expect, decodeFrame c.frame 65535 with
  | .decodeError, .error _ => true
  | .translateError, .ok decoded =>
    match translatePacketForVersion parseStr decoded c.phase c.protocolVersion with
    | .error _ => true
    | .ok _ => false
  | .command command, .ok decoded =>
    match translatePacketForVersion parseStr decoded c.phase c.protocolVersion with
    | .error _ => false
    | .ok cmd => commandName cmd == command
  | _, _ => false

/-! ### Splitting -/

/-- Where no frame is complete, the length at the front reaches past the end. -/
lemma length_lt_of_frameSize {b0 b1 : UInt8} {t : Bytes} (h : frameSize (b0 :: b1 :: t) = none) :
    (b0 :: b1 :: t).length < (u16FromLeBytes b0 b1).toNat + 2 := by
  by_contra hge
  simp only [frameSize, if_neg hge] at h
  cases h

/-- What the proxy has made of a stream, as the gateway splits it. -/
def collected (stream : Bytes) : FrameCollector where
  buffer := (splitFrames stream).2
  written := (splitFrames stream).1.flatten
  frames := (splitFrames stream).1.length
  bytes := (splitFrames stream).1.flatten.length

lemma feedLoop_eq (fuel : ℕ) (c : FrameCollector) (h : c.buffer.length ≤ fuel) :
    FrameCollector.feedLoop fuel c =
      { buffer := (splitFrames c.buffer).2
        written := c.written ++ (splitFrames c.buffer).1.flatten
        frames := c.frames + (splitFrames c.buffer).1.length
        bytes := c.bytes + (splitFrames c.buffer).1.flatten.length } := by
  obtain ⟨buffer, written, frames, bytes⟩ := c
  induction fuel generalizing buffer written frames bytes with
  | zero =>
    obtain rfl : buffer = [] := List.length_eq_zero_iff.mp (Nat.le_zero.mp h)
    simp [FrameCollector.feedLoop, splitFrames, splitFramesLoop]
  | succ fuel ih =>
    simp only [splitFrames_eq] at ih ⊢
    rcases hs : frameSize buffer with _ | n
    · -- no frame is complete: the loop ends, whichever the reason
      have hstop : FrameCollector.feedLoop (fuel + 1) ⟨buffer, written, frames, bytes⟩ =
          ⟨buffer, written, frames, bytes⟩ := by
        rcases buffer with _ | ⟨b0, _ | ⟨b1, t⟩⟩
        · rfl
        · rfl
        · have hlt := length_lt_of_frameSize hs
          have hsmall := (u16FromLeBytes b0 b1).toNat_lt
          simp only [FrameCollector.feedLoop]
          rw [if_neg (by omega), if_pos (by omega)]
      rw [hstop, wireFraming.extract_none hs]
      simp
    · rw [wireFraming.extract_some hs]
      obtain ⟨b0, b1, t, rfl, rfl, hle⟩ := frameSize_eq_some.mp hs
      have hsmall := (u16FromLeBytes b0 b1).toNat_lt
      simp only [FrameCollector.feedLoop]
      rw [if_neg (by omega), if_neg (by omega), Nat.add_comm 2]
      have hlen : ((b0 :: b1 :: t).drop ((u16FromLeBytes b0 b1).toNat + 2)).length ≤ fuel := by
        simp only [List.length_drop, List.length_cons] at h ⊢
        omega
      rw [ih _ _ _ _ hlen]
      simp only [List.flatten_cons, List.length_cons, List.length_append, List.append_assoc,
        FrameCollector.mk.injEq, true_and]
      omega

lemma feed_collected (stream chunk : Bytes) :
    (collected stream).feed chunk = collected (stream ++ chunk) := by
  refine (feedLoop_eq _ { collected stream with buffer := (collected stream).buffer ++ chunk }
    (Nat.le_refl _)).trans ?_
  unfold collected
  rw [SessionStream.splitFrames_append stream chunk]
  simp only [List.flatten_append, List.length_append]

/-- However the stream is read, the proxy splits it as the gateway does. -/
lemma captured_eq (chunks : List Bytes) : captured chunks = collected chunks.flatten := by
  induction chunks using List.reverseRecOn with
  | nil => rfl
  | append_singleton chunks chunk ih =>
    have hlast : captured (chunks ++ [chunk]) = (captured chunks).feed chunk :=
      List.foldl_append
    rw [hlast, ih, feed_collected, List.flatten_append, List.flatten_singleton]

lemma iterFramesLoop_eq (blob : Bytes) (fuel offset : ℕ)
    (h : (blob.drop offset).length ≤ fuel) :
    (iterFramesLoop blob fuel offset).map Prod.snd = (splitFrames (blob.drop offset)).1 := by
  induction fuel generalizing offset with
  | zero =>
    have hnil : blob.drop offset = [] := List.length_eq_zero_iff.mp (Nat.le_zero.mp h)
    rw [hnil]
    rfl
  | succ fuel ih =>
    simp only [splitFrames_eq] at ih ⊢
    rcases hs : frameSize (blob.drop offset) with _ | n
    · have hstop : iterFramesLoop blob (fuel + 1) offset = [] := by
        rcases hd : blob.drop offset with _ | ⟨b0, _ | ⟨b1, t⟩⟩
        · simp only [iterFramesLoop, hd]
        · simp only [iterFramesLoop, hd]
        · rw [hd] at hs
          have hlt := length_lt_of_frameSize hs
          rw [← hd, List.length_drop] at hlt
          simp only [iterFramesLoop, hd]
          exact if_pos (by omega)
      rw [hstop, wireFraming.extract_none hs]
      rfl
    · rw [wireFraming.extract_some hs]
      obtain ⟨b0, b1, t, hd, rfl, hle⟩ := frameSize_eq_some.mp hs
      have hpos : 2 ≤ (blob.drop offset).length := by
        rw [hd]
        simp
      rw [List.length_drop] at hle hpos h
      simp only [iterFramesLoop, hd]
      rw [if_neg (by omega), List.map_cons, ← hd, List.drop_take, List.drop_drop]
      have hstop : offset + 2 + (u16FromLeBytes b0 b1).toNat - offset =
          (u16FromLeBytes b0 b1).toNat + 2 := by omega
      have hnext : offset + 2 + (u16FromLeBytes b0 b1).toNat =
          offset + ((u16FromLeBytes b0 b1).toNat + 2) := by omega
      rw [hstop, hnext, ih _ (by rw [List.length_drop]; omega)]

lemma iterFrames_eq (blob : Bytes) : (iterFrames blob).map Prod.snd = (splitFrames blob).1 :=
  iterFramesLoop_eq blob blob.length 0 (Nat.le_refl _)

/-! ### Commands and their opcodes -/

variable {parseStr : String → Option Uuid} {cmd : ClientCommand} {opcode : UInt16}
variable {payload : Bytes} {version : ProtocolVersion}

/-- What comes out is a command of the opcode. -/
def Reads (opcode : UInt16) (x : Parse ClientCommand) : Prop :=
  ∀ cmd, x = .ok cmd → opcode = commandOpcode cmd

section Reads

variable {x y : Parse ClientCommand} {α : Type}

lemma Reads.ite {c : Prop} [Decidable c] (hx : c → Reads opcode x) (hy : Reads opcode y) :
    Reads opcode (if c then x else y) := by
  split
  · next hc => exact hx hc
  · exact hy

lemma reads_ok {command : ClientCommand} (h : opcode = commandOpcode command) :
    Reads opcode (.ok command) := by
  intro cmd hok
  rw [← Except.ok.inj hok]
  exact h

lemma reads_error (err : TranslateError) : Reads opcode (.error err) := fun _ hok => by cases hok

lemma reads_bind {parse : Parse α} {command : α → ClientCommand}
    (h : ∀ a, opcode = commandOpcode (command a)) :
    Reads opcode (do .ok (command (← parse))) := by
  intro cmd hok
  obtain ⟨a, -, ha⟩ := MayPanic.except_bind_eq_ok_iff.mp hok
  rw [← Except.ok.inj ha]
  exact h a

lemma reads_parseCommand (parseStr : String → Option Uuid) (opcode : UInt16) (payload : Bytes) :
    Reads opcode (parseCommand parseStr OpcodeMatrix.legacyV382 opcode payload) := by
  unfold parseCommand
  refine .ite (fun hop => reads_bind fun _ => hop) <| .ite (fun hop => reads_ok hop) <|
    .ite (fun hop => reads_bind fun _ => hop) <| .ite (fun hop => reads_bind fun _ => hop) <|
    .ite (fun hop => reads_bind fun _ => hop) <| .ite (fun hop => reads_ok hop) <| .ite ?move <|
    .ite (fun hop => reads_bind fun _ => hop) <| .ite ?castSkill <|
    .ite (fun hop => reads_bind fun _ => hop) <| .ite ?dropItem <| .ite ?useItem <|
    .ite (fun hop => reads_bind fun _ => hop) <| .ite (fun hop => reads_bind fun _ => hop) <|
    .ite (fun hop => reads_bind fun _ => hop) <| .ite (fun hop => reads_bind fun _ => hop) <|
    .ite (fun hop => reads_ok hop) <| .ite (fun hop => reads_ok hop) (reads_error _)
  case move =>
    intro hop
    split
    · exact reads_ok hop
    · exact reads_error _
  case castSkill =>
    intro hop
    split
    · dsimp only
      exact .ite (fun _ => reads_bind fun _ => hop) (reads_bind fun _ => hop)
    · exact reads_error _
  case dropItem =>
    intro hop
    split
    · exact reads_ok hop
    · exact reads_error _
  case useItem =>
    intro hop
    split
    · exact reads_ok hop
    · exact reads_error _

end Reads

/-- Each opcode is translated to one kind of command, the one that the tool knows it by. -/
lemma commandForOpcode_of_translate {packet : DecodedPacket} {sessionPhase : SessionPhase}
    (h : translatePacketForVersion parseStr packet sessionPhase version = .ok cmd) :
    commandForOpcode packet.header.opcode.toNat version = some (commandName cmd) := by
  obtain ⟨cmd', hparse, h⟩ := MayPanic.except_bind_eq_ok_iff.mp h
  obtain rfl : cmd' = cmd := by
    split at h
    · exact Except.ok.inj h
    · cases h
  have hmatrix : OpcodeMatrix.forVersion version = OpcodeMatrix.legacyV382 := by
    cases version <;> rfl
  rw [hmatrix] at hparse
  rw [reads_parseCommand parseStr _ _ cmd' hparse]
  cases version <;> cases cmd' <;> rfl

lemma frameOpcode_of_decode {frame : Bytes} {maxPayload : ℕ} {packet : DecodedPacket}
    (h : decodeFrame frame maxPayload = .ok packet) :
    frameOpcode frame = packet.header.opcode.toNat := by
  unfold decodeFrame at h
  split at h
  · dsimp only at h
    split_ifs at h
    rw [← Except.ok.inj h]
    rfl
  · cases h

/-! ### The cases of a capture -/

variable {args : FixtureArgs} {c : ReplayCase} {idx : ℕ} {frame : Bytes}

@[simp] lemma caseOf_frame (args : FixtureArgs) (idx : ℕ) (frame : Bytes) :
    (caseOf args idx frame).frame = frame := by
  unfold caseOf
  dsimp only
  split <;> rfl

@[simp] lemma caseOf_protocolVersion (args : FixtureArgs) (idx : ℕ) (frame : Bytes) :
    (caseOf args idx frame).protocolVersion = args.protocolVersion := by
  unfold caseOf
  dsimp only
  split <;> rfl

/-- What is expected of a frame does not depend on where it is in the file. -/
def expectation (args : FixtureArgs) (frame : Bytes) : ReplayExpectation :=
  match args.expectMode, commandForOpcode (frameOpcode frame) args.protocolVersion with
  | .opcodeCommand, some command => .command command
  | _, _ => .translateError

/-- The tool never expects that a frame is not decoded. -/
lemma expectation_cases (args : FixtureArgs) (frame : Bytes) :
    expectation args frame = .translateError ∨
      ∃ command, expectation args frame = .command command := by
  unfold expectation
  split
  · exact .inr ⟨_, rfl⟩
  · exact .inl rfl

@[simp] lemma caseOf_expect (args : FixtureArgs) (idx : ℕ) (frame : Bytes) :
    (caseOf args idx frame).expect = expectation args frame := by
  unfold caseOf expectation
  dsimp only
  split <;> rfl

lemma fixture_map {β : Type} (args : FixtureArgs) (blob : Bytes) (f : ReplayCase → β)
    (g : Bytes → β) (h : ∀ idx frame, f (caseOf args idx frame) = g frame) :
    (fixture args blob).map f = (splitFrames blob).1.map g := by
  rw [fixture, List.map_map, ← iterFrames_eq, List.map_map]
  exact List.map_congr_left fun x _ => h x.1 x.2

lemma splitFrames_written (stream : Bytes) :
    splitFrames (splitFrames stream).1.flatten = ((splitFrames stream).1, []) := by
  refine splitFrames_flatten fun u hu => ?_
  have hsize := frameSize_isFrame_append (isFrame_of_mem_splitFrames hu) []
  rwa [List.append_nil] at hsize

/-- **When a case goes through**: its frame is decoded, and where it expects a command, there is
one. No case fails because of another command than the one it expects, or because of a command where
it expects none. -/
lemma runCase_caseOf_iff (parseStr : String → Option Uuid)
    (hmode : args.expectMode = .opcodeCommand) :
    runCase parseStr (caseOf args idx frame) = true ↔
      ∃ packet, decodeFrame frame 65535 = .ok packet ∧
        ((caseOf args idx frame).expect ≠ .translateError → ∃ cmd,
          translatePacketForVersion parseStr packet (caseOf args idx frame).phase
            args.protocolVersion = .ok cmd) := by
  rcases hdecode : decodeFrame frame 65535 with err | packet
  · have hfails : runCase parseStr (caseOf args idx frame) = false := by
      unfold runCase
      rw [caseOf_frame, hdecode, caseOf_expect]
      rcases expectation_cases args frame with he | ⟨command, he⟩ <;> rw [he]
    rw [hfails]
    simp
  · have hopcode := frameOpcode_of_decode hdecode
    unfold runCase
    rw [caseOf_frame, hdecode, caseOf_expect, caseOf_protocolVersion]
    simp only [Except.ok.injEq, exists_eq_left']
    rcases hcommand : commandForOpcode (frameOpcode frame) args.protocolVersion with _ | command
    · have hexpect : expectation args frame = .translateError := by
        rw [expectation, hmode, hcommand]
      rw [hexpect]
      rcases htr : translatePacketForVersion parseStr packet (caseOf args idx frame).phase
          args.protocolVersion with err | cmd
      · simp [htr]
      · have hname := commandForOpcode_of_translate htr
        rw [← hopcode, hcommand] at hname
        cases hname
    · have hexpect : expectation args frame = .command command := by
        rw [expectation, hmode, hcommand]
      rw [hexpect]
      rcases htr : translatePacketForVersion parseStr packet (caseOf args idx frame).phase
          args.protocolVersion with err | cmd
      · simp [htr]
      · have hname := commandForOpcode_of_translate htr
        rw [← hopcode, hcommand] at hname
        cases hname
        simp [htr]

variable {cmds : List ClientCommand}

lemma commandForOpcode_commandOpcode (cmd : ClientCommand) (version : ProtocolVersion) :
    commandForOpcode (commandOpcode cmd).toNat version = some (commandName cmd) := by
  cases version <;> cases cmd <;> rfl

/-- The phase that the tool finds for a command allows it, but for those that it knows no phase
for. -/
lemma allowedIn_phaseForCommand (cmd : ClientCommand) (fallbackPhase : SessionPhase)
    (h : cmd = .heartbeat ∨ cmd = .logout →
      allowedIn fallbackPhase.asDomainState cmd = true) :
    allowedIn (phaseForCommand (commandName cmd) fallbackPhase).asDomainState cmd = true := by
  cases cmd with
  | heartbeat => exact h (.inl rfl)
  | logout => exact h (.inr rfl)
  | _ => rfl

lemma allowedIn_asRead (state : SessionState) (cmd : ClientCommand) :
    allowedIn state (asRead cmd) = allowedIn state cmd := by
  cases state <;> cases cmd <;> rfl

lemma validatePayload_asRead (cmd : ClientCommand) :
    validatePayload (asRead cmd) = validatePayload cmd := by
  cases cmd <;> rfl

lemma runCase_commandFrame (parseStr : String → Option Uuid) (idx : ℕ) {cmd : ClientCommand}
    (hmode : args.expectMode = .opcodeCommand) (hauto : args.autoPhase = true)
    (hclean : CleanCommand cmd)
    (hphase : cmd = .heartbeat ∨ cmd = .logout → allowedIn args.phase.asDomainState cmd = true) :
    expectation args (commandFrame cmd) = .command (commandName cmd) ∧
      runCase parseStr (caseOf args idx (commandFrame cmd)) = true := by
  have hlen := length_commandPayload hclean
  have hdecode : decodeFrame (commandFrame cmd) 65535 = _ :=
    decodeFrame_commandFrame hlen (by omega)
  have hopcode : frameOpcode (commandFrame cmd) = (commandOpcode cmd).toNat :=
    frameOpcode_of_decode hdecode
  have hcommand := commandForOpcode_commandOpcode cmd args.protocolVersion
  rw [← hopcode] at hcommand
  have hcase : (caseOf args idx (commandFrame cmd)).phase =
      phaseForCommand (commandName cmd) args.phase := by
    unfold caseOf
    dsimp only
    rw [hmode, hcommand]
    exact if_pos hauto
  refine ⟨by rw [expectation, hmode, hcommand], ?_⟩
  refine (runCase_caseOf_iff parseStr hmode).mpr ⟨_, hdecode, fun _ => ⟨asRead cmd, ?_⟩⟩
  have hallowed := allowedIn_phaseForCommand cmd args.phase hphase
  have hvalid := validatePayload_of_clean hclean
  rw [← allowedIn_asRead] at hallowed
  rw [← validatePayload_asRead] at hvalid
  rw [hcase]
  exact translate_of_parse parseStr (parseCommand_asRead parseStr _ hclean) hallowed hvalid

/-- **A captured session can be replayed**: a client sends commands with clean texts, the proxy
reads them in any chunks, and the tool makes cases of the file with phases of its own. Then there is
one case for each command, it expects that command, every case goes through, and nothing is left
over. Heartbeats and logouts are to be allowed in the phase given. -/
theorem captured_session_replays (args : FixtureArgs) {chunks : List Bytes}
    (hmode : args.expectMode = .opcodeCommand) (hauto : args.autoPhase = true)
    (hclean : ∀ cmd ∈ cmds, CleanCommand cmd)
    (hphase : ∀ cmd ∈ cmds, cmd = .heartbeat ∨ cmd = .logout →
      allowedIn args.phase.asDomainState cmd = true)
    (hchunks : chunks.flatten = cmds.flatMap commandFrame) :
    (fixture args (captured chunks).written).map (·.expect) =
        cmds.map (fun cmd => .command (commandName cmd)) ∧
      (∀ c ∈ fixture args (captured chunks).written, ∀ parseStr, runCase parseStr c = true) ∧
      (captured chunks).buffer = [] := by
  have hsplit := splitFrames_commandFrames hclean
  have hframes : (splitFrames (captured chunks).written).1 = cmds.map commandFrame := by
    rw [captured_eq, hchunks, collected, hsplit]
    have hwritten := splitFrames_written (cmds.flatMap commandFrame)
    rw [hsplit] at hwritten
    exact congrArg Prod.fst hwritten
  refine ⟨?_, fun c hc parseStr => ?_, ?_⟩
  · rw [fixture_map args _ _ (expectation args) (caseOf_expect args), hframes, List.map_map]
    refine List.map_congr_left fun cmd hcmd => ?_
    exact (runCase_commandFrame (fun _ => none) 0 hmode hauto (hclean cmd hcmd)
      (hphase cmd hcmd)).1
  · obtain ⟨⟨idx, frame⟩, hx, rfl⟩ := List.mem_map.mp hc
    have hframe : frame ∈ cmds.map commandFrame := by
      rw [← hframes, ← iterFrames_eq]
      exact List.mem_map_of_mem hx
    obtain ⟨cmd, hcmd, rfl⟩ := List.mem_map.mp hframe
    exact (runCase_commandFrame parseStr idx hmode hauto (hclean cmd hcmd)
      (hphase cmd hcmd)).2
  · rw [captured_eq, hchunks, collected, hsplit]

/-- A character is made, with a look that the frame has no room for, then comes a step and a
heartbeat, all read in three chunks. -/
theorem captured_session_replays_walking :
    (fixture ⟨.inWorld, .legacyV382, .opcodeCommand, true, "capture"⟩
        (captured [[8, 0, 3, 0, 73, 97, 114], [97, 0, 1, 11, 0, 0, 1, 3, 0, 0, 0],
          [4, 0, 0, 0, 1, 2, 0, 254, 2]]).written).map (·.expect) =
        [.command "character_create", .command "move", .command "heartbeat"] ∧
      (captured [[8, 0, 3, 0, 73, 97, 114], [97, 0, 1, 11, 0, 0, 1, 3, 0, 0, 0],
        [4, 0, 0, 0, 1, 2, 0, 254, 2]]).buffer = [] := by
  let cmds : List ClientCommand :=
    [.characterCreate ⟨"Iara", .mage, 1, 2, 0, 0, 0, 10, 10, 10, 14, 10, 10⟩, .move 3 4 true,
      .heartbeat]
  have hclean : ∀ cmd ∈ cmds, CleanCommand cmd := by
    have hname : Clean 16 "Iara" := clean_of_ends rfl rfl (by decide) (by decide) (by decide)
    refine List.forall_mem_cons.mpr ⟨List.forall_mem_singleton.mpr hname, ?_⟩
    intro cmd hcmd
    rcases List.mem_pair.mp hcmd with rfl | rfl <;> exact cleanCommand_of_texts_nil rfl
  have hphase : ∀ cmd ∈ cmds, cmd = .heartbeat ∨ cmd = .logout →
      allowedIn SessionPhase.inWorld.asDomainState cmd = true := by
    rintro cmd - (rfl | rfl) <;> rfl
  obtain ⟨hexpect, -, hrest⟩ := captured_session_replays
    ⟨.inWorld, .legacyV382, .opcodeCommand, true, "capture"⟩ rfl rfl hclean hphase
    (show [[8, 0, 3, 0, 73, 97, 114], [97, 0, 1, 11, 0, 0, 1, 3, 0, 0, 0],
      [4, 0, 0, 0, 1, 2, 0, 254, 2]].flatten = cmds.flatMap commandFrame by decide)
  exact ⟨hexpect, hrest⟩

end HelbreathBackend.Captures
