import HelbreathBackend.ClientFrames
import HelbreathBackend.GatewayAndMaps
import HelbreathBackend.GatewayProgress
import HelbreathBackend.SessionGrammar
import HelbreathBackend.WireStream

/-!
The stream of a session.

A connection delivers bytes in chunks of any size, while the tasks of the other connections and the
router go on. What the task of the connection queues depends on none of that: it is what the loop
over the frames makes of the bytes read so far and of the answers of the rate limiter to them.
-/

namespace HelbreathBackend.SessionStream

open HelbreathBackend.Lib HelbreathBackend.Lib.System HelbreathBackend.Domain
open HelbreathBackend.Application HelbreathBackend.Frame HelbreathBackend.Translate
open HelbreathBackend.Gateway HelbreathBackend.GatewaySystem HelbreathBackend.GatewaySteps
open HelbreathBackend.GatewayTrace HelbreathBackend.SessionGrammar HelbreathBackend.ClientFrames

/-! ### What a run gives to a session -/

/-- What an action reads from the connection of session `s`. -/
def chunkOf (s : SessionId) : GatewaySystem.Action → Bytes
  | .read s' chunk => if s' = s then chunk else []
  | _ => []

/-- The answer of the rate limiter to a frame of session `s`. -/
def answerOf (s : SessionId) : GatewaySystem.Action → Option Bool
  | .frame s' allowed => if s' = s then some allowed else none
  | _ => none

def bytesRead (s : SessionId) (as : List GatewaySystem.Action) : Bytes := as.flatMap (chunkOf s)

def answers (s : SessionId) (as : List GatewaySystem.Action) : List Bool :=
  as.filterMap (answerOf s)

/-- The frames of the last read that are still to be gone through. -/
def pending : Stage → List Bytes
  | .frames rest | .sending _ rest => rest
  | .closing | .removing | .ended => []

variable {s : SessionId} {as : List GatewaySystem.Action} {a : GatewaySystem.Action}

lemma bytesRead_snoc (s : SessionId) (as : List GatewaySystem.Action) (a : GatewaySystem.Action) :
    bytesRead s (as ++ [a]) = bytesRead s as ++ chunkOf s a := by
  rw [bytesRead, List.flatMap_append, List.flatMap_singleton]
  rfl

lemma answers_snoc (s : SessionId) (as : List GatewaySystem.Action) (a : GatewaySystem.Action) :
    answers s (as ++ [a]) = answers s as ++ (answerOf s a).toList := by
  rw [answers, List.filterMap_append]
  rcases h : answerOf s a <;> simp [answers, h]

/-- The action gives nothing to session `s`. -/
def Silent (s : SessionId) (a : GatewaySystem.Action) : Prop :=
  chunkOf s a = [] ∧ answerOf s a = none

lemma Silent.bytesRead (h : Silent s a) : bytesRead s (as ++ [a]) = bytesRead s as := by
  rw [bytesRead_snoc, h.1, List.append_nil]

lemma Silent.answers (h : Silent s a) : answers s (as ++ [a]) = answers s as := by
  rw [answers_snoc, h.2, Option.toList_none, List.append_nil]

lemma splitFrames_append (b c : Bytes) :
    splitFrames (b ++ c) =
      ((splitFrames b).1 ++ (splitFrames ((splitFrames b).2 ++ c)).1,
        (splitFrames ((splitFrames b).2 ++ c)).2) := by
  simp only [splitFrames_eq]
  exact wireFraming.extract_append b c

/-! ### The loop over the frames -/

section

variable (parseStr : String → Option Uuid) (packetMaxPayload : ℕ)

/-- The loop of a new connection has gone through `gone`, with the answers `oks`. -/
def loopState (remoteIp : String) (gone : List Bytes) (oks : List Bool) : Connection :=
  after parseStr packetMaxPayload (.new remoteIp) (gone.zip oks)

/-- The task has gone through the frames `gone` of what was read, and `queued` are the commands that
it has put into the queue. -/
structure GoneThrough (s : SessionId) (as : List GatewaySystem.Action) (conn : Connection)
    (queued : List ClientCommand) (gone : List Bytes) : Prop where
  frames : (splitFrames (bytesRead s as)).1 = gone ++ pending conn.stage
  answered : gone.length = (answers s as).length
  readBuf : conn.readBuf = (splitFrames (bytesRead s as)).2
  queued : queued ++ unsent conn.stage =
    enqueued parseStr packetMaxPayload (.new conn.remoteIp) (gone.zip (answers s as))
  phase : conn.phase =
    (loopState parseStr packetMaxPayload conn.remoteIp gone (answers s as)).phase
  version : conn.protocolVersion =
    (loopState parseStr packetMaxPayload conn.remoteIp gone (answers s as)).protocolVersion

end

variable {parseStr : String → Option Uuid} {packetMaxPayload : ℕ} {g g' : Gateway}
variable {conn conn' : Connection} {queued : List ClientCommand} {gone : List Bytes}

/-- What the task makes of a frame, given the answer of the rate limiter. -/
def taken (parseStr : String → Option Uuid) (packetMaxPayload : ℕ) (conn : Connection)
    (frame : Bytes) (rest : List Bytes) (ok : Bool) : Connection :=
  if ok then conn.translated parseStr packetMaxPayload frame rest
  else { conn with stage := .frames rest }

/-- What a frame becomes depends on the phase and the version of the connection only, so the loop
makes the same of it. -/
lemma taken_alike (parseStr : String → Option Uuid) (packetMaxPayload : ℕ)
    (hp : conn.phase = conn'.phase) (hv : conn.protocolVersion = conn'.protocolVersion)
    (frame : Bytes) (rest : List Bytes) (ok : Bool) :
    unsent (taken parseStr packetMaxPayload conn frame rest ok).stage =
        unsent (frameStep parseStr packetMaxPayload conn' (frame, ok)).stage ∧
      (taken parseStr packetMaxPayload conn frame rest ok).phase =
        (frameStep parseStr packetMaxPayload conn' (frame, ok)).phase ∧
      (taken parseStr packetMaxPayload conn frame rest ok).protocolVersion =
        (frameStep parseStr packetMaxPayload conn' (frame, ok)).protocolVersion := by
  cases ok with
  | false => exact ⟨rfl, hp, hv⟩
  | true =>
    change unsent (conn.translated parseStr packetMaxPayload frame rest).stage =
        unsent (conn'.translated parseStr packetMaxPayload frame []).stage ∧
      (conn.translated parseStr packetMaxPayload frame rest).phase =
        (conn'.translated parseStr packetMaxPayload frame []).phase ∧
      (conn.translated parseStr packetMaxPayload frame rest).protocolVersion =
        (conn'.translated parseStr packetMaxPayload frame []).protocolVersion
    unfold Connection.translated
    rw [hp, hv]
    split
    · exact ⟨rfl, rfl, rfl⟩
    · split <;> exact ⟨rfl, rfl, rfl⟩

lemma taken_rest (parseStr : String → Option Uuid) (packetMaxPayload : ℕ) (conn : Connection)
    (frame : Bytes) (rest : List Bytes) (ok : Bool) :
    pending (taken parseStr packetMaxPayload conn frame rest ok).stage = rest ∧
      (taken parseStr packetMaxPayload conn frame rest ok).readBuf = conn.readBuf ∧
      (taken parseStr packetMaxPayload conn frame rest ok).remoteIp = conn.remoteIp := by
  unfold taken
  split
  · unfold Connection.translated
    split
    · exact ⟨rfl, rfl, rfl⟩
    · split <;> exact ⟨rfl, rfl, rfl⟩
  · exact ⟨rfl, rfl, rfl⟩

lemma zip_snoc {oks : List Bool} (h : gone.length = oks.length) (frame : Bytes) (ok : Bool) :
    (gone ++ [frame]).zip (oks ++ [ok]) = gone.zip oks ++ [(frame, ok)] :=
  List.zip_append h

lemma loopState_snoc {oks : List Bool} (h : gone.length = oks.length) (remoteIp : String)
    (frame : Bytes) (ok : Bool) :
    loopState parseStr packetMaxPayload remoteIp (gone ++ [frame]) (oks ++ [ok]) =
      frameStep parseStr packetMaxPayload
        (loopState parseStr packetMaxPayload remoteIp gone oks) (frame, ok) := by
  rw [loopState, zip_snoc h, after, List.foldl_append]
  rfl

lemma enqueued_snoc {oks : List Bool} (h : gone.length = oks.length) (remoteIp : String)
    (frame : Bytes) (ok : Bool) :
    enqueued parseStr packetMaxPayload (.new remoteIp) ((gone ++ [frame]).zip (oks ++ [ok])) =
      enqueued parseStr packetMaxPayload (.new remoteIp) (gone.zip oks) ++
        unsent (frameStep parseStr packetMaxPayload
          (loopState parseStr packetMaxPayload remoteIp gone oks) (frame, ok)).stage := by
  rw [zip_snoc h, enqueued_append]
  simp only [enqueued, List.append_nil]
  rfl

lemma GoneThrough.frame {frame : Bytes} {rest : List Bytes}
    (h : GoneThrough parseStr packetMaxPayload s as conn queued gone) (ok : Bool)
    (hst : conn.stage = .frames (frame :: rest)) :
    GoneThrough parseStr packetMaxPayload s (as ++ [.frame s ok])
      (taken parseStr packetMaxPayload conn frame rest ok) queued (gone ++ [frame]) := by
  have hbytes : bytesRead s (as ++ [.frame s ok]) = bytesRead s as := by
    rw [bytesRead_snoc]
    exact List.append_nil _
  have hanswers : answers s (as ++ [.frame s ok]) = answers s as ++ [ok] := by
    rw [answers_snoc]
    simp [answerOf]
  have hqueued := h.queued
  have hnone : unsent conn.stage = [] := by
    rw [hst]
    rfl
  rw [hnone, List.append_nil] at hqueued
  obtain ⟨hunsent, hphase, hversion⟩ :=
    taken_alike parseStr packetMaxPayload h.phase h.version frame rest ok
  obtain ⟨hpending, hbuf, hip⟩ := taken_rest parseStr packetMaxPayload conn frame rest ok
  refine ⟨?_, ?_, ?_, ?_, ?_, ?_⟩
  · rw [hbytes, hpending, h.frames, hst, List.append_assoc]
    rfl
  · rw [hanswers, List.length_append, List.length_append, h.answered]
    rfl
  · rw [hbuf, hbytes, h.readBuf]
  · rw [hip, hanswers, enqueued_snoc h.answered, ← hqueued, hunsent]
  · rw [hip, hanswers, loopState_snoc h.answered, hphase]
  · rw [hip, hanswers, loopState_snoc h.answered, hversion]

lemma GoneThrough.received {chunk : Bytes}
    (h : GoneThrough parseStr packetMaxPayload s as conn queued gone)
    (hst : conn.stage = .frames []) :
    GoneThrough parseStr packetMaxPayload s (as ++ [.read s chunk]) (conn.received chunk) queued
      gone := by
  have hbytes : bytesRead s (as ++ [.read s chunk]) = bytesRead s as ++ chunk := by
    rw [bytesRead_snoc, chunkOf, if_pos rfl]
  have hanswers : answers s (as ++ [.read s chunk]) = answers s as := by
    rw [answers_snoc]
    exact List.append_nil _
  have hgone : (splitFrames (bytesRead s as)).1 = gone := by
    rw [h.frames, hst]
    exact List.append_nil _
  have hqueued := h.queued
  rw [hst] at hqueued
  refine ⟨?_, hanswers ▸ h.answered, ?_, hanswers ▸ hqueued, hanswers ▸ h.phase,
    hanswers ▸ h.version⟩
  · rw [hbytes, splitFrames_append, hgone, ← h.readBuf]
    rfl
  · rw [hbytes, splitFrames_append, ← h.readBuf]
    rfl

lemma GoneThrough.stays {queued' : List ClientCommand}
    (h : GoneThrough parseStr packetMaxPayload s as conn queued gone) (stage : Stage)
    (hsilent : Silent s a)
    (hpending : pending stage = pending conn.stage)
    (hqueued : queued' ++ unsent stage = queued ++ unsent conn.stage) :
    GoneThrough parseStr packetMaxPayload s (as ++ [a]) { conn with stage := stage } queued'
      gone := by
  refine ⟨?_, ?_, ?_, ?_, ?_, ?_⟩
  · rw [hsilent.bytesRead, hpending, h.frames]
  · rw [hsilent.answers, h.answered]
  · rw [hsilent.bytesRead]
    exact h.readBuf
  · rw [hsilent.answers, hqueued, h.queued]
  · rw [hsilent.answers]
    exact h.phase
  · rw [hsilent.answers]
    exact h.version

lemma GoneThrough.silent (hsilent : Silent s a)
    (h : GoneThrough parseStr packetMaxPayload s as conn queued gone) :
    GoneThrough parseStr packetMaxPayload s (as ++ [a]) conn queued gone :=
  h.stays conn.stage hsilent rfl rfl

lemma goneThrough_new (s : SessionId) (remoteIp : String) (hbytes : bytesRead s as = [])
    (hanswers : answers s as = []) :
    GoneThrough parseStr packetMaxPayload s as (.new remoteIp) [] [] := by
  have hnil : splitFrames ([] : Bytes) = ([], []) := rfl
  refine ⟨?_, ?_, ?_, ?_, rfl, rfl⟩
  · rw [hbytes, hnil]
    rfl
  · rw [hanswers]
    rfl
  · rw [hbytes, hnil]
    rfl
  · rfl

/-! ### Runs -/

/-- What a run has given to its sessions has been gone through, connection by connection. -/
structure Streams (parseStr : String → Option Uuid) (packetMaxPayload : ℕ)
    (as : List GatewaySystem.Action) (g : Gateway) : Prop where
  strangers : ∀ s, g.connections.lookup s = none → bytesRead s as = [] ∧ answers s as = []
  gone : ∀ s conn, g.connections.lookup s = some conn → ∃ gone,
    GoneThrough parseStr packetMaxPayload s as conn (commandsOf s (posted g)) gone

lemma Streams.router (h : Streams parseStr packetMaxPayload as g)
    (hconn : g'.connections = g.connections) (hposted : posted g' = posted g)
    (hsilent : ∀ s, Silent s a) : Streams parseStr packetMaxPayload (as ++ [a]) g' := by
  refine ⟨fun s hl => ?_, fun s conn hl => ?_⟩
  · obtain ⟨hbytes, hanswers⟩ := h.strangers s (hconn ▸ hl)
    exact ⟨(hsilent s).bytesRead.trans hbytes, (hsilent s).answers.trans hanswers⟩
  · obtain ⟨gone, hgone⟩ := h.gone s conn (hconn ▸ hl)
    rw [hposted]
    exact ⟨gone, hgone.silent (hsilent s)⟩

lemma Streams.connection (h : Streams parseStr packetMaxPayload as g)
    (hconn : g'.connections = g.connections.insert s conn')
    (hothers : ∀ x, x ≠ s → commandsOf x (posted g') = commandsOf x (posted g) ∧ Silent x a)
    (hself : ∃ gone, GoneThrough parseStr packetMaxPayload s (as ++ [a]) conn'
      (commandsOf s (posted g')) gone) : Streams parseStr packetMaxPayload (as ++ [a]) g' := by
  refine ⟨fun x hl => ?_, fun x connx hl => ?_⟩
  all_goals rw [hconn] at hl
  · by_cases hx : x = s
    · subst hx
      rw [Finmap.lookup_insert] at hl
      cases hl
    · rw [Finmap.lookup_insert_of_ne _ hx] at hl
      obtain ⟨hbytes, hanswers⟩ := h.strangers x hl
      have hsilent := (hothers x hx).2
      exact ⟨hsilent.bytesRead.trans hbytes, hsilent.answers.trans hanswers⟩
  · rcases FMap.lookup_insert_cases hl with ⟨rfl, hv⟩ | ⟨hx, hl⟩
    · cases hv
      exact hself
    · obtain ⟨hcommands, hsilent⟩ := hothers x hx
      obtain ⟨gone, hgone⟩ := h.gone x connx hl
      rw [hcommands]
      exact ⟨gone, hgone.silent hsilent⟩

lemma silent_task {x : SessionId} (hx : x ≠ s)
    (ht : TaskStep parseStr packetMaxPayload s conn a conn') : Silent x a := by
  cases ht with
  | eof | received => exact ⟨if_neg (Ne.symm hx), rfl⟩
  | timeout | readError => exact ⟨rfl, rfl⟩
  | limited | translated => exact ⟨rfl, if_neg (Ne.symm hx)⟩

lemma silent_queue {c : InternalCommand} (x : SessionId) (hq : QueueStep s conn a c conn') :
    Silent x a := by
  cases hq <;> exact ⟨rfl, rfl⟩

lemma goneThrough_task (h : GoneThrough parseStr packetMaxPayload s as conn queued gone)
    (ht : TaskStep parseStr packetMaxPayload s conn a conn') :
    ∃ gone, GoneThrough parseStr packetMaxPayload s (as ++ [a]) conn' queued gone := by
  cases ht with
  | eof hst =>
    have hsilent : Silent s (GatewaySystem.Action.read s []) := ⟨if_pos rfl, rfl⟩
    refine ⟨gone, h.stays .closing hsilent ?_ ?_⟩ <;> rw [hst] <;> rfl
  | timeout hst =>
    have hsilent : Silent s (GatewaySystem.Action.timeout s) := ⟨rfl, rfl⟩
    refine ⟨gone, h.stays .closing hsilent ?_ ?_⟩ <;> rw [hst] <;> rfl
  | readError hst =>
    have hsilent : Silent s (GatewaySystem.Action.readError s) := ⟨rfl, rfl⟩
    refine ⟨gone, h.stays .ended hsilent ?_ ?_⟩ <;> rw [hst] <;> rfl
  | received _ hst => exact ⟨gone, h.received hst⟩
  | limited hst => exact ⟨_, h.frame false hst⟩
  | translated hst => exact ⟨_, h.frame true hst⟩

lemma goneThrough_queue {c : InternalCommand} {l : List InternalCommand}
    (h : GoneThrough parseStr packetMaxPayload s as conn (commandsOf s l) gone)
    (hq : QueueStep s conn a c conn') :
    GoneThrough parseStr packetMaxPayload s (as ++ [a]) conn' (commandsOf s (l ++ [c])) gone := by
  cases hq with
  | @send command rest hst =>
    refine h.stays (.frames rest) ⟨rfl, rfl⟩ (by rw [hst]; rfl) ?_
    rw [commandsOf_command, hst]
    exact List.append_nil _
  | disconnect hst =>
    refine h.stays .removing ⟨rfl, rfl⟩ (by rw [hst]; rfl) ?_
    rw [commandsOf_disconnection, hst]
    rfl

lemma streams_step (ht : Traced g) (h : Streams parseStr packetMaxPayload as g)
    (hst : Step parseStr packetMaxPayload g a g') :
    Streams parseStr packetMaxPayload (as ++ [a]) g' := by
  cases hst with
  | @accept s remoteIp hl =>
    refine h.connection (s := s) rfl (fun x hx => ⟨rfl, rfl, rfl⟩) ⟨[], ?_⟩
    have hsilent : Silent s (GatewaySystem.Action.accept s remoteIp) := ⟨rfl, rfl⟩
    obtain ⟨hbytes, hanswers⟩ := h.strangers s hl
    have hnil : commandsOf s (posted g) = [] := ht.commandsOf_stranger hl
    change GoneThrough _ _ s _ _ (commandsOf s (posted g)) []
    rw [hnil]
    exact goneThrough_new s remoteIp (hsilent.bytesRead.trans hbytes)
      (hsilent.answers.trans hanswers)
  | @task _ s conn conn' hl htask =>
    obtain ⟨gone, hgone⟩ := h.gone s conn hl
    exact h.connection rfl (fun x hx => ⟨rfl, silent_task hx htask⟩)
      (goneThrough_task hgone htask)
  | @queue _ s conn conn' c hl hq =>
    obtain ⟨gone, hgone⟩ := h.gone s conn hl
    have hposted : posted ((g.enqueue c).setConnection s conn') = posted g ++ [c] :=
      (List.append_assoc ..).symm
    refine h.connection rfl (fun x hx => ⟨?_, silent_queue x hq⟩) ⟨gone, ?_⟩
    · rw [hposted, commandsOf_other (Cleanup.queueStep_sentBy hq) (Ne.symm hx)]
    · rw [hposted]
      exact goneThrough_queue hgone hq
  | @remove s conn hl hst =>
    obtain ⟨gone, hgone⟩ := h.gone s conn hl
    refine h.connection (s := s) rfl (fun x hx => ⟨rfl, rfl, rfl⟩) ⟨gone, ?_⟩
    refine hgone.stays .ended ⟨rfl, rfl⟩ ?_ ?_ <;> rw [hst] <;> rfl
  | @recv cmd rest hc hq =>
    refine h.router rfl ?_ fun s => ⟨rfl, rfl⟩
    simp [posted, hq]
  | sync | reply | finish => exact h.router rfl rfl fun s => ⟨rfl, rfl⟩

theorem streams_of_run (h : (GatewaySystem.system parseStr packetMaxPayload).Run as g) :
    Streams parseStr packetMaxPayload as g := by
  refine h.invariant (Streams parseStr packetMaxPayload) traced_of_reached ?_
    fun as g a g' ht _ hg hst => streams_step ht hg (step_cases hst)
  rintro g rfl
  refine ⟨fun s _ => ⟨rfl, rfl⟩, fun s conn hl => ?_⟩
  cases hl

/-- What has not been gone through has no answer yet. -/
lemma GoneThrough.zip (h : GoneThrough parseStr packetMaxPayload s as conn queued gone) :
    (splitFrames (bytesRead s as)).1.zip (answers s as) = gone.zip (answers s as) := by
  rw [h.frames]
  calc (gone ++ pending conn.stage).zip (answers s as)
    _ = (gone ++ pending conn.stage).zip (answers s as ++ []) := by rw [List.append_nil]
    _ = gone.zip (answers s as) ++ (pending conn.stage).zip [] := List.zip_append h.answered
    _ = gone.zip (answers s as) := by rw [List.zip_nil_right, List.append_nil]

/-- **A session queues what its own stream says**, in every run of the gateway: the commands that
its connection has put into the queue, with the one it is about to, are those that the loop makes of
the frames of all bytes read from it and of the answers of the rate limiter to them, however the
stream is cut into reads and whatever the other tasks do. What is left over is the beginning of a
frame. -/
theorem queued_from_stream (h : (GatewaySystem.system parseStr packetMaxPayload).Run as g)
    (hl : g.connections.lookup s = some conn) :
    commandsOf s (posted g) ++ unsent conn.stage =
        enqueued parseStr packetMaxPayload (.new conn.remoteIp)
          ((splitFrames (bytesRead s as)).1.zip (answers s as)) ∧
      (answers s as).length + (pending conn.stage).length =
        (splitFrames (bytesRead s as)).1.length ∧
      conn.readBuf = (splitFrames (bytesRead s as)).2 := by
  obtain ⟨gone, hgone⟩ := (streams_of_run h).gone s conn hl
  refine ⟨?_, ?_, hgone.readBuf⟩
  · rw [hgone.zip, hgone.queued]
  · rw [hgone.frames, List.length_append, hgone.answered]

/-- A login and a heartbeat that is refused, cut in the middle, while another session comes in. -/
theorem queued_from_stream_cut :
    ∃ as g conn, (GatewaySystem.system (fun _ => none) 65535).Run as g ∧
      g.connections.lookup (.fill 7) = some conn ∧ answers (.fill 7) as = [true, false] ∧
      commandsOf (.fill 7) (posted g) ++ unsent conn.stage =
        enqueued (fun _ => none) 65535 (.new conn.remoteIp)
          ((splitFrames (bytesRead (.fill 7) as)).1.zip (answers (.fill 7) as)) ∧
      (commandsOf (.fill 7) (posted g)).length = 1 := by
  let as : List GatewaySystem.Action :=
    [.accept (.fill 7) "10.0.0.1", .read (.fill 7) [9, 0, 1],
      .accept (.fill 8) "10.0.0.2", .read (.fill 8) (encodeFrame 0x02FE []),
      .read (.fill 7) [0, 117, 0, 112, 0, 118, 0, 0, 2, 0, 254, 2],
      .frame (.fill 7) true, .send (.fill 7), .frame (.fill 8) true, .frame (.fill 7) false]
  obtain ⟨g, hrun, hp⟩ := (GatewaySystem.system (fun _ => none) 65535).exists_run rfl as
    (fun g => (g.connections.lookup (.fill 7)).isSome ∧
      (commandsOf (.fill 7) (posted g)).length = 1) (by decide +kernel)
  obtain ⟨hsome, hone⟩ := of_decide_eq_true hp
  obtain ⟨conn, hl⟩ := Option.isSome_iff_exists.mp hsome
  exact ⟨as, g, conn, hrun, hl, by decide, (queued_from_stream hrun hl).1, hone⟩

/-! ### A client that sends commands -/

/-- The commands of a client: with clean texts, and each allowed after those before it. -/
structure Sendable (packetMaxPayload : ℕ) (cmds : List ClientCommand) : Prop where
  clean : ∀ cmd ∈ cmds, CleanCommand cmd
  fixed : ∀ cmd ∈ cmds, ParserDefaults cmd
  fits : ∀ cmd ∈ cmds, (commandPayload cmd).length ≤ packetMaxPayload
  lawful : Lawful cmds

variable {cmds : List ClientCommand}

/-- Frames in a row are split into them. -/
lemma splitFrames_flatten {frames : List Bytes} (h : ∀ f ∈ frames, wireFraming.Delimited f) :
    splitFrames frames.flatten = (frames, []) := by
  have hextract := Framing.extract_flatten_delimited h []
  rw [wireFraming.extract_none (b := []) rfl, List.append_nil, List.append_nil] at hextract
  rw [splitFrames_eq, hextract]

lemma splitFrames_commandFrames (h : ∀ cmd ∈ cmds, CleanCommand cmd) :
    splitFrames (cmds.flatMap commandFrame) = (cmds.map commandFrame, []) := by
  have hdelimited : ∀ u ∈ cmds.map commandFrame, wireFraming.Delimited u := by
    intro u hu
    obtain ⟨cmd, hcmd, rfl⟩ := List.mem_map.mp hu
    have hlen := length_commandPayload (h cmd hcmd)
    have hsize := (WireStream.frameSize_encodeFrame (commandOpcode cmd) (commandPayload cmd)
      []).mpr (by omega)
    rwa [List.append_nil] at hsize
  rw [List.flatMap_def, splitFrames_flatten hdelimited]

/-- What has arrived of a stream of frames is split into the first of them. -/
lemma splitFrames_beginning {b : Bytes} (h : ∀ cmd ∈ cmds, CleanCommand cmd)
    (hb : b <+: cmds.flatMap commandFrame) : (splitFrames b).1 <+: cmds.map commandFrame := by
  obtain ⟨c, hc⟩ := hb
  have hsplit := splitFrames_commandFrames h
  rw [← hc, splitFrames_append, Prod.mk.injEq] at hsplit
  exact ⟨_, hsplit.1⟩

/-- The frame of a command that is allowed becomes the command. -/
lemma frameStep_commandFrame (parseStr : String → Option Uuid) (conn : Connection)
    {cmd : ClientCommand} (hclean : CleanCommand cmd) (hfixed : ParserDefaults cmd)
    (hfits : (commandPayload cmd).length ≤ packetMaxPayload)
    (hallowed : allowedIn conn.phase.asDomainState cmd = true) :
    unsent (frameStep parseStr packetMaxPayload conn (commandFrame cmd, true)).stage = [cmd] ∧
      (frameStep parseStr packetMaxPayload conn (commandFrame cmd, true)).phase =
        nextPhase conn.phase cmd := by
  have hdecode := decodeFrame_commandFrame (length_commandPayload hclean) hfits
  have htranslate : translatePacketForVersion parseStr
      ⟨⟨UInt16.ofNat (2 + (commandPayload cmd).length), commandOpcode cmd⟩, commandPayload cmd⟩
      conn.phase conn.protocolVersion = .ok cmd :=
    translate_of_parse parseStr (parseCommand_commandPayload parseStr _ hclean hfixed) hallowed
      (validatePayload_of_clean hclean)
  rw [frameStep, if_pos rfl]
  unfold Connection.translated
  rw [hdecode]
  dsimp only
  rw [htranslate]
  exact ⟨rfl, rfl⟩

lemma enqueued_commandFrames (pre : List ClientCommand)
    (hclean : ∀ cmd ∈ cmds, CleanCommand cmd) (hfixed : ∀ cmd ∈ cmds, ParserDefaults cmd)
    (hfits : ∀ cmd ∈ cmds, (commandPayload cmd).length ≤ packetMaxPayload)
    (hlawful : Lawful (pre ++ cmds)) (hphase : conn.phase = phaseAfter pre) :
    enqueued parseStr packetMaxPayload conn (cmds.map fun cmd => (commandFrame cmd, true)) =
      cmds := by
  induction cmds generalizing pre conn with
  | nil => rfl
  | cons cmd cmds ih =>
    have hallowed : allowedIn conn.phase.asDomainState cmd = true := by
      rw [hphase]
      exact hlawful pre cmd cmds rfl
    obtain ⟨hunsent, hnext⟩ := frameStep_commandFrame parseStr conn
      (hclean cmd List.mem_cons_self) (hfixed cmd List.mem_cons_self)
      (hfits cmd List.mem_cons_self) hallowed
    rw [List.map_cons, enqueued, hunsent, List.singleton_append]
    refine congrArg (cmd :: ·) (ih (pre ++ [cmd]) ?_ ?_ ?_ ?_ ?_)
    · exact fun c hc => hclean c (List.mem_cons_of_mem _ hc)
    · exact fun c hc => hfixed c (List.mem_cons_of_mem _ hc)
    · exact fun c hc => hfits c (List.mem_cons_of_mem _ hc)
    · rwa [List.append_assoc]
    · rw [hnext, hphase, phaseAfter_snoc]

lemma zip_allowed {oks : List Bool} (hlen : gone.length = oks.length) (hok : false ∉ oks) :
    gone.zip oks = gone.map fun frame => (frame, true) := by
  induction gone generalizing oks with
  | nil => rfl
  | cons frame gone ih =>
    rcases oks with _ | ⟨ok, oks⟩
    · cases hlen
    obtain rfl : ok = true := by
      rcases ok
      · exact absurd List.mem_cons_self hok
      · rfl
    rw [List.zip_cons_cons, List.map_cons,
      ih (Nat.succ.inj hlen) fun hin => hok (List.mem_cons_of_mem _ hin)]

lemma GoneThrough.sendable (hcmds : Sendable packetMaxPayload cmds)
    (h : GoneThrough parseStr packetMaxPayload s as conn queued gone)
    (hread : bytesRead s as <+: cmds.flatMap commandFrame) (hok : false ∉ answers s as) :
    queued ++ unsent conn.stage = cmds.take gone.length := by
  have hframes : gone <+: cmds.map commandFrame :=
    (h.frames ▸ List.prefix_append gone (pending conn.stage)).trans
      (splitFrames_beginning hcmds.clean hread)
  have hgone : gone = (cmds.take gone.length).map commandFrame := by
    rw [List.map_take]
    exact List.prefix_iff_eq_take.mp hframes
  have hmem : ∀ cmd ∈ cmds.take gone.length, cmd ∈ cmds := fun _ hc => List.mem_of_mem_take hc
  have hlawful : Lawful ([] ++ cmds.take gone.length) := by
    have hall : Lawful (cmds.take gone.length ++ cmds.drop gone.length) := by
      rw [List.take_append_drop]
      exact hcmds.lawful
    exact hall.of_append
  rw [h.queued, zip_allowed h.answered hok]
  calc enqueued parseStr packetMaxPayload (.new conn.remoteIp) (gone.map fun f => (f, true))
    _ = enqueued parseStr packetMaxPayload (.new conn.remoteIp)
        ((cmds.take gone.length).map fun cmd => (commandFrame cmd, true)) := by
      conv_lhs => rw [hgone, List.map_map]
      rfl
    _ = cmds.take gone.length :=
      enqueued_commandFrames [] (fun c hc => hcmds.clean c (hmem c hc))
        (fun c hc => hcmds.fixed c (hmem c hc)) (fun c hc => hcmds.fits c (hmem c hc)) hlawful rfl

/-- A connection that waits for its socket, or has ended, has gone through all it has read. -/
lemma GoneThrough.all (h : GoneThrough parseStr packetMaxPayload s as conn queued gone)
    (hstage : conn.stage = .frames [] ∨ conn.stage = .ended) :
    (splitFrames (bytesRead s as)).1 = gone ∧ unsent conn.stage = [] := by
  have hframes := h.frames
  rcases hstage with hst | hst
  all_goals
    rw [hst] at hframes ⊢
    exact ⟨hframes.trans (List.append_nil _), rfl⟩

/-- **A client that sends commands is served**: of a client that sends the frames of commands, each
allowed after those before it, and that the rate limiter lets through, the first commands are
queued, one for each frame that the task has gone through, in order and as they were sent. Once all
of it has been read and the gateway is at rest, the router has taken exactly the commands of the
client. -/
theorem served_as_sent (h : (GatewaySystem.system parseStr packetMaxPayload).Run as g)
    (hl : g.connections.lookup s = some conn) (hcmds : Sendable packetMaxPayload cmds)
    (hread : bytesRead s as <+: cmds.flatMap commandFrame) (hok : false ∉ answers s as) :
    commandsOf s (posted g) ++ unsent conn.stage = cmds.take (answers s as).length ∧
      (bytesRead s as = cmds.flatMap commandFrame →
        (GatewaySystem.system parseStr packetMaxPayload).AtRest
          (fun a => GatewayProgress.own a = true) g → commandsOf s g.handled = cmds) := by
  obtain ⟨gone, hgone⟩ := (streams_of_run h).gone s conn hl
  have hqueued := hgone.sendable hcmds hread hok
  refine ⟨hgone.answered ▸ hqueued, fun hall hrest => ?_⟩
  have hidle := GatewayProgress.idle_of_atRest hrest
  obtain ⟨hframes, hunsent⟩ := hgone.all (hidle.reading s conn hl)
  have hlen : gone.length = cmds.length := by
    rw [← hframes, hall, splitFrames_commandFrames hcmds.clean, List.length_map]
  rw [hunsent, List.append_nil, hlen, List.take_length,
    GatewayProgress.posted_of_idle hidle] at hqueued
  exact hqueued

/-- A login and a heartbeat, in two reads, and all that the gateway makes of them. -/
theorem served_as_sent_login :
    ∃ as g conn, (GatewaySystem.system (fun _ => none) 65535).Run as g ∧
      g.connections.lookup (.fill 7) = some conn ∧
      bytesRead (.fill 7) as =
        [ClientCommand.login ⟨"up", "pw", "v1"⟩, .heartbeat].flatMap commandFrame ∧
      commandsOf (.fill 7) (posted g) ++ unsent conn.stage =
        [ClientCommand.login ⟨"up", "pw", "v1"⟩, .heartbeat].take 2 ∧
      (GatewaySystem.system (fun _ => none) 65535).AtRest
        (fun a => GatewayProgress.own a = true) g ∧
      commandsOf (.fill 7) g.handled = [ClientCommand.login ⟨"up", "pw", "v1"⟩, .heartbeat] := by
  have hclean : CleanCommand (.login ⟨"up", "pw", "v1"⟩) := by
    intro t ht
    rcases ht with _ | ⟨_, _ | ⟨_, _ | ⟨_, ht⟩⟩⟩
    · exact clean_of_ends rfl rfl (by decide) (by decide) (by decide)
    · exact clean_of_ends rfl rfl (by decide) (by decide) (by decide)
    · exact clean_of_ends rfl rfl (by decide) (by decide) (by decide)
    · cases ht
  have hbeat : CleanCommand .heartbeat := fun t ht => by cases ht
  have hcmds : Sendable 65535 [ClientCommand.login ⟨"up", "pw", "v1"⟩, .heartbeat] := by
    refine ⟨?_, ?_, ?_, ?_⟩
    · intro cmd hcmd
      rcases List.mem_pair.mp hcmd with rfl | rfl
      · exact hclean
      · exact hbeat
    · intro cmd hcmd
      rcases List.mem_pair.mp hcmd with rfl | rfl <;> exact trivial
    · decide
    · rw [Lawful, along_cons, along_cons]
      exact ⟨rfl, rfl, along_nil⟩
  let as : List GatewaySystem.Action :=
    [.accept (.fill 7) "10.0.0.1", .read (.fill 7) [11, 0, 1],
      .read (.fill 7) [0, 117, 112, 0, 112, 119, 0, 118, 49, 0, 2, 0, 254, 2],
      .frame (.fill 7) true, .send (.fill 7), .frame (.fill 7) true, .send (.fill 7),
      .recv, .sync, .sync, .reply (.response 200 (.login ⟨true, some (.fill 1), none⟩)), .sync,
      .finish, .recv, .sync, .sync, .reply (.response 200 .other), .finish]
  have hread : bytesRead (.fill 7) as =
      [ClientCommand.login ⟨"up", "pw", "v1"⟩, .heartbeat].flatMap commandFrame := by
    decide +kernel
  obtain ⟨g, hrun, hp⟩ := (GatewaySystem.system (fun _ => none) 65535).exists_run rfl as
    (fun g => g.internalQueue.isEmpty && g.current.isNone &&
      decide (g.connections.keys = {.fill 7}) &&
      (g.connections.lookup (.fill 7)).any fun conn => conn.stage = .frames [])
    (by decide +kernel)
  simp only [Bool.and_eq_true, List.isEmpty_iff, Option.isNone_iff_eq_none, decide_eq_true_eq,
    Option.any_eq_true] at hp
  obtain ⟨⟨⟨hqueue, hcurrent⟩, hkeys⟩, conn, hl, hst⟩ := hp
  have hidle : GatewayProgress.Idle g := by
    refine ⟨hqueue, hcurrent, fun s conn' hl' => ?_⟩
    have hs : s ∈ g.connections.keys :=
      Finmap.mem_keys.mpr (Finmap.mem_of_lookup_eq_some hl')
    rw [hkeys, Finset.mem_singleton] at hs
    subst hs
    obtain rfl := Option.some.inj (hl.symm.trans hl')
    exact .inl hst
  have hrest : (GatewaySystem.system (fun _ => none) 65535).AtRest
      (fun a => GatewayProgress.own a = true) g := GatewayProgress.atRest_of_idle hidle
  obtain ⟨hqueued, hhandled⟩ :=
    served_as_sent hrun hl hcmds (hread ▸ List.prefix_refl _) (by decide)
  exact ⟨as, g, conn, hrun, hl, hread, hqueued, hrest, hhandled hread hrest⟩

/-! ### From the stream to the maps -/

section

open HelbreathBackend.GatewayAndMaps (Patient commandFor)

variable {budget : ℕ} {d : GatewayAndMaps.Deployment} {acts : List GatewayAndMaps.Action}

/-- What the gateway does in a run of the gateway with the world service. -/
def gatewayActions (acts : List GatewayAndMaps.Action) : List GatewaySystem.Action :=
  acts.filterMap fun
    | .gateway a => some a
    | _ => none

lemma run_gateway (h : (GatewayAndMaps.system parseStr packetMaxPayload budget).Run acts d) :
    (GatewaySystem.system parseStr packetMaxPayload).Run (gatewayActions acts) d.gateway := by
  induction h with
  | @init d hinit =>
    obtain rfl : d = ⟨.start, Delivery.start, false, []⟩ := hinit
    exact .init rfl
  | @step acts d d' a hs hst ih =>
    have hsnoc : gatewayActions (acts ++ [a]) = gatewayActions acts ++ gatewayActions [a] :=
      List.filterMap_append
    rw [hsnoc]
    cases GatewayAndMaps.step_cases hst with
    | gateway _ hg => exact ih.step hg
    | answered _ hg | givenUp _ hg => exact ih.step hg
    | serve | arriveLate | world =>
      have hnone : gatewayActions acts ++ [] = gatewayActions acts := List.append_nil _
      exact hnone.symm ▸ ih

/-- The commands that the stream of a session says. -/
def streamed (parseStr : String → Option Uuid) (packetMaxPayload : ℕ) (s : SessionId)
    (as : List GatewaySystem.Action) (remoteIp : String) : List ClientCommand :=
  enqueued parseStr packetMaxPayload (.new remoteIp)
    ((splitFrames (bytesRead s as)).1.zip (answers s as))

lemma handled_beginning (h : (GatewaySystem.system parseStr packetMaxPayload).Run as g)
    (hl : g.connections.lookup s = some conn) :
    commandsOf s g.handled <+: streamed parseStr packetMaxPayload s as conn.remoteIp := by
  obtain ⟨gone, hgone⟩ := (streams_of_run h).gone s conn hl
  rw [streamed, hgone.zip, ← hgone.queued, posted, commandsOf_append, List.append_assoc]
  exact List.prefix_append _ _

/-- **The maps process what the stream of a session says.** In every run of the gateway with the
world service, whatever requests are given up and arrive later: the instances of all maps process
for a session no command that is not the translation of a frame of its own connection, and none more
often than its stream has it; an instance processes them in the order of the stream when the router
goes on from no request that is still to be handled; and nothing is processed for a session that has
no connection. -/
theorem maps_follow_stream
    (h : (GatewayAndMaps.system parseStr packetMaxPayload budget).Run acts d) (s : SessionId) :
    (∀ conn, d.gateway.connections.lookup s = some conn →
      ((d.world.ticks.flatMap (·.commands)).filterMap (commandFor s)).Subperm
          (streamed parseStr packetMaxPayload s (gatewayActions acts) conn.remoteIp) ∧
        ((GatewayAndMaps.system parseStr packetMaxPayload budget).ReachedBy Patient d →
          ∀ tx, ((d.world.processed tx).filterMap (commandFor s)).Sublist
            (streamed parseStr packetMaxPayload s (gatewayActions acts) conn.remoteIp))) ∧
    (d.gateway.connections.lookup s = none →
      (d.world.ticks.flatMap (·.commands)).filterMap (commandFor s) = []) := by
  have hrouted := GatewayAndMaps.processed_subperm_routed h.reached s
  have htaken := hrouted.trans (GatewayAndMaps.routed_subperm_handled h.reached s)
  have hrun := run_gateway h
  refine ⟨fun conn hl => ⟨?_, fun hpatient tx => ?_⟩, fun hl => ?_⟩
  · exact htaken.trans (handled_beginning hrun hl).sublist.subperm
  · have hordered := GatewayAndMaps.processed_sublist_routed h.reached s tx
    exact (hordered.trans (GatewayAndMaps.routed_sublist_handled hpatient s)).trans
      (handled_beginning hrun hl).sublist
  · have hposted := (traced_of_reached hrun.reached).commandsOf_stranger hl
    rw [posted, commandsOf_append, List.append_eq_nil_iff] at hposted
    rw [hposted.1] at htaken
    exact List.subperm_nil.mp htaken

/-- An entry and a heartbeat of one session, processed by the instance of map 2. -/
theorem maps_follow_stream_entered :
    ∃ acts d conn, (GatewayAndMaps.system (fun _ => none) 65535 64).Run acts d ∧
      d.gateway.connections.lookup (.fill 7) = some conn ∧
      (d.world.ticks.flatMap (·.commands)).filterMap (commandFor (.fill 7)) =
        [.enterWorld, .heartbeat] ∧
      ((d.world.ticks.flatMap (·.commands)).filterMap (commandFor (.fill 7))).Subperm
        (streamed (fun _ => none) 65535 (.fill 7) (gatewayActions acts) conn.remoteIp) := by
  let acts : List GatewayAndMaps.Action :=
    GatewayAndMaps.opened (encodeFrame 0x02FE []) ++
      [.gateway .recv, .gateway .sync, .gateway .sync, .gateway .sync, .serve,
        .gateway (.reply (.response 200 .other)), .gateway .sync, .gateway .finish,
        .gateway .recv, .gateway .sync, .gateway .sync, .serve,
        .gateway (.reply (.response 200 .other)), .gateway .finish,
        .world (.manager .recv), .world (.manager .recv), .world (.route 0), .world (.route 0),
        .world (.tick 0 default)]
  obtain ⟨d, hrun, hp⟩ := (GatewayAndMaps.system (fun _ => none) 65535 64).exists_run rfl acts
    (fun d => (d.gateway.connections.lookup (.fill 7)).isSome ∧
      (d.world.ticks.flatMap (·.commands)).filterMap (commandFor (.fill 7)) =
        [.enterWorld, .heartbeat]) (by decide +kernel)
  obtain ⟨hsome, hprocessed⟩ := of_decide_eq_true hp
  obtain ⟨conn, hl⟩ := Option.isSome_iff_exists.mp hsome
  exact ⟨acts, d, conn, hrun, hl, hprocessed, ((maps_follow_stream hrun (.fill 7)).1 conn hl).1⟩

end

end HelbreathBackend.SessionStream
