import HelbreathBackend.Application
import HelbreathBackend.OutboundFeed
import HelbreathBackend.Lib.FiniteMap
import HelbreathBackend.Lib.Progress
import HelbreathBackend.Lib.Window

/-!
The chat service.

A handler checks a message and waits until the command channel has room for it. The service takes
the commands off that channel, turns each into an envelope and waits until the channel of envelopes
has room; and the sink keeps the last 256 envelopes for whoever asks. All of this may interleave in
any way, and the client of a waiting handler may go away.
-/

namespace HelbreathBackend.ChatService

open HelbreathBackend.Lib HelbreathBackend.Domain HelbreathBackend.Application
open HelbreathBackend.OutboundFeed (clampLimit)

inductive ChatCommand
  | sayMap (fromCharacterId : CharacterId) (mapId : MapId) (message : String)
  | whisper (fromCharacterId : CharacterId) (toCharacterName message : String)
  | guild (fromCharacterId : CharacterId) (guildId : Uuid) (message : String)
  deriving DecidableEq

structure ChatEnvelope where
  fromCharacterId : CharacterId
  message : String
  channel : String
  deriving DecidableEq

/-- The `match` of `ChatService::run`. -/
def envelope : ChatCommand → ChatEnvelope
  | .sayMap fromCharacterId _ message => ⟨fromCharacterId, message, "map"⟩
  | .whisper fromCharacterId _ message => ⟨fromCharacterId, message, "whisper"⟩
  | .guild fromCharacterId _ message => ⟨fromCharacterId, message, "guild"⟩

/-- The reply of a handler: `{"ok": true}`, or `{"ok": false, "error": ..}`. -/
inductive ChatReply
  | ok
  | error (error : String)
  deriving DecidableEq

/-- The checks of `say_map`, `whisper` and `guild`. -/
def check : ChatCommand → Option String
  | .sayMap _ _ message => if trim message = "" then some "empty_message" else none
  | .whisper _ toCharacterName message =>
    if trim message = "" ∨ trim toCharacterName = "" then some "invalid_payload" else none
  | .guild _ _ message => if trim message = "" then some "empty_message" else none

/-- A request to one of the three handlers. -/
abbrev RequestId := ℕ

structure ChatState where
  /-- the handlers that wait in `cmd_tx.send` -/
  waiting : FMap RequestId ChatCommand
  cmdRx : List ChatCommand
  /-- the envelope that the service waits with in `tx.send` -/
  sending : Option ChatEnvelope
  outRx : List ChatEnvelope
  recent : List ChatEnvelope
  /-- history: what was replied -/
  replies : List (RequestId × ChatReply)
  /-- history: the commands that were sent, and by which requests -/
  accepted : List (RequestId × ChatCommand)

namespace ChatState

variable (c : ChatState)

/-- A new request. -/
def post (id : RequestId) (command : ChatCommand) : Option ChatState :=
  if (c.waiting.lookup id).isSome ∨ id ∈ c.replies.map (·.1) then none
  else
    match check command with
    | some error => some { c with replies := c.replies ++ [(id, .error error)] }
    | none => some { c with waiting := c.waiting.insert id command }

/-- The client of a waiting handler goes away, and the handler with it. -/
def dropped (id : RequestId) : Option ChatState :=
  (c.waiting.lookup id).map fun _ => { c with waiting := c.waiting.erase id }

/-- A waiting handler gets a place in the command channel, and replies. -/
def send (id : RequestId) : Option ChatState :=
  (c.waiting.lookup id).bind fun command =>
    if c.cmdRx.length < 2048 then
      some { c with
        waiting := c.waiting.erase id
        cmdRx := c.cmdRx ++ [command]
        replies := c.replies ++ [(id, .ok)]
        accepted := c.accepted ++ [(id, command)] }
    else none

/-- The service takes a command. -/
def recv : Option ChatState :=
  match c.sending, c.cmdRx with
  | none, command :: rest => some { c with cmdRx := rest, sending := some (envelope command) }
  | _, _ => none

/-- The envelope of the service gets a place in its channel. -/
def forward : Option ChatState :=
  c.sending.bind fun e =>
    if c.outRx.length < 2048 then some { c with sending := none, outRx := c.outRx ++ [e] }
    else none

/-- One round of the sink. -/
def sink : Option ChatState :=
  match c.outRx with
  | [] => none
  | msg :: rest =>
    let guard := if 256 ≤ c.recent.length then c.recent.tail else c.recent
    some { c with outRx := rest, recent := guard ++ [msg] }

/-- The rows of `/v1/chat/outbound`. -/
def outbound (limit : Option ℕ) : List ChatEnvelope :=
  c.recent.reverse.take (clampLimit limit)

end ChatState

inductive ChatAction
  | post (id : RequestId) (command : ChatCommand)
  | dropped (id : RequestId)
  | send (id : RequestId)
  | recv
  | forward
  | sink

/-- What the service does without its clients. -/
def ChatAction.own : ChatAction → Bool
  | .post .. | .dropped _ => false
  | .send _ | .recv | .forward | .sink => true

def ChatState.initial : ChatState := ⟨∅, [], none, [], [], [], []⟩

def chatSystem : System ChatState ChatAction where
  init c := c = .initial
  step c
    | .post id command => c.post id command
    | .dropped id => c.dropped id
    | .send id => c.send id
    | .recv => c.recv
    | .forward => c.forward
    | .sink => c.sink

/-! ### The envelopes on their way -/

/-- The envelopes that are not in the ring yet, the oldest first. -/
def ChatState.onTheWay (c : ChatState) : List ChatEnvelope :=
  c.outRx ++ c.sending.toList ++ c.cmdRx.map envelope

/-- What became of the commands that were accepted. -/
structure Carried (c : ChatState) (shown : List ChatEnvelope) : Prop where
  accepted : c.accepted.map (fun a => envelope a.2) = shown ++ c.onTheWay
  ring : c.recent = shown.foldl (slide 256) []
  cmdRx_le : c.cmdRx.length ≤ 2048
  outRx_le : c.outRx.length ≤ 2048

variable {c c' : ChatState} {shown : List ChatEnvelope}

lemma Carried.sink (h : Carried c shown) (hst : c.sink = some c') :
    ∃ e, Carried c' (shown ++ [e]) := by
  unfold ChatState.sink at hst
  split at hst
  · cases hst
  · next e rest hrx =>
    obtain rfl := Option.some.inj hst
    have hway : c.onTheWay = e :: (rest ++ c.sending.toList ++ c.cmdRx.map envelope) := by
      rw [ChatState.onTheWay, hrx]
      rfl
    have hlen : c.recent.length ≤ 256 := by
      rw [h.ring, foldl_slide, length_rtake]
      omega
    refine ⟨e, ⟨?_, ?_, h.cmdRx_le, ?_⟩⟩
    · rw [h.accepted, hway, List.append_cons]
      rfl
    · show (if 256 ≤ c.recent.length then c.recent.tail else c.recent) ++ [e] = _
      rw [List.foldl_append, ← h.ring, List.foldl_cons, List.foldl_nil, slide, List.rtake,
        List.length_append, List.length_singleton]
      split
      · next hfull =>
        rw [show c.recent.length + 1 - 256 = 1 by omega, List.drop_append_of_le_length (by omega),
          List.drop_one]
      · next hroom => rw [show c.recent.length + 1 - 256 = 0 by omega, List.drop_zero]
    · have hle := h.outRx_le
      rw [hrx, List.length_cons] at hle
      show rest.length ≤ 2048
      omega

/-- **The pipeline**: every command that was accepted is on its way or was shown, in the order in
which they were accepted, and the ring has the last 256 that were shown. -/
theorem carried_of_reached (h : chatSystem.Reached c) : ∃ shown, Carried c shown := by
  refine h.invariant (fun c => ∃ shown, Carried c shown) ?_ ?_
  · rintro c rfl
    exact ⟨[], rfl, rfl, Nat.zero_le _, Nat.zero_le _⟩
  · rintro c a c' ⟨shown, hc⟩ - hst
    cases a with
    | post id command =>
      change c.post id command = some c' at hst
      unfold ChatState.post at hst
      split at hst
      · cases hst
      · split at hst <;> obtain rfl := Option.some.inj hst
        · exact ⟨shown, hc.accepted, hc.ring, hc.cmdRx_le, hc.outRx_le⟩
        · exact ⟨shown, hc.accepted, hc.ring, hc.cmdRx_le, hc.outRx_le⟩
    | dropped id =>
      obtain ⟨command, -, rfl⟩ := Option.map_eq_some_iff.mp hst
      exact ⟨shown, hc.accepted, hc.ring, hc.cmdRx_le, hc.outRx_le⟩
    | send id =>
      obtain ⟨command, -, hsend⟩ := Option.bind_eq_some_iff.mp hst
      split at hsend
      · next hroom =>
        obtain rfl := Option.some.inj hsend
        refine ⟨shown, ?_, hc.ring, ?_, hc.outRx_le⟩
        · rw [List.map_append, hc.accepted]
          simp [ChatState.onTheWay]
        · show (c.cmdRx ++ [command]).length ≤ 2048
          rw [List.length_append]
          exact hroom
      · cases hsend
    | recv =>
      change c.recv = some c' at hst
      unfold ChatState.recv at hst
      split at hst
      · next command rest hsending hrx =>
        obtain rfl := Option.some.inj hst
        have hle := hc.cmdRx_le
        refine ⟨shown, ?_, hc.ring, ?_, hc.outRx_le⟩
        · rw [hc.accepted]
          simp [ChatState.onTheWay, hsending, hrx]
        · rw [hrx, List.length_cons] at hle
          show rest.length ≤ 2048
          omega
      · cases hst
    | forward =>
      obtain ⟨e, hsending, hforward⟩ := Option.bind_eq_some_iff.mp hst
      split at hforward
      · next hroom =>
        obtain rfl := Option.some.inj hforward
        refine ⟨shown, ?_, hc.ring, hc.cmdRx_le, ?_⟩
        · rw [hc.accepted]
          simp [ChatState.onTheWay, hsending]
        · show (c.outRx ++ [e]).length ≤ 2048
          rw [List.length_append]
          exact hroom
      · cases hforward
    | sink =>
      obtain ⟨e, hc'⟩ := hc.sink hst
      exact ⟨_, hc'⟩

/-! ### Requests and replies -/

/-- What was replied to whom: nobody is answered twice, whoever waits is not answered yet, and
those who are told that it went well are those whose commands were accepted. -/
structure Answers (c : ChatState) : Prop where
  nodup : (c.replies.map (·.1)).Nodup
  waiting : ∀ id command, c.waiting.lookup id = some command →
    id ∉ c.replies.map (·.1) ∧ check command = none
  replied : (c.replies.filter fun r => r.2 = .ok).map (·.1) = c.accepted.map (·.1)
  checked : ∀ a ∈ c.accepted, check a.2 = none

lemma Answers.replied_once (h : Answers c) {id : RequestId} (hid : id ∉ c.replies.map (·.1))
    (reply : ChatReply) : ((c.replies ++ [(id, reply)]).map (·.1)).Nodup := by
  rw [List.map_append, List.nodup_append]
  refine ⟨h.nodup, List.nodup_singleton _, fun x hx y hy => ?_⟩
  rw [List.map_cons, List.map_nil, List.mem_singleton] at hy
  rintro rfl
  rw [hy] at hx
  exact hid hx

lemma Answers.post (h : Answers c) {id : RequestId} {command : ChatCommand}
    (hst : c.post id command = some c') : Answers c' := by
  unfold ChatState.post at hst
  split at hst
  · cases hst
  · next hfresh =>
    rw [not_or] at hfresh
    split at hst
    · next error hcheck =>
      obtain rfl := Option.some.inj hst
      refine ⟨h.replied_once hfresh.2 _, fun id' command' hw => ?_, ?_, h.checked⟩
      · obtain ⟨hnot, hok⟩ := h.waiting id' command' hw
        refine ⟨fun hin => ?_, hok⟩
        rw [List.map_append, List.mem_append, List.map_cons, List.map_nil,
          List.mem_singleton] at hin
        rcases hin with hin | hid
        · exact hnot hin
        · change id' = id at hid
          rw [← hid, hw] at hfresh
          exact hfresh.1 rfl
      · rw [List.filter_append, List.map_append, h.replied, List.filter_cons_of_neg (by simp)]
        exact List.append_nil _
    · next hcheck =>
      obtain rfl := Option.some.inj hst
      refine ⟨h.nodup, fun id' command' hw => ?_, h.replied, h.checked⟩
      rcases FMap.lookup_insert_cases hw with ⟨rfl, rfl⟩ | ⟨-, hw⟩
      · exact ⟨hfresh.2, hcheck⟩
      · exact h.waiting id' command' hw

lemma Answers.send (h : Answers c) {id : RequestId} (hst : c.send id = some c') :
    Answers c' := by
  obtain ⟨command, hw, hsend⟩ := Option.bind_eq_some_iff.mp hst
  obtain ⟨hnot, hok⟩ := h.waiting id command hw
  split at hsend
  · obtain rfl := Option.some.inj hsend
    refine ⟨h.replied_once hnot _, fun id' command' hw' => ?_, ?_, fun a ha => ?_⟩
    · obtain ⟨hne, hw'⟩ := FMap.lookup_of_erase hw'
      obtain ⟨hnot', hok'⟩ := h.waiting id' command' hw'
      refine ⟨fun hin => ?_, hok'⟩
      rw [List.map_append, List.mem_append, List.map_cons, List.map_nil,
        List.mem_singleton] at hin
      exact hin.elim hnot' hne
    · rw [List.filter_append, List.map_append, h.replied, List.map_append,
        List.filter_cons_of_pos (by simp)]
      rfl
    · rcases List.mem_append.mp ha with ha | ha
      · exact h.checked a ha
      · rw [List.mem_singleton.mp ha]
        exact hok
  · cases hsend

lemma Answers.of_same (h : Answers c) (hwaiting : c'.waiting = c.waiting)
    (hreplies : c'.replies = c.replies) (haccepted : c'.accepted = c.accepted) : Answers c' := by
  refine ⟨?_, ?_, ?_, ?_⟩
  · rw [hreplies]
    exact h.nodup
  · rw [hwaiting, hreplies]
    exact h.waiting
  · rw [hreplies, haccepted]
    exact h.replied
  · rw [haccepted]
    exact h.checked

/-- What the service and the sink do is between the channels and the ring. -/
lemma recv_same (hst : c.recv = some c') :
    c'.waiting = c.waiting ∧ c'.replies = c.replies ∧ c'.accepted = c.accepted := by
  unfold ChatState.recv at hst
  split at hst
  · obtain rfl := Option.some.inj hst
    exact ⟨rfl, rfl, rfl⟩
  · cases hst

lemma forward_same (hst : c.forward = some c') :
    c'.waiting = c.waiting ∧ c'.replies = c.replies ∧ c'.accepted = c.accepted := by
  obtain ⟨e, -, hforward⟩ := Option.bind_eq_some_iff.mp hst
  split at hforward
  · obtain rfl := Option.some.inj hforward
    exact ⟨rfl, rfl, rfl⟩
  · cases hforward

lemma sink_same (hst : c.sink = some c') :
    c'.waiting = c.waiting ∧ c'.replies = c.replies ∧ c'.accepted = c.accepted := by
  unfold ChatState.sink at hst
  split at hst
  · cases hst
  · obtain rfl := Option.some.inj hst
    exact ⟨rfl, rfl, rfl⟩

theorem answers_of_reached (h : chatSystem.Reached c) : Answers c := by
  refine h.invariant Answers ?_ ?_
  · rintro c rfl
    refine ⟨List.nodup_nil, fun id command hw => ?_, rfl, fun a ha => ?_⟩
    · cases hw
    · cases ha
  · rintro c a c' hc - hst
    cases a with
    | post id command => exact hc.post hst
    | dropped id =>
      obtain ⟨command, -, rfl⟩ := Option.map_eq_some_iff.mp hst
      exact ⟨hc.nodup, fun id' command' hw => hc.waiting id' command' (FMap.lookup_of_erase hw).2,
        hc.replied, hc.checked⟩
    | send id => exact hc.send hst
    | recv =>
      obtain ⟨hwaiting, hreplies, haccepted⟩ := recv_same hst
      exact hc.of_same hwaiting hreplies haccepted
    | forward =>
      obtain ⟨hwaiting, hreplies, haccepted⟩ := forward_same hst
      exact hc.of_same hwaiting hreplies haccepted
    | sink =>
      obtain ⟨hwaiting, hreplies, haccepted⟩ := sink_same hst
      exact hc.of_same hwaiting hreplies haccepted

/-! ### What is shown -/

/-- The rows that a client gets are the newest of these messages, the newest first. -/
def Shows (c : ChatState) (limit : Option ℕ) (messages : List (RequestId × ChatCommand)) : Prop :=
  c.outbound limit = (messages.map fun a => envelope a.2).reverse.take (clampLimit limit)

lemma Carried.outbound (h : Carried c shown) (limit : Option ℕ) :
    c.outbound limit = shown.reverse.take (clampLimit limit) := by
  have hle : min (clampLimit limit) 256 = clampLimit limit := by
    unfold clampLimit
    omega
  have hring : c.recent.reverse = shown.reverse.take 256 := by
    rw [h.ring, foldl_slide, List.rtake_eq_reverse_take_reverse, List.reverse_reverse]
  rw [ChatState.outbound, hring, List.take_take, hle]

/-- The work that is left: what waits has four steps to go, and each step one less. -/
def ChatState.left (c : ChatState) : ℕ :=
  4 * c.waiting.keys.card + 3 * c.cmdRx.length + 2 * c.sending.toList.length + c.outRx.length

/-- Nobody who waited is forgotten. -/
structure Later (c₀ c : ChatState) : Prop where
  reached : chatSystem.Reached c
  accepted : c₀.accepted <+: c.accepted
  waiting : ∀ id command, c₀.waiting.lookup id = some command →
    c.waiting.lookup id = some command ∨ (id, command) ∈ c.accepted

variable {c₀ : ChatState}

lemma Later.of_same (h : Later c₀ c) (hreached : chatSystem.Reached c')
    (hwaiting : c'.waiting = c.waiting) (haccepted : c'.accepted = c.accepted) :
    Later c₀ c' := by
  refine ⟨hreached, ?_, ?_⟩
  · rw [haccepted]
    exact h.accepted
  · rw [hwaiting, haccepted]
    exact h.waiting

lemma Later.send (h : Later c₀ c) {id : RequestId} (hst : c.send id = some c') :
    Later c₀ c' ∧ c'.left < c.left := by
  have hreached : chatSystem.Reached c' := h.reached.step (a := .send id) trivial hst
  obtain ⟨command, hw, hsend⟩ := Option.bind_eq_some_iff.mp hst
  split at hsend
  · obtain rfl := Option.some.inj hsend
    refine ⟨⟨hreached, h.accepted.trans (List.prefix_append _ _), fun id' command' hw' => ?_⟩, ?_⟩
    · rcases h.waiting id' command' hw' with hstill | hin
      · by_cases he : id' = id
        · subst he
          rw [hw] at hstill
          obtain rfl := Option.some.inj hstill
          exact .inr (List.mem_append_right _ List.mem_cons_self)
        · exact .inl ((FMap.lookup_erase_eq _ _ _).trans ((if_neg he).trans hstill))
      · exact .inr (List.mem_append_left _ hin)
    · have hcard := FMap.keys_erase_card c.waiting id
      rw [hw, Option.isSome_some, if_pos rfl] at hcard
      simp only [ChatState.left, List.length_append, List.length_singleton]
      omega
  · cases hsend

lemma Later.step (h : Later c₀ c) {a : ChatAction} (ha : a.own = true)
    (hst : chatSystem.step c a = some c') : Later c₀ c' ∧ c'.left < c.left := by
  have hreached : chatSystem.Reached c' := h.reached.step trivial hst
  cases a with
  | post id command => cases ha
  | dropped id => cases ha
  | send id => exact h.send hst
  | recv =>
    obtain ⟨hwaiting, -, haccepted⟩ := recv_same hst
    refine ⟨h.of_same hreached hwaiting haccepted, ?_⟩
    change c.recv = some c' at hst
    unfold ChatState.recv at hst
    split at hst
    · next command rest hsending hrx =>
      obtain rfl := Option.some.inj hst
      simp only [ChatState.left, hsending, hrx, List.length_cons, Option.toList_none,
        Option.toList_some, List.length_nil]
      omega
    · cases hst
  | forward =>
    obtain ⟨hwaiting, -, haccepted⟩ := forward_same hst
    refine ⟨h.of_same hreached hwaiting haccepted, ?_⟩
    obtain ⟨e, hsending, hforward⟩ := Option.bind_eq_some_iff.mp hst
    split at hforward
    · obtain rfl := Option.some.inj hforward
      simp only [ChatState.left, hsending, List.length_append, List.length_cons, List.length_nil,
        Option.toList_none, Option.toList_some]
      omega
    · cases hforward
  | sink =>
    obtain ⟨hwaiting, -, haccepted⟩ := sink_same hst
    refine ⟨h.of_same hreached hwaiting haccepted, ?_⟩
    change c.sink = some c' at hst
    unfold ChatState.sink at hst
    split at hst
    · cases hst
    · next e rest hrx =>
      obtain rfl := Option.some.inj hst
      simp only [ChatState.left, hrx, List.length_cons]
      omega

end HelbreathBackend.ChatService
