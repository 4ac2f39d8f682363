import HelbreathBackend.GatewayTrace

/-!
The grammar of a session.

Two tables say which commands a connection lets through: those that a phase allows, and the phase
that follows a command. What they admit together is a login, commands on characters, the world and
a logout, each part only after the one before it, and heartbeats in between.
-/

namespace HelbreathBackend.SessionGrammar

open HelbreathBackend.Lib HelbreathBackend.Domain HelbreathBackend.Application
open HelbreathBackend.Frame HelbreathBackend.Translate HelbreathBackend.Gateway
open HelbreathBackend.Routing HelbreathBackend.GatewaySystem HelbreathBackend.GatewayTrace

/-! ### Sentences -/

def isHeartbeat : ClientCommand → Bool
  | .heartbeat => true
  | _ => false

def isCharacterCommand : ClientCommand → Bool
  | .characterList | .characterCreate _ | .characterDelete _ | .characterSelect _ => true
  | _ => false

/-- The commands of play, and further entries. -/
def isWorldCommand : ClientCommand → Bool
  | .enterWorld | .move .. | .attack _ | .castSkill .. | .pickupItem _ | .dropItem .. | .useItem _
  | .npcInteraction _ | .chat _ | .whisper .. | .guildChat _ => true
  | _ => false

def withoutHeartbeats (cs : List ClientCommand) : List ClientCommand :=
  cs.filter fun c => !isHeartbeat c

/-- The part of the world: an entry first, and only if there were commands on characters. -/
def WorldPart (characters world : List ClientCommand) : Prop :=
  world = [] ∨ characters ≠ [] ∧
    ∃ rest, world = .enterWorld :: rest ∧ ∀ c ∈ rest, isWorldCommand c = true

def Sentence (cs : List ClientCommand) : Prop :=
  cs = [] ∨ ∃ payload characters world last,
    cs = .login payload :: characters ++ world ++ last ∧
    (∀ c ∈ characters, isCharacterCommand c = true) ∧ WorldPart characters world ∧
    (last = [] ∨ last = [.logout])

structure Grammatical (cs : List ClientCommand) : Prop where
  sentence : Sentence (withoutHeartbeats cs)
  before : ∀ pre payload post, cs = pre ++ .login payload :: post →
    ∀ c ∈ pre, isHeartbeat c = true
  once : ∀ pre payload post, cs = pre ++ .login payload :: post → ∀ payload', .login payload' ∉ post
  last : ∀ pre post, cs = pre ++ .logout :: post → post = []

/-! ### What the tables admit -/

/-- What has been let through, up to a phase that is not closed. -/
def Opened : SessionPhase → List ClientCommand → Prop
  | .preAuth, l => l = []
  | .postAuth, l => ∃ payload, l = [.login payload]
  | .inCharacterList, l => ∃ payload characters, l = .login payload :: characters ∧
    characters ≠ [] ∧ ∀ c ∈ characters, isCharacterCommand c = true
  | .inWorld, l => ∃ payload characters rest,
    l = .login payload :: characters ++ .enterWorld :: rest ∧ characters ≠ [] ∧
    (∀ c ∈ characters, isCharacterCommand c = true) ∧ ∀ c ∈ rest, isWorldCommand c = true
  | .closed, _ => False

/-- What has been let through, up to any phase. -/
def Shape (p : SessionPhase) (l : List ClientCommand) : Prop :=
  Opened p l ∨ p = .closed ∧ ∃ q l', q ≠ .preAuth ∧ Opened q l' ∧ l = l' ++ [.logout]

lemma forall_mem_snoc {α : Type*} {P : α → Prop} {l : List α} {x : α} (hl : ∀ y ∈ l, P y)
    (hx : P x) : ∀ y ∈ l ++ [x], P y := by
  intro y hy
  rcases List.mem_append.mp hy with hy | hy
  · exact hl y hy
  · rwa [List.mem_singleton.mp hy]

lemma opened_character {p : SessionPhase} {l : List ClientCommand} {c : ClientCommand}
    (h : Opened p l) (hp : p = .postAuth ∨ p = .inCharacterList)
    (hc : isCharacterCommand c = true) : Opened .inCharacterList (l ++ [c]) := by
  rcases hp with rfl | rfl
  · obtain ⟨payload, rfl⟩ := h
    exact ⟨payload, [c], rfl, by simp, by simpa using hc⟩
  · obtain ⟨payload, characters, rfl, -, hall⟩ := h
    exact ⟨payload, characters ++ [c], by simp, by simp, forall_mem_snoc hall hc⟩

lemma opened_world {l : List ClientCommand} {c : ClientCommand} (h : Opened .inWorld l)
    (hc : isWorldCommand c = true) : Opened .inWorld (l ++ [c]) := by
  obtain ⟨payload, characters, rest, rfl, hne, hall, hrest⟩ := h
  exact ⟨payload, characters, rest ++ [c], by simp, hne, hall, forall_mem_snoc hrest hc⟩

lemma shape_snoc {p : SessionPhase} {l : List ClientCommand} {c : ClientCommand}
    (h : Shape p l) (hc : allowedIn p.asDomainState c = true) :
    Shape (nextPhase p c) (l ++ withoutHeartbeats [c]) := by
  have hp := ne_closed_of_allowed hc
  have ho : Opened p l := h.resolve_right fun hcl => hp hcl.1
  have hbeat : ∀ l : List ClientCommand, l ++ withoutHeartbeats [.heartbeat] = l :=
    List.append_nil
  cases p with
  | preAuth =>
    cases c with
    | login payload =>
      obtain rfl : l = [] := ho
      exact .inl ⟨payload, rfl⟩
    | heartbeat =>
      rw [hbeat]
      exact .inl ho
    | _ => cases hc
  | postAuth =>
    cases c with
    | characterList | characterCreate | characterDelete | characterSelect =>
      exact .inl (opened_character ho (.inl rfl) rfl)
    | logout => exact .inr ⟨rfl, .postAuth, l, by simp, ho, rfl⟩
    | heartbeat =>
      rw [hbeat]
      exact .inl ho
    | _ => cases hc
  | inCharacterList =>
    cases c with
    | characterList | characterCreate | characterDelete | characterSelect =>
      exact .inl (opened_character ho (.inr rfl) rfl)
    | enterWorld =>
      obtain ⟨payload, characters, rfl, hne, hall⟩ := ho
      exact .inl ⟨payload, characters, [], rfl, hne, hall, nofun⟩
    | logout => exact .inr ⟨rfl, .inCharacterList, l, by simp, ho, rfl⟩
    | heartbeat =>
      rw [hbeat]
      exact .inl ho
    | _ => cases hc
  | inWorld =>
    cases c with
    | enterWorld | move | attack | castSkill | pickupItem | dropItem | useItem | npcInteraction
    | chat | whisper | guildChat => exact .inl (opened_world ho rfl)
    | logout => exact .inr ⟨rfl, .inWorld, l, by simp, ho, rfl⟩
    | heartbeat =>
      rw [hbeat]
      exact .inl ho
    | _ => cases hc
  | closed => exact absurd rfl hp

lemma phaseAfter_snoc (cs : List ClientCommand) (c : ClientCommand) :
    phaseAfter (cs ++ [c]) = nextPhase (phaseAfter cs) c := phaseAfter_append cs [c]

lemma shape_of_lawful {cs : List ClientCommand} (h : Lawful cs) :
    Shape (phaseAfter cs) (withoutHeartbeats cs) := by
  induction cs using List.reverseRecOn with
  | nil => exact .inl rfl
  | append_singleton cs c ih =>
    obtain ⟨hcs, hc⟩ := along_snoc.mp h
    have hnext := shape_snoc (ih hcs) hc
    rw [phaseAfter_snoc, withoutHeartbeats, List.filter_append]
    exact hnext

lemma sentence_of_opened {p : SessionPhase} {l last : List ClientCommand} (h : Opened p l)
    (hp : p ≠ .preAuth) (hlast : last = [] ∨ last = [.logout]) : Sentence (l ++ last) := by
  cases p with
  | preAuth => exact absurd rfl hp
  | postAuth =>
    obtain ⟨payload, rfl⟩ := h
    exact .inr ⟨payload, [], [], last, rfl, nofun, .inl rfl, hlast⟩
  | inCharacterList =>
    obtain ⟨payload, characters, rfl, -, hall⟩ := h
    exact .inr ⟨payload, characters, [], last, by simp, hall, .inl rfl, hlast⟩
  | inWorld =>
    obtain ⟨payload, characters, rest, rfl, hne, hall, hrest⟩ := h
    exact .inr ⟨payload, characters, .enterWorld :: rest, last, rfl, hall,
      .inr ⟨hne, rest, rfl, hrest⟩, hlast⟩
  | closed => exact h.elim

/-- **What the tables admit is grammatical.** -/
theorem grammatical_of_lawful {cs : List ClientCommand} (h : Lawful cs) : Grammatical cs := by
  have hbefore : ∀ pre payload post, cs = pre ++ .login payload :: post →
      ∀ c ∈ pre, isHeartbeat c = true := by
    intro pre payload post he c hc
    have hpre : Lawful pre := Along.of_append (he ▸ h)
    have hphase := eq_preAuth_of_login (h pre _ post he)
    have hshape := shape_of_lawful hpre
    rw [hphase] at hshape
    have hnil : withoutHeartbeats pre = [] := hshape.resolve_right fun hcl => by cases hcl.1
    simpa using List.filter_eq_nil_iff.mp hnil c hc
  refine ⟨?_, hbefore, fun pre payload post he payload' hin => ?_, fun pre post he => ?_⟩
  · rcases shape_of_lawful h with ho | ⟨-, q, l', hq, ho, he⟩
    · rcases hp : phaseAfter cs
      · rw [hp] at ho
        exact .inl ho
      all_goals
        rw [hp] at ho
        rw [← List.append_nil (withoutHeartbeats cs)]
        exact sentence_of_opened ho (by simp) (.inl rfl)
    · rw [he]
      exact sentence_of_opened ho hq (.inr rfl)
  · obtain ⟨mid, post', rfl⟩ := List.append_of_mem hin
    have hbeat := hbefore (pre ++ .login payload :: mid) payload' post' (by simp [he])
      (.login payload) (by simp)
    cases hbeat
  · rcases post with _ | ⟨c, post⟩
    · rfl
    have hc : allowedIn (phaseAfter (pre ++ [.logout])).asDomainState c = true :=
      h (pre ++ [.logout]) c post (by simp [he])
    have hclosed : phaseAfter (pre ++ [.logout]) = .closed := by
      rw [phaseAfter_snoc]
      cases phaseAfter pre <;> rfl
    rw [hclosed] at hc
    cases hc

/-! ### The loop over the frames -/

section

variable (parseStr : String → Option Uuid) (packetMaxPayload : ℕ)

/-- What the loop does with a frame, given the answer of the rate limiter. -/
def frameStep (conn : Connection) (x : Bytes × Bool) : Connection :=
  if x.2 then conn.translated parseStr packetMaxPayload x.1 []
  else { conn with stage := .frames [] }

/-- The commands that the loop enqueues. -/
def enqueued : Connection → List (Bytes × Bool) → List ClientCommand
  | _, [] => []
  | conn, x :: xs =>
    let conn := frameStep parseStr packetMaxPayload conn x
    unsent conn.stage ++ enqueued conn xs

/-- The frame is limited, cannot be decoded, or is not let through. -/
def Rejected (conn : Connection) (x : Bytes × Bool) : Prop :=
  x.2 = false ∨ (∃ err, decodeFrame x.1 packetMaxPayload = .error err) ∨
    ∃ packet err, decodeFrame x.1 packetMaxPayload = .ok packet ∧
      translatePacketForVersion parseStr packet conn.phase conn.protocolVersion = .error err

/-- The connection after the frames. -/
def after (conn : Connection) (xs : List (Bytes × Bool)) : Connection :=
  xs.foldl (frameStep parseStr packetMaxPayload) conn

/-- What a frame does to the phase and the version. -/
structure FrameRule (conn : Connection) (x : Bytes × Bool) : Prop where
  rejected : Rejected parseStr packetMaxPayload conn x →
    unsent (frameStep parseStr packetMaxPayload conn x).stage = [] ∧
      (frameStep parseStr packetMaxPayload conn x).phase = conn.phase ∧
      (frameStep parseStr packetMaxPayload conn x).protocolVersion = conn.protocolVersion
  version : (frameStep parseStr packetMaxPayload conn x).protocolVersion ≠ conn.protocolVersion →
    ∃ payload, unsent (frameStep parseStr packetMaxPayload conn x).stage = [.login payload]

end

variable (parseStr : String → Option Uuid) (packetMaxPayload : ℕ)

/-- A frame lets nothing through, or one command that the phase allows. -/
lemma frameStep_cases (conn : Connection) (x : Bytes × Bool) :
    (unsent (frameStep parseStr packetMaxPayload conn x).stage = [] ∧
      (frameStep parseStr packetMaxPayload conn x).phase = conn.phase ∧
      (frameStep parseStr packetMaxPayload conn x).protocolVersion = conn.protocolVersion) ∨
    (¬ Rejected parseStr packetMaxPayload conn x ∧ ∃ command,
      unsent (frameStep parseStr packetMaxPayload conn x).stage = [command] ∧
      (frameStep parseStr packetMaxPayload conn x).phase = nextPhase conn.phase command ∧
      allowedIn conn.phase.asDomainState command = true ∧
      ((frameStep parseStr packetMaxPayload conn x).protocolVersion = conn.protocolVersion ∨
        ∃ payload, command = .login payload)) := by
  unfold frameStep
  split
  · next hx =>
    unfold Connection.translated
    split
    · exact .inl ⟨rfl, rfl, rfl⟩
    · next packet hdec =>
      split
      · exact .inl ⟨rfl, rfl, rfl⟩
      · next command htr =>
        refine .inr ⟨?_, command, rfl, rfl, allowedIn_of_translate parseStr htr, ?_⟩
        · rintro (hlim | ⟨err, herr⟩ | ⟨packet', err, hdec', herr⟩)
          · rw [hx] at hlim
            cases hlim
          · rw [hdec] at herr
            cases herr
          · rw [hdec] at hdec'
            cases hdec'
            rw [htr] at herr
            cases herr
        · cases command with
          | login payload => exact .inr ⟨payload, rfl⟩
          | _ => exact .inl rfl
  · exact .inl ⟨rfl, rfl, rfl⟩

variable {parseStr packetMaxPayload}

lemma frameRule (conn : Connection) (x : Bytes × Bool) :
    FrameRule parseStr packetMaxPayload conn x where
  rejected hr :=
    (frameStep_cases parseStr packetMaxPayload conn x).resolve_right fun hc => hc.1 hr
  version hne := by
    obtain ⟨-, -, hv⟩ | ⟨-, command, hu, -, -, hv | ⟨payload, rfl⟩⟩ :=
      frameStep_cases parseStr packetMaxPayload conn x
    · exact absurd hv hne
    · exact absurd hv hne
    · exact ⟨payload, hu⟩

/-- The commands that the loop goes on to enqueue are lawful after those before. -/
lemma lawful_enqueued {conn : Connection} {cs : List ClientCommand} (xs : List (Bytes × Bool))
    (hp : conn.phase = phaseAfter cs) (h : Lawful cs) :
    Lawful (cs ++ enqueued parseStr packetMaxPayload conn xs) := by
  induction xs generalizing conn cs with
  | nil => rwa [enqueued, List.append_nil]
  | cons x xs ih =>
    rw [enqueued]
    obtain ⟨hu, hphase, -⟩ | ⟨-, command, hu, hphase, hal, -⟩ :=
      frameStep_cases parseStr packetMaxPayload conn x
    · rw [hu, List.nil_append]
      exact ih (hphase.trans hp) h
    · rw [hu, ← List.append_assoc]
      refine ih ?_ (along_snoc.mpr ⟨h, hp ▸ hal⟩)
      rw [hphase, hp, phaseAfter_snoc]

lemma enqueued_append (conn : Connection) (xs ys : List (Bytes × Bool)) :
    enqueued parseStr packetMaxPayload conn (xs ++ ys) =
      enqueued parseStr packetMaxPayload conn xs ++
        enqueued parseStr packetMaxPayload (after parseStr packetMaxPayload conn xs) ys := by
  induction xs generalizing conn with
  | nil => rfl
  | cons x xs ih =>
    simp only [List.cons_append, enqueued, ih, List.append_assoc]
    rfl

/-- The frame changes the version that packets are translated for. -/
def ChangesVersion (parseStr : String → Option Uuid) (packetMaxPayload : ℕ) (conn : Connection)
    (x : Bytes × Bool) : Prop :=
  (frameStep parseStr packetMaxPayload conn x).protocolVersion ≠ conn.protocolVersion

/-- **The grammar of a session**: for all frames and all answers of the rate limiter, what the loop
enqueues is grammatical, frames that are rejected change neither phase nor version, and the version
only changes with the login, once at most. -/
theorem grammatical_session (remoteIp : String) (xs : List (Bytes × Bool)) :
    Grammatical (enqueued parseStr packetMaxPayload (.new remoteIp) xs) ∧
      (∀ pre x post, xs = pre ++ x :: post → FrameRule parseStr packetMaxPayload
        (after parseStr packetMaxPayload (.new remoteIp) pre) x) ∧
      ∀ pre x mid y post, xs = pre ++ x :: (mid ++ y :: post) →
        ChangesVersion parseStr packetMaxPayload
          (after parseStr packetMaxPayload (.new remoteIp) pre) x →
        ¬ ChangesVersion parseStr packetMaxPayload
          (after parseStr packetMaxPayload (.new remoteIp) (pre ++ x :: mid)) y := by
  have hgram : Grammatical (enqueued parseStr packetMaxPayload (.new remoteIp) xs) :=
    grammatical_of_lawful (lawful_enqueued xs rfl along_nil)
  refine ⟨hgram, fun _ _ _ _ => frameRule _ _, ?_⟩
  intro pre x mid y post he hx hy
  obtain ⟨payload, hpx⟩ := (frameRule _ x).version hx
  obtain ⟨payload', hpy⟩ := (frameRule _ y).version hy
  have hlist : enqueued parseStr packetMaxPayload (.new remoteIp) xs =
      enqueued parseStr packetMaxPayload (.new remoteIp) pre ++ .login payload ::
        (enqueued parseStr packetMaxPayload
          (after parseStr packetMaxPayload (.new remoteIp) (pre ++ [x])) mid ++
        .login payload' :: enqueued parseStr packetMaxPayload
          (after parseStr packetMaxPayload (.new remoteIp) (pre ++ x :: mid ++ [y])) post) := by
    have hafter : ∀ conn zs z, after parseStr packetMaxPayload conn (zs ++ [z]) =
        frameStep parseStr packetMaxPayload (after parseStr packetMaxPayload conn zs) z :=
      fun conn zs z => List.foldl_append ..
    have hmid : after parseStr packetMaxPayload (.new remoteIp) (pre ++ x :: mid) =
        after parseStr packetMaxPayload
          (frameStep parseStr packetMaxPayload
            (after parseStr packetMaxPayload (.new remoteIp) pre) x) mid := List.foldl_append ..
    rw [he, enqueued_append, enqueued, hpx, enqueued_append, enqueued, ← hmid, hpy, hafter, hafter]
    rfl
  refine hgram.once _ payload _ hlist payload' ?_
  exact List.mem_append_right _ List.mem_cons_self

/-- The same of every run of the gateway. -/
theorem grammatical_of_reached {g : Gateway} (s : SessionId)
    (h : (system parseStr packetMaxPayload).Reached g) :
    Grammatical (commandsOf s (posted g)) := by
  have ht := traced_of_reached h
  refine grammatical_of_lawful ?_
  rcases hl : g.connections.lookup s with _ | conn
  · rw [ht.commandsOf_stranger hl]
    exact along_nil
  · exact (ht.lawful s conn hl).of_append

end HelbreathBackend.SessionGrammar
