import HelbreathBackend.RouterRun

/-!
No play without authorisation.

The entry of a session is never ahead of the phase of its connection, and nothing of play is
asked of the world service for a session whose login, selection and entry have not been
accepted before, in that order.
-/

namespace HelbreathBackend.Authorisation

open HelbreathBackend.Lib HelbreathBackend.Lib.Contract HelbreathBackend.Domain
open HelbreathBackend.Application HelbreathBackend.Frame HelbreathBackend.Translate
open HelbreathBackend.Gateway HelbreathBackend.Grants HelbreathBackend.Routing
open HelbreathBackend.GatewaySystem HelbreathBackend.GatewayTrace HelbreathBackend.RouterRun

/-- The request is posted when these exchanges have taken place. -/
def PostedAfter (g : Gateway) (pre : List Exchange) (q : BackendRequest) : Prop :=
  (∃ r post, g.exchanges = pre ++ (q, r) :: post) ∨
    (g.exchanges = pre ∧ ∃ c k, g.current = some (c, .call q k))

/-- An accepted login, then an accepted selection, then an entry the world accepted. -/
def Entitled (h : List Exchange) : Prop :=
  ∃ login select enter, [login, select, enter].Sublist h ∧ loginAccepted login = true ∧
    selectAccepted select = true ∧ enterAccepted enter = true

structure Authorised (g : Gateway) : Prop where
  inWorld : ∀ s e, g.sessions.lookup s = some e → e.inWorld = true →
    e.accountId.isSome ∧ e.characterId.isSome
  connected : ∀ s e, g.sessions.lookup s = some e → ∃ conn, g.connections.lookup s = some conn
  account : ∀ s e conn, g.sessions.lookup s = some e → g.connections.lookup s = some conn →
    e.accountId.isSome → conn.phase ≠ .preAuth
  character : ∀ s e conn, g.sessions.lookup s = some e → g.connections.lookup s = some conn →
    e.characterId.isSome →
    conn.phase = .inCharacterList ∨ conn.phase = .inWorld ∨ conn.phase = .closed
  world : ∀ s e conn, g.sessions.lookup s = some e → g.connections.lookup s = some conn →
    e.inWorld = true → conn.phase = .inWorld ∨ conn.phase = .closed
  play : ∀ pre q, PostedAfter g pre q → isPlay q = true → Entitled (history (sessionOf q) pre)

section

variable {g : Gateway}

lemma rank_routerPhase_le (ht : Traced g) {s : SessionId} {conn : Connection}
    (hl : g.connections.lookup s = some conn) : rank (routerPhase g s) ≤ rank conn.phase := by
  rw [ht.phase s conn hl, posted, commandsOf_append, List.append_assoc]
  exact rank_phaseAfter_le _ _

lemma bounded_entry (ht : Traced g) (hr : Routed g) {s : SessionId} {e : SessionRuntime}
    {conn : Connection} (he : g.sessions.lookup s = some e)
    (hl : g.connections.lookup s = some conn) : Bounded conn.phase (authority e) :=
  (hr.entries s e he).2.mono (rank_routerPhase_le ht hl)

/-- Whatever is posted was permitted by the exchanges before it. -/
lemma permitted_of_postedAfter (ht : Traced g) (hr : Routed g) {pre : List Exchange}
    {q : BackendRequest} (h : PostedAfter g pre q) :
    Permitted (history (sessionOf q) pre) ∧
      permitted (granted (history (sessionOf q) pre)) q = true := by
  rcases h with ⟨r, post, he⟩ | ⟨rfl, c, k, hc⟩
  · have hp := hr.permitted (sessionOf q)
    rw [he, ← List.singleton_append, ← List.append_assoc, history_append,
      history_own (x := (q, r)) rfl] at hp
    exact along_snoc.mp hp.of_append
  · obtain ⟨s, conn, hby, -⟩ := hr.connected ht hc
    obtain ⟨⟨hown, hperm⟩, -⟩ := hr.running s c _ hc hby g.sessions (.inl rfl)
    rw [hown]
    exact ⟨hr.permitted s, hperm⟩

lemma inWorld_of_permitted {a : Authority} {q : BackendRequest} (hplay : isPlay q = true)
    (hp : permitted a q = true) : a.inWorld = true := by
  cases q with
  | worldRoute m envelope =>
    obtain ⟨s, c, command⟩ := envelope
    cases command with
    | heartbeat | enterWorld | logout => cases hplay
    | move | attack | castSkill | pickupItem | dropItem | useItem | npcInteraction | chat
    | whisper | guildChat => exact (Bool.and_eq_true_iff.mp hp).1
  | authLogin | authLogout | authCharacterList | authCharacterCreate | authCharacterDelete
  | authCharacterSelect => cases hplay

/-- **No play without authorisation**, and the router is never ahead of the phases: in every
state of every run of the gateway. -/
theorem authorised_of_reached {parseStr : String → Option Uuid} {packetMaxPayload : ℕ}
    (h : (system parseStr packetMaxPayload).Reached g) : Authorised g := by
  have ht := traced_of_reached h
  have hr := routed_of_reached h
  constructor
  · intro s e he
    exact (hr.entries s e he).2.whole
  · intro s e he
    exact (hr.entries s e he).1
  · intro s e conn he hl ha hp
    have h1 := (bounded_entry ht hr he hl).account ha
    simp [hp, rank] at h1
  · intro s e conn he hl hc
    have h2 := (bounded_entry ht hr he hl).character hc
    cases hp : conn.phase <;> simp [hp, rank] at h2 ⊢
  · intro s e conn he hl hw
    have h3 := (bounded_entry ht hr he hl).world hw
    cases hp : conn.phase <;> simp [hp, rank] at h3 ⊢
  · intro pre q hq hplay
    obtain ⟨hperm, hq⟩ := permitted_of_postedAfter ht hr hq
    exact (earned_of_permitted hperm).world (inWorld_of_permitted hplay hq)

end

/-- The request the router is posting. -/
def posting (g : Gateway) : Option BackendRequest :=
  match g.current with
  | some (_, .call q _) => some q
  | _ => none

lemma postedAfter_of_posting {g : Gateway} {q : BackendRequest} (h : posting g = some q) :
    PostedAfter g g.exchanges q := by
  unfold posting at h
  split at h
  · next c q' k hc =>
    cases h
    exact .inr ⟨rfl, c, k, hc⟩
  · cases h

def loginFrame : Bytes := encodeFrame 0x0001 [117, 0, 112, 0, 118]
def selectFrame : Bytes := encodeFrame 0x0004 (Uuid.fill 5).bytes
def enterWorldFrame : Bytes := encodeFrame 0x0005 []
def chatFrame : Bytes := encodeFrame 0x0200 [104, 105]

/-- The steps in which a session logs in, selects a character, enters the world and chats. -/
def chatActions : List Action :=
  [.accept (.fill 7) "10.0.0.1",
    .read (.fill 7) (loginFrame ++ selectFrame ++ enterWorldFrame ++ chatFrame),
    .frame (.fill 7) true, .send (.fill 7), .recv, .sync, .sync,
    .reply (.response 200 (.login ⟨true, some (.fill 1), none⟩)), .sync, .finish,
    .frame (.fill 7) true, .send (.fill 7), .recv, .sync, .sync,
    .reply (.response 200 (.characterSelect ⟨true, some (.fill 5), some 2, none, none, none⟩)),
    .sync, .finish,
    .frame (.fill 7) true, .send (.fill 7), .recv, .sync, .sync, .sync,
    .reply (.response 200 .other), .sync, .finish,
    .frame (.fill 7) true, .send (.fill 7), .recv, .sync, .sync, .sync]

/-- A session that logs in, selects a character, enters the world and chats. -/
theorem authorised_chat :
    ∃ g, (system (fun _ => none) 65535).Reached g ∧ Authorised g ∧
      ∃ q, PostedAfter g g.exchanges q ∧ isPlay q = true ∧
        Entitled (history (sessionOf q) g.exchanges) := by
  obtain ⟨g, hg, hp⟩ := (system (fun _ => none) 65535).exists_reachedBy (fun _ _ => True) rfl
    chatActions
    (fun g => (posting g).any isPlay) (by decide +kernel)
  obtain ⟨q, hq, hplay⟩ := (Option.any_eq_true _ _).mp hp
  have ha := authorised_of_reached hg
  have hpost := postedAfter_of_posting hq
  exact ⟨g, hg, ha, q, hpost, hplay, ha.play _ q hpost hplay⟩

end HelbreathBackend.Authorisation
