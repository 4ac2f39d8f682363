import HelbreathBackend.RouterRun

/-!
Where the phase of a connection and the entry of its session agree.

The connection moves its phase when it queues a command, the router writes the entry when the
services have replied. Once the commands of a session are processed the two agree exactly if
nothing was refused: the login, and the entry into the world if the session asked for it.
-/

namespace HelbreathBackend.PhaseAgreement

open HelbreathBackend.Lib HelbreathBackend.Domain HelbreathBackend.Application
open HelbreathBackend.Frame HelbreathBackend.Translate HelbreathBackend.Gateway
open HelbreathBackend.Grants HelbreathBackend.Routing HelbreathBackend.GatewaySystem
open HelbreathBackend.GatewayTrace HelbreathBackend.RouterRun

/-- The session has its entry and its connection is at its frames. -/
structure Live (g : Gateway) (s : SessionId) (conn : Connection) (e : SessionRuntime) : Prop where
  connected : g.connections.lookup s = some conn
  entry : g.sessions.lookup s = some e
  reading : ∃ rest, conn.stage = .frames rest

/-- The router has processed the commands of the session. -/
def Processed (g : Gateway) (s : SessionId) : Prop :=
  Between g s ∧ ∀ c ∈ g.internalQueue, ¬ SentBy s c

def LoginRefused (g : Gateway) (s : SessionId) : Prop :=
  ∃ x ∈ history s g.exchanges, isLogin x.1 = true ∧ loginAccepted x = false

def EnterWorldRefused (g : Gateway) (s : SessionId) : Prop :=
  ∃ x ∈ history s g.exchanges, isEnterWorld x.1 = true ∧ enterAccepted x = false

/-- The phase is what the router has granted, and what was refused can be tried again. -/
structure Agrees (g : Gateway) (s : SessionId) (conn : Connection) (e : SessionRuntime) :
    Prop where
  inWorld : conn.phase = .inWorld → e.inWorld = true
  account : conn.phase = .postAuth ∨ conn.phase = .inCharacterList → e.accountId.isSome
  retryLogin : LoginRefused g s →
    ∀ payload, allowedIn conn.phase.asDomainState (.login payload) = true
  retryEnterWorld : EnterWorldRefused g s → allowedIn conn.phase.asDomainState .enterWorld = true

/-- Every login of the session was accepted, and some entry if it ever asked for one. -/
structure NotRefused (g : Gateway) (s : SessionId) : Prop where
  login : ∀ x ∈ history s g.exchanges, isLogin x.1 = true → loginAccepted x = true
  enterWorld : ClientCommand.enterWorld ∈ commandsOf s g.handled →
    ∃ x ∈ history s g.exchanges, enterAccepted x = true

/-- The phase of the world is reached by asking for it, and not left but for good. -/
lemma enterWorld_mem_iff {cs : List ClientCommand} (h : Lawful cs) :
    ClientCommand.enterWorld ∈ cs → 3 ≤ rank (phaseAfter cs) := by
  induction cs using List.reverseRecOn with
  | nil => exact nofun
  | append_singleton cs c ih =>
    obtain ⟨hcs, hal⟩ := along_snoc.mp h
    intro hmem
    rcases List.mem_append.mp hmem with hmem | hmem
    · exact (ih hcs hmem).trans (rank_phaseAfter_le cs [c])
    · obtain rfl := List.mem_singleton.mp hmem
      rw [phaseAfter_append]
      change 3 ≤ rank (nextPhase (phaseAfter cs) .enterWorld)
      rw [nextPhase_enterWorld hal]
      rfl

lemma enterWorld_mem_of_inWorld {cs : List ClientCommand} (h : phaseAfter cs = .inWorld) :
    ClientCommand.enterWorld ∈ cs := by
  induction cs using List.reverseRecOn with
  | nil => cases h
  | append_singleton cs c ih =>
    rw [phaseAfter_append] at h
    have h : nextPhase (phaseAfter cs) c = .inWorld := h
    by_cases hp : phaseAfter cs = .inWorld
    · exact List.mem_append_left _ (ih hp)
    · have hc : c = .enterWorld := by
        cases hq : phaseAfter cs <;> cases c <;> simp_all [nextPhase]
      rw [hc]
      exact List.mem_append_right _ (List.mem_singleton.mpr rfl)

section

variable {g : Gateway} {s : SessionId} {conn : Connection} {e : SessionRuntime}

lemma phase_eq (ht : Traced g) (hl : Live g s conn e) (hp : Processed g s) :
    conn.phase = routerPhase g s := by
  obtain ⟨rest, hst⟩ := hl.reading
  have hnil : commandsOf s g.internalQueue = [] := by
    refine List.filterMap_eq_nil_iff.mpr fun c hc => ?_
    obtain ⟨s', conn', hby, -⟩ := ht.known c (List.mem_append_right _ hc)
    exact commandOf_other hby fun he => hp.2 c hc (he ▸ hby)
  rw [ht.phase s conn hl.connected, posted, commandsOf_append, hnil, hst]
  simp [unsent, routerPhase]

lemma lawful_handled (ht : Traced g) (hl : g.connections.lookup s = some conn) :
    Lawful (commandsOf s g.handled) := by
  have hlaw := (ht.lawful s conn hl).of_append
  rw [posted, commandsOf_append] at hlaw
  exact hlaw.of_append

/-- **The phase agrees with the entry if and only if nothing was refused**, for every live
session whose commands are processed, in every state of every run. -/
theorem phases_agree_iff {parseStr : String → Option Uuid} {packetMaxPayload : ℕ}
    (h : (system parseStr packetMaxPayload).Reached g) (hl : Live g s conn e)
    (hp : Processed g s) : Agrees g s conn e ↔ NotRefused g s := by
  have ht := traced_of_reached h
  have hset : Settled s conn.phase g.sessions g.exchanges := by
    rw [phase_eq ht hl hp]
    exact (routed_of_reached h).settled s hp.1
  have hauth : authority e = granted (history s g.exchanges) := hset.entry e hl.entry
  have hopen : conn.phase ≠ .closed := by
    intro hc
    have hnone := hset.gone hc
    rw [hl.entry] at hnone
    cases hnone
  have hworld : 3 ≤ rank conn.phase → conn.phase = .inWorld := by
    cases hc : conn.phase <;> simp [hc, rank] at hopen ⊢
  have hwin : e.inWorld = true ↔ ∃ x ∈ history s g.exchanges, enterAccepted x = true := by
    rw [← hset.ledger.world, ← hauth]
    rfl
  have hacc : e.accountId.isSome ↔ ∃ x ∈ history s g.exchanges, loginAccepted x = true := by
    rw [← hset.ledger.account, ← hauth]
    rfl
  constructor
  · intro ha
    constructor
    · intro x hx hlog
      by_contra hno
      have hal := ha.retryLogin ⟨x, hx, hlog, Bool.not_eq_true _ ▸ hno⟩ ⟨"", "", ""⟩
      have hpre : rank conn.phase < 1 := by
        rw [eq_preAuth_of_login hal]
        simp [rank]
      rw [hset.ledger.fresh hpre x hx] at hlog
      cases hlog
    · intro hmem
      have h3 := enterWorld_mem_iff (lawful_handled ht hl.connected) hmem
      have hphase : conn.phase = .inWorld := hworld (phase_eq ht hl hp ▸ h3)
      exact hwin.mp (ha.inWorld hphase)
  · intro hn
    constructor
    · intro hphase
      rw [phase_eq ht hl hp] at hphase
      exact hwin.mpr (hn.enterWorld (enterWorld_mem_of_inWorld hphase))
    · intro hphase
      have h1 : 1 ≤ rank conn.phase := by
        rcases hphase with hc | hc <;> simp [hc, rank]
      obtain ⟨x, hx, hlog, -⟩ := hset.ledger.once h1
      exact hacc.mpr ⟨x, hx, hn.login x hx hlog⟩
    · rintro ⟨x, hx, hlog, hno⟩
      rw [hn.login x hx hlog] at hno
      cases hno
    · rintro ⟨x, hx, hent, -⟩
      have hphase : conn.phase = .inWorld := by
        refine hworld (Nat.le_of_not_lt fun hlt => ?_)
        rw [hset.ledger.outside hlt x hx] at hent
        cases hent
      rw [hphase]
      rfl

lemma processed_of_idle (hc : g.current.isNone = true) (hq : g.internalQueue = []) :
    Processed g s := by
  refine ⟨fun c t h => ?_, fun c hc => ?_⟩
  · rw [h] at hc
    cases hc
  · rw [hq] at hc
    cases hc

end

/-- What a state shows of a session that is live, with its commands processed. -/
def Shows (g : Gateway) (s : SessionId) (phase : SessionPhase) (a : Authority) : Prop :=
  (g.connections.lookup s).any (fun conn => conn.phase = phase && conn.stage = .frames []) = true ∧
    (g.sessions.lookup s).any (fun e => authority e = a) = true ∧
    g.current.isNone = true ∧ g.internalQueue = []

instance (g : Gateway) (s : SessionId) (phase : SessionPhase) (a : Authority) :
    Decidable (Shows g s phase a) :=
  inferInstanceAs (Decidable (_ ∧ _ ∧ _ ∧ _))

lemma Shows.live {g : Gateway} {s : SessionId} {phase : SessionPhase} {a : Authority}
    (h : Shows g s phase a) : ∃ conn e, Live g s conn e ∧ Processed g s ∧ conn.phase = phase ∧
      authority e = a := by
  obtain ⟨hc, he, hcur, hq⟩ := h
  obtain ⟨conn, hl, hconn⟩ := (Option.any_eq_true _ _).mp hc
  obtain ⟨e, hs, hauth⟩ := (Option.any_eq_true _ _).mp he
  rw [Bool.and_eq_true, decide_eq_true_eq, decide_eq_true_eq] at hconn
  exact ⟨conn, e, ⟨hl, hs, [], hconn.2⟩, processed_of_idle hcur hq, hconn.1,
    of_decide_eq_true hauth⟩

/-- A session whose login, selection and entry are all accepted. -/
theorem phases_agree_in_world :
    ∃ g conn e, (system (fun _ => none) 65535).Reached g ∧ Live g (.fill 7) conn e ∧
      Processed g (.fill 7) ∧ conn.phase = .inWorld ∧ NotRefused g (.fill 7) ∧
      Agrees g (.fill 7) conn e := by
  obtain ⟨g, hg, hp⟩ := (system (fun _ => none) 65535).exists_reachedBy (fun _ _ => True) rfl
    [.accept (.fill 7) "10.0.0.1",
      .read (.fill 7) (encodeFrame 0x0001 [117, 0, 112, 0, 118] ++
        encodeFrame 0x0004 (Uuid.fill 5).bytes ++ encodeFrame 0x0005 []),
      .frame (.fill 7) true, .send (.fill 7), .frame (.fill 7) true, .send (.fill 7),
      .frame (.fill 7) true, .send (.fill 7),
      .recv, .sync, .sync, .reply (.response 200 (.login ⟨true, some (.fill 1), none⟩)), .sync,
      .finish, .recv, .sync, .sync,
      .reply (.response 200 (.characterSelect ⟨true, some (.fill 5), some 2, none, none, none⟩)),
      .sync, .finish, .recv, .sync, .sync, .sync, .reply (.response 200 .other), .sync, .finish]
    (fun g => Shows g (.fill 7) .inWorld ⟨some (.fill 1), some (.fill 5), some 2, true⟩ ∧
      (∀ x ∈ history (.fill 7) g.exchanges, isLogin x.1 = true → loginAccepted x = true) ∧
      ∃ x ∈ history (.fill 7) g.exchanges, enterAccepted x = true) (by decide +kernel)
  obtain ⟨hs, hlogin, hent⟩ := of_decide_eq_true hp
  obtain ⟨conn, e, hl, hproc, hphase, -⟩ := hs.live
  have hn : NotRefused g (.fill 7) := ⟨hlogin, fun _ => hent⟩
  exact ⟨g, conn, e, hg, hl, hproc, hphase, hn, (phases_agree_iff hg hl hproc).mpr hn⟩

/-- A login that is refused leaves the session in a phase that allows no login. -/
theorem refused_login_strands :
    ∃ g conn e, (system (fun _ => none) 65535).Reached g ∧ Live g (.fill 7) conn e ∧
      Processed g (.fill 7) ∧ LoginRefused g (.fill 7) ∧ conn.phase = .postAuth ∧
      e.accountId = none ∧ ¬ Agrees g (.fill 7) conn e := by
  obtain ⟨g, hg, hp⟩ := (system (fun _ => none) 65535).exists_reachedBy (fun _ _ => True) rfl
    [.accept (.fill 7) "10.0.0.1", .read (.fill 7) (encodeFrame 0x0001 [117, 0, 112, 0, 118]),
      .frame (.fill 7) true, .send (.fill 7), .recv, .sync, .sync,
      .reply (.response 200 (.login ⟨false, none, some "invalid_credentials"⟩)), .finish]
    (fun g => Shows g (.fill 7) .postAuth nobody ∧
      ∃ x ∈ history (.fill 7) g.exchanges, isLogin x.1 = true ∧ loginAccepted x = false)
    (by decide +kernel)
  obtain ⟨hs, href⟩ := of_decide_eq_true hp
  obtain ⟨conn, e, hl, hproc, hphase, hauth⟩ := hs.live
  have hnone : e.accountId = none := congrArg Authority.accountId hauth
  refine ⟨g, conn, e, hg, hl, hproc, href, hphase, hnone, fun ha => ?_⟩
  have hsome := ha.account (.inl hphase)
  rw [hnone] at hsome
  cases hsome

end HelbreathBackend.PhaseAgreement
