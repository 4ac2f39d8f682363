import HelbreathBackend.Infrastructure
import HelbreathBackend.Lib.Transition

/-!
The characters the open sessions are bound to.

`bind_session_character` and `delete_character` are two statements each, and statements of other
clients may come between them; a client may also stop after the first. In between, the client
only remembers what it was doing.
-/

namespace HelbreathBackend.Infrastructure

open HelbreathBackend.Lib HelbreathBackend.Domain

namespace Database

/-- What a client has to do after its first statement. -/
inductive Pending
  | bind (sessionId : SessionId) (accountId : AccountId) (characterId : CharacterId)
  | unbind (accountId : AccountId) (characterId : CharacterId)
  deriving DecidableEq

structure Clients where
  db : Database
  pending : List Pending

inductive Statement
  | upsert (now : Time) (sessionId : SessionId) (accountId : AccountId)
      (gatewayNode remoteIp : String) (expiresAt : Time)
  | close (now : Time) (sessionId : SessionId)
  | load (sessionId : SessionId) (accountId : AccountId) (characterId : CharacterId)
  | bind (now : Time) (sessionId : SessionId) (accountId : AccountId) (characterId : CharacterId)
  | markDeleted (now : Time) (accountId : AccountId) (characterId : CharacterId)
  | unbind (accountId : AccountId) (characterId : CharacterId)
  | abandon (p : Pending)

variable (inet : String → Option String)

/-- One statement. A second statement is only run by a client that has it to do. -/
def Clients.run (c : Clients) : Statement → Clients
  | .upsert now sessionId accountId gatewayNode remoteIp expiresAt =>
    match c.db.upsertSession inet now sessionId accountId gatewayNode remoteIp expiresAt with
    | .ok db => { c with db := db }
    | .error _ => c
  | .close now sessionId => { c with db := c.db.closeSession now sessionId }
  | .load sessionId accountId characterId =>
    if (c.db.loadCharacter accountId characterId).isSome then
      { c with pending := .bind sessionId accountId characterId :: c.pending }
    else c
  | .bind now sessionId accountId characterId =>
    if .bind sessionId accountId characterId ∈ c.pending then
      ⟨(c.db.bindSession now sessionId accountId characterId).2,
        c.pending.erase (.bind sessionId accountId characterId)⟩
    else c
  | .markDeleted now accountId characterId =>
    let (rows, db) := c.db.markDeleted now accountId characterId
    ⟨db, if 0 < rows then .unbind accountId characterId :: c.pending else c.pending⟩
  | .unbind accountId characterId =>
    if .unbind accountId characterId ∈ c.pending then
      ⟨c.db.unbindSessions accountId characterId,
        c.pending.erase (.unbind accountId characterId)⟩
    else c
  | .abandon p => { c with pending := c.pending.erase p }

section

variable (db : Database) (now : Time) (sessionId : SessionId) (accountId : AccountId)
  (characterId : CharacterId)

/-- Undisturbed, the two statements are `bind_session_character`. -/
lemma run_load_bind :
    (Clients.run inet (.run inet ⟨db, []⟩ (.load sessionId accountId characterId))
      (.bind now sessionId accountId characterId)) =
        ⟨(db.bindSessionCharacter now sessionId accountId characterId).2, []⟩ := by
  rcases hload : db.loadCharacter accountId characterId with _ | character
  · simp [Clients.run, bindSessionCharacter, hload]
  · simp only [Clients.run, bindSessionCharacter, hload, Option.isSome_some, if_true,
      List.mem_singleton, List.erase_cons_head]
    split <;> rfl

/-- Undisturbed, the two statements are `delete_character`. -/
lemma run_markDeleted_unbind :
    (Clients.run inet (.run inet ⟨db, []⟩ (.markDeleted now accountId characterId))
      (.unbind accountId characterId)) =
        ⟨(db.deleteCharacter now accountId characterId).2, []⟩ := by
  simp only [Clients.run, deleteCharacter]
  split <;> simp

end

/-! ### What an open session is bound to -/

variable (db : Database) {inet} {accountId : AccountId} {characterId : CharacterId}

/-- The account has the character, which is not deleted. -/
def HasCharacter (accountId : AccountId) (characterId : CharacterId) : Prop :=
  ∃ c ∈ db.characters.rows, c.id = characterId ∧ c.accountId = accountId ∧ c.isDeleted = false

instance : Decidable (db.HasCharacter accountId characterId) :=
  inferInstanceAs (Decidable (∃ c ∈ db.characters.rows,
    c.id = characterId ∧ c.accountId = accountId ∧ c.isDeleted = false))

/-- The row, if it is open and has a character, has one of its own account. -/
def BoundRow (s : SessionRow) : Prop :=
  s.state ≠ "closed" → ∀ characterId, s.characterId = some characterId →
    ∃ accountId, s.accountId = some accountId ∧ db.HasCharacter accountId characterId

/-- **The invariant**: an open session is only bound to a live character of its own account. -/
def Bound : Prop := ∀ s ∈ db.sessions.rows, db.BoundRow s

variable {db} {db' : Database}

lemma hasCharacter_markDeleted_iff {now : Time} {a : AccountId} {c : CharacterId} :
    (db.markDeleted now accountId characterId).2.HasCharacter a c ↔
      db.HasCharacter a c ∧ ¬ (a = accountId ∧ c = characterId) := by
  simp only [HasCharacter, rows_markDeleted, List.mem_map]
  constructor
  · rintro ⟨_, ⟨row, hrow, rfl⟩, hid, ha, hd⟩
    split at hid
    · next hdel =>
      rw [if_pos hdel] at hd
      cases hd
    · next hdel =>
      rw [if_neg hdel] at ha hd
      refine ⟨⟨row, hrow, hid, ha, hd⟩, fun h => hdel ?_⟩
      rw [deletes, hid, ha, hd, h.1, h.2]
      simp
  · rintro ⟨⟨row, hrow, hid, ha, hd⟩, hne⟩
    have hdel : ¬ deletes accountId characterId row = true := by
      intro hdel
      simp only [deletes, Bool.and_eq_true, beq_iff_eq] at hdel
      exact hne ⟨ha.symm.trans hdel.1.2, hid.symm.trans hdel.1.1⟩
    refine ⟨row, ⟨row, hrow, if_neg hdel⟩, hid, ha, hd⟩

/-- What has to hold before a statement for the invariant to hold after it. -/
def KeepsBound (inet : String → Option String) (c : Clients) : Statement → Prop
  | .upsert _ sessionId accountId gatewayNode remoteIp _ =>
    (inet remoteIp).isSome → (∃ node, varchar 64 gatewayNode = .ok node) →
      (∃ a ∈ c.db.accounts.rows, a.id = accountId) →
        ∀ s ∈ c.db.sessions.rows, s.id = sessionId →
          ∀ characterId, s.characterId = some characterId →
            c.db.HasCharacter accountId characterId
  | .bind _ sessionId accountId characterId =>
    .bind sessionId accountId characterId ∈ c.pending →
      (∃ s ∈ c.db.sessions.rows, binds sessionId accountId s = true) →
        c.db.HasCharacter accountId characterId
  | .markDeleted _ accountId characterId =>
    ∀ s ∈ c.db.sessions.rows, unbinds accountId characterId s = false
  | _ => True

lemma bound_run_upsert {c : Clients} (hc : c.db.Bound) {now : Time} {sessionId : SessionId}
    {gatewayNode remoteIp : String} {expiresAt : Time} :
    (c.run inet (.upsert now sessionId accountId gatewayNode remoteIp expiresAt)).db.Bound ↔
      KeepsBound inet c (.upsert now sessionId accountId gatewayNode remoteIp expiresAt) := by
  rw [Clients.run]
  split
  · next db' hok =>
    obtain ⟨ip, node, hip, hnode, hacc, hup⟩ := upsertSession_eq_ok_iff.mp hok
    obtain ⟨sessions, rfl⟩ := hup.others
    have hrows : ∀ s, c.db.BoundRow (authenticated accountId node ip expiresAt s) ↔
        ∀ characterId, s.characterId = some characterId →
          c.db.HasCharacter accountId characterId := by
      intro s
      constructor
      · intro h characterId hs
        obtain ⟨a, ha, hhas⟩ := h (by simp [authenticated]) characterId hs
        rwa [Option.some.inj ha]
      · intro h _ characterId hs
        exact ⟨accountId, rfl, h characterId hs⟩
    have hkeeps :
        KeepsBound inet c (.upsert now sessionId accountId gatewayNode remoteIp expiresAt) ↔
        ∀ s ∈ c.db.sessions.rows, s.id = sessionId →
          c.db.BoundRow (authenticated accountId node ip expiresAt s) := by
      simp only [KeepsBound, hip, hnode, hacc, hrows]
      simp
    rw [hkeeps]
    by_cases hknown : ∃ s ∈ c.db.sessions.rows, s.id = sessionId
    · have hsessions : sessions.rows = _ := hup.known hknown
      simp only [Bound, hsessions]
      refine (Table.forall_updated_iff hc).trans (forall₂_congr fun s _ => ?_)
      rw [beq_iff_eq]
    · have hsessions : sessions.rows = _ := hup.new hknown
      refine iff_of_true (fun s hs => ?_) fun s hs hid => absurd ⟨s, hs, hid⟩ hknown
      rw [hsessions, List.mem_append, List.mem_singleton] at hs
      rcases hs with hs | rfl
      · exact hc s hs
      · intro _ characterId hnone
        cases hnone
  · next err herr =>
    refine iff_of_true hc fun hip hnode hacc => ?_
    obtain ⟨ip, hip⟩ := Option.isSome_iff_exists.mp hip
    obtain ⟨node, hnode⟩ := hnode
    obtain ⟨db', hok, -⟩ := exists_upsertSession hip hnode hacc
    exact absurd (herr.symm.trans hok) (by simp)

lemma bound_run_bind {c : Clients} (hc : c.db.Bound) {now : Time} {sessionId : SessionId} :
    (c.run inet (.bind now sessionId accountId characterId)).db.Bound ↔
      KeepsBound inet c (.bind now sessionId accountId characterId) := by
  rw [Clients.run]
  split
  · next hpending =>
    have hrow : ∀ s, binds sessionId accountId s = true →
        (c.db.BoundRow { s with
          characterId := some characterId, state := "character_selected"
          lastSeenAt := some now } ↔ c.db.HasCharacter accountId characterId) := by
      intro s hs
      simp only [binds, Bool.and_eq_true, beq_iff_eq] at hs
      constructor
      · intro h
        obtain ⟨a, ha, hhas⟩ := h (by simp) characterId rfl
        rwa [Option.some.inj (hs.1.2.symm.trans ha)]
      · intro h _ characterId' hs'
        cases hs'
        exact ⟨accountId, hs.1.2, h⟩
    refine (Table.forall_updated_iff hc).trans ?_
    constructor
    · rintro h - ⟨s, hs, hb⟩
      exact (hrow s hb).mp (h s hs hb)
    · intro h s hs hb
      exact (hrow s hb).mpr (h hpending ⟨s, hs, hb⟩)
  · next hno => exact iff_of_true hc fun hpending => absurd hpending hno

lemma bound_run_markDeleted {c : Clients} (hc : c.db.Bound) {now : Time} :
    (c.run inet (.markDeleted now accountId characterId)).db.Bound ↔
      KeepsBound inet c (.markDeleted now accountId characterId) := by
  refine forall₂_congr fun s hs => ?_
  constructor
  · intro h
    rw [← Bool.not_eq_true]
    intro hun
    simp only [unbinds, Bool.and_eq_true, beq_iff_eq, bne_iff_ne] at hun
    obtain ⟨⟨ha, hch⟩, hopen⟩ := hun
    obtain ⟨a, ha', hhas⟩ := h hopen characterId hch
    obtain rfl := Option.some.inj (ha.symm.trans ha')
    exact (hasCharacter_markDeleted_iff.mp hhas).2 ⟨rfl, rfl⟩
  · intro hun hopen ch hch
    obtain ⟨a, ha, hhas⟩ := hc s hs hopen ch hch
    refine ⟨a, ha, hasCharacter_markDeleted_iff.mpr ⟨hhas, ?_⟩⟩
    rintro ⟨rfl, rfl⟩
    simp [unbinds, ha, hch, hopen] at hun

/-- **One statement**: it keeps the invariant exactly when it meets its condition. -/
theorem bound_run_iff {c : Clients} (hc : c.db.Bound) (statement : Statement) :
    (c.run inet statement).db.Bound ↔ KeepsBound inet c statement := by
  cases statement with
  | upsert => exact bound_run_upsert hc
  | bind => exact bound_run_bind hc
  | markDeleted => exact bound_run_markDeleted hc
  | load sessionId accountId characterId =>
    refine iff_of_true ?_ trivial
    rw [Clients.run]
    split <;> exact hc
  | abandon p => exact iff_of_true hc trivial
  | close now sessionId =>
    refine iff_of_true ((Table.forall_updated_iff hc).mpr fun s _ _ hopen => ?_) trivial
    exact absurd rfl hopen
  | unbind accountId characterId =>
    refine iff_of_true ?_ trivial
    rw [Clients.run]
    split
    · refine (Table.forall_updated_iff hc).mpr fun s _ _ _ ch hch => ?_
      cases hch
    · exact hc

/-- **Bindings along a run**: open sessions are only bound to live characters of their own
account in every state of a run exactly when each statement of the run meets its condition. -/
theorem sessions_bound_iff (db : Database) (hstart : db.Bound) (statements : List Statement) :
    (∀ p, p <+: statements → (p.foldl (Clients.run inet) ⟨db, []⟩).db.Bound) ↔
      ∀ p a, p ++ [a] <+: statements → KeepsBound inet (p.foldl (Clients.run inet) ⟨db, []⟩) a :=
  System.forall_prefix_iff (I := fun c : Clients => c.db.Bound) hstart
    (fun _ a hc => bound_run_iff hc a) statements

/-- The fixture, with a character for its account. -/
def fixtureCharacter : Database :=
  { fixture with
    characters := ⟨[⟨.fill 2, .fill 1, "Aresden", 0, "warrior", 0, 0, 0, 0, 0, 1, 0, 1, 100, 100,
      100, 50, 50, (10, 10, 10, 10, 10, 10), false, 0, 0⟩], List.pairwise_singleton _ _⟩ }

lemma bound_fixtureCharacter : fixtureCharacter.Bound := by
  intro s hs
  cases hs

instance (inet : String → Option String) (c : Clients) : ∀ a, Decidable (KeepsBound inet c a)
  | .upsert _ sessionId accountId gatewayNode remoteIp _ =>
    have : Decidable (∃ node, varchar 64 gatewayNode = .ok node) :=
      match varchar 64 gatewayNode with
      | .ok node => .isTrue ⟨node, rfl⟩
      | .error _ => .isFalse fun ⟨_, h⟩ => by cases h
    inferInstanceAs (Decidable ((inet remoteIp).isSome →
      (∃ node, varchar 64 gatewayNode = .ok node) →
        (∃ a ∈ c.db.accounts.rows, a.id = accountId) →
          ∀ s ∈ c.db.sessions.rows, s.id = sessionId →
            ∀ characterId ∈ s.characterId, c.db.HasCharacter accountId characterId))
  | .bind _ sessionId accountId characterId =>
    inferInstanceAs (Decidable (.bind sessionId accountId characterId ∈ c.pending →
      (∃ s ∈ c.db.sessions.rows, binds sessionId accountId s = true) →
        c.db.HasCharacter accountId characterId))
  | .markDeleted _ accountId characterId => inferInstanceAs (Decidable
      (∀ s ∈ c.db.sessions.rows, unbinds accountId characterId s = false))
  | .load .. | .close .. | .unbind .. | .abandon _ => .isTrue trivial

/-- An account logs in, binds its session to its character and logs out; then the character is
deleted, and another session of the account is opened. -/
theorem sessions_bound_iff_login :
    let login (s : UInt8) := Statement.upsert 0 (.fill s) (.fill 1) "gateway-1" "127.0.0.1" 100
    let statements := [login 3, .load (.fill 3) (.fill 1) (.fill 2),
      .bind 1 (.fill 3) (.fill 1) (.fill 2), .close 2 (.fill 3),
      .markDeleted 3 (.fill 1) (.fill 2), .unbind (.fill 1) (.fill 2), login 4]
    ∀ p, p <+: statements → (p.foldl (Clients.run some) ⟨fixtureCharacter, []⟩).db.Bound := by
  intro login statements
  have hmeet : System.stepsMeet (Clients.run some) (KeepsBound some) ⟨fixtureCharacter, []⟩
      statements = true := by
    decide +kernel
  exact (sessions_bound_iff fixtureCharacter bound_fixtureCharacter statements).mpr
    (System.stepsMeet_iff.mp hmeet)

/-- A character is deleted between the two statements that bind a session to it. Everything has
run to its end, and the open session is bound to a deleted character. -/
theorem bound_to_deleted :
    let c := [Statement.upsert 0 (.fill 3) (.fill 1) "gateway-1" "127.0.0.1" 100,
      .load (.fill 3) (.fill 1) (.fill 2), .markDeleted 1 (.fill 1) (.fill 2),
      .unbind (.fill 1) (.fill 2), .bind 2 (.fill 3) (.fill 1) (.fill 2)].foldl
        (Clients.run some) ⟨fixtureCharacter, []⟩
    c.pending = [] ∧ ¬ c.db.Bound := by
  intro c
  have hrow : ∃ s ∈ c.db.sessions.rows, s.state ≠ "closed" ∧ s.characterId = some (.fill 2) ∧
      s.accountId = some (.fill 1) ∧ ¬ c.db.HasCharacter (.fill 1) (.fill 2) := by decide +kernel
  refine ⟨by decide +kernel, fun h => ?_⟩
  obtain ⟨s, hs, hopen, hch, ha, hno⟩ := hrow
  obtain ⟨a, ha', hhas⟩ := h s hs hopen _ hch
  obtain rfl := Option.some.inj (ha.symm.trans ha')
  exact hno hhas

end Database

end HelbreathBackend.Infrastructure
