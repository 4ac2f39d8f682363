import HelbreathBackend.CharacterSlots
import HelbreathBackend.GatewayAndAuth
import HelbreathBackend.WorldPosts

/-!
A deleted character.

The authentication service does not select a character again that it has deleted, so the gateway
does not name it to the world any more, in every run in which a deletion is answered while no other
session is left with the character. The entries of the other sessions of the account stay as they
are.
-/

namespace HelbreathBackend.DeletedCharacters

open HelbreathBackend.Lib HelbreathBackend.Domain HelbreathBackend.Infrastructure
open HelbreathBackend.Infrastructure.Database HelbreathBackend.Auth
open HelbreathBackend.AuthHandlers HelbreathBackend.Gateway HelbreathBackend.Grants
open HelbreathBackend.Frame HelbreathBackend.GatewayTrace HelbreathBackend.RouterRun
open HelbreathBackend.Authorisation HelbreathBackend.WorldPosts HelbreathBackend.GatewayAndAuth
open HelbreathBackend.Application (InternalCommand)
open HelbreathBackend.GatewaySystem (Gateway)

/-! ### Statements -/

/-- The character has a row, and is deleted. -/
def Gone (db : Database) (c : CharacterId) : Prop :=
  ∃ row ∈ db.characters.rows, row.id = c ∧ row.isDeleted = true

section

variable {db : Database} {c : CharacterId} {inet : String → Option String} {now : Time}
  {newId : CharacterId}

lemma gone_run (h : Gone db c) (query : Query) : Gone (query.run inet now newId db).2 c := by
  obtain ⟨row, hrow, hid, hdel⟩ := h
  cases query with
  | upsertSession sessionId accountId gatewayNode remoteIp expiresAt =>
    simp only [Query.run]
    split
    · next db' hok =>
      obtain ⟨ip, node, -, -, -, hup⟩ := upsertSession_eq_ok_iff.mp hok
      obtain ⟨sessions, rfl⟩ := hup.others
      exact ⟨row, hrow, hid, hdel⟩
    · exact ⟨row, hrow, hid, hdel⟩
  | createCharacter accountId params =>
    simp only [Query.run]
    split
    · next character db' hok =>
      obtain ⟨-, name, slot, m, characters, -, -, -, hins, -, rfl⟩ :=
        createCharacter_eq_ok_iff.mp hok
      refine ⟨row, ?_, hid, hdel⟩
      rw [(Table.insert_eq_some_iff.mp hins).2]
      exact List.mem_append_left _ hrow
    · exact ⟨row, hrow, hid, hdel⟩
    · exact ⟨row, hrow, hid, hdel⟩
  | markDeleted accountId characterId =>
    refine ⟨row, ?_, hid, hdel⟩
    change row ∈ (db.markDeleted now accountId characterId).2.characters.rows
    rw [rows_markDeleted]
    refine List.mem_map.mpr ⟨row, hrow, ?_⟩
    simp [deletes, hdel]
  | findAccountForLogin | closeSession | getSessionAccount | listCharacters | unbindSessions
  | loadCharacter | bindSession => exact ⟨row, hrow, hid, hdel⟩

/-- What a statement is answered while the character is not deleted. -/
def Spares (c : CharacterId) : Query → Answer → Prop
  | .markDeleted _ characterId, .rows count => characterId = c → count = 0
  | _, _ => True

/-- What a statement is answered once the character is deleted. -/
def Hides (c : CharacterId) : Query → Answer → Prop
  | .loadCharacter .., .character (some character) => character.id ≠ c
  | _, _ => True

lemma spares_run {query : Query} (h : ¬ Gone (query.run inet now newId db).2 c) :
    Spares c query (query.run inet now newId db).1 := by
  cases query with
  | markDeleted accountId characterId =>
    rintro rfl
    by_contra hpos
    obtain ⟨row, hrow, hdel⟩ := List.countP_pos_iff.mp (Nat.pos_of_ne_zero hpos)
    refine h ⟨{ row with isDeleted := true, updatedAt := now }, ?_, ?_, rfl⟩
    · change _ ∈ (db.markDeleted now accountId characterId).2.characters.rows
      rw [rows_markDeleted]
      exact List.mem_map.mpr ⟨row, hrow, if_pos hdel⟩
    · simp only [deletes, Bool.and_eq_true, beq_iff_eq] at hdel
      exact hdel.1.1
  | _ => trivial

lemma hides_run {query : Query} (h : Gone db c) :
    Hides c query (query.run inet now newId db).1 := by
  cases query with
  | loadCharacter accountId characterId =>
    change Hides c (.loadCharacter accountId characterId)
      (.character (db.loadCharacter accountId characterId))
    rcases hload : db.loadCharacter accountId characterId with _ | character
    · trivial
    rintro rfl
    obtain ⟨row, hfind, rfl⟩ := Option.map_eq_some_iff.mp hload
    obtain ⟨row', hrow', hid, hdel⟩ := h
    have hlive := List.find?_some hfind
    simp only [Bool.and_eq_true, Bool.not_eq_true'] at hlive
    have hsymm : ∀ k k', characterClash k k' → characterClash k' k := by
      rintro k k' (h | h | ⟨h, h'⟩)
      · exact .inl h.symm
      · exact .inr (.inl h.symm)
      · exact .inr (.inr ⟨h.symm, h'.symm⟩)
    obtain rfl : row = row' :=
      Table.eq_of_clash hsymm (List.mem_of_find?_eq_some hfind) hrow' (.inl hid.symm)
    rw [hdel] at hlive
    exact absurd hlive.2 (by decide)
  | _ => trivial

end

/-! ### Handlers -/

/-- As long as the character is not deleted, the handler does not respond that it is. -/
lemma deleteCharacter_spares (req : AuthCharacterDeleteRequest) :
    (deleteCharacter req).ReturnsUnder (Spares req.characterId)
      fun body => body ≠ .characterDelete ⟨true⟩ := by
  intro account _
  cases account with
  | sessionAccount accountId =>
    rcases accountId with _ | accountId
    · exact nofun
    intro marked hmarked
    cases marked with
    | rows count =>
      have hzero : count = 0 := hmarked rfl
      subst hzero
      exact nofun
    | _ => exact nofun
  | _ => exact nofun

/-- Once the character is deleted, the handler does not respond that it is selected. -/
lemma selectCharacter_hides (req : AuthCharacterSelectRequest) (c : CharacterId) :
    (selectCharacter req).ReturnsUnder (Hides c) fun body =>
      ∀ response, body = .characterSelect response → response.characterId ≠ some c := by
  have hno : ∀ reason response, notSelected reason = .characterSelect response →
      response.characterId ≠ some c := by
    rintro reason _ ⟨⟩
    exact nofun
  intro account _
  cases account with
  | sessionAccount accountId =>
    rcases accountId with _ | accountId
    · exact hno _
    intro loaded hloaded
    cases loaded with
    | character character =>
      rcases character with _ | character
      · exact hno _
      intro bound _
      cases bound with
      | rows count =>
        change Task.ReturnsUnder _ _ (if count = 0 then _ else _)
        split
        · exact hno _
        · rintro _ ⟨⟩ hcid
          exact hloaded (Option.some.inj hcid)
      | _ => exact hno _
    | _ => exact hno _
  | _ => exact hno _

/-! ### Steps -/

/-- Another session than `s` is left with the character. -/
def LeftWith (g : Gateway) (s : SessionId) (c : CharacterId) : Prop :=
  ∃ x ∈ g.sessions.keys, x ≠ s ∧ (g.sessions.lookup x).bind (·.characterId) = some c

instance (g : Gateway) (s : SessionId) (c : CharacterId) : Decidable (LeftWith g s c) :=
  inferInstanceAs (Decidable (∃ x ∈ g.sessions.keys, x ≠ s ∧ _ = some c))

/-- The session and the character of a deletion that has succeeded. -/
def deletion : Running → Option (SessionId × CharacterId)
  | ⟨.authCharacterDelete req, .ret (.characterDelete ⟨true⟩)⟩ => some (req.sessionId, req.characterId)
  | _ => none

/-- The deletion that a step answers. -/
def answered (d : Deployment) : Action → Option (SessionId × CharacterId)
  | .answer => (d.serving.bind fun i => d.handlers.lookup i).bind deletion
  | _ => none

/-- When a deletion is answered, no other session is left with the character. -/
def Alone (d : Deployment) (a : Action) : Prop := ∀ x ∈ answered d a, ¬ LeftWith d.gateway x.1 x.2

instance (d : Deployment) (a : Action) : Decidable (Alone d a) :=
  inferInstanceAs (Decidable (∀ x ∈ answered d a, ¬ LeftWith d.gateway x.1 x.2))

/-- What the handlers know of the characters that have been deleted. -/
structure Careful (d : Deployment) : Prop where
  deleting : ∀ i s c task, d.handlers.lookup i = some ⟨.authCharacterDelete ⟨s, c⟩, task⟩ →
    ¬ Gone d.db c → task.ReturnsUnder (Spares c) fun body => body ≠ .characterDelete ⟨true⟩
  gone : ∀ c, Deleted c d.gateway.exchanges → Gone d.db c
  selecting : ∀ i req task c, d.serving = some i →
    d.handlers.lookup i = some ⟨.authCharacterSelect req, task⟩ →
    Deleted c d.gateway.exchanges → task.ReturnsUnder (Hides c) fun body =>
      ∀ response, body = .characterSelect response → response.characterId ≠ some c

variable {parseStr : String → Option Uuid} {packetMaxPayload : ℕ} {svc : AuthService}
  {inet : String → Option String} {db : Database} {d d' : Deployment} {a : Action}

lemma gone_step {c : CharacterId} (hg : Gone d.db c)
    (h : Step parseStr packetMaxPayload svc inet d a d') : Gone d'.db c := by
  cases h with
  | execute => exact gone_run hg _
  | gateway | worldReply | arrive | arriveLate | answer | giveUp | lose | fail | timeout | drop =>
    exact hg

lemma deleted_step (hd : Served d) {c : CharacterId}
    (h : Step parseStr packetMaxPayload svc inet d a d') (hdel : Deleted c d'.gateway.exchanges) :
    Deleted c d.gateway.exchanges ∨ ∃ i s, a = .answer ∧ d.serving = some i ∧
      d.handlers.lookup i = some ⟨.authCharacterDelete ⟨s, c⟩, .ret (.characterDelete ⟨true⟩)⟩ := by
  cases h with
  | arrive | arriveLate | execute | fail | timeout | drop => exact .inl hdel
  | gateway ha hg =>
    rw [GatewaySteps.exchanges_eq ha (GatewaySteps.step_cases hg)] at hdel
    exact .inl hdel
  | worldReply hc hg =>
    rw [GatewaySteps.reply_eq hc hg] at hdel
    refine .inl ((deleted_snoc hdel).resolve_right ?_)
    rintro ⟨s, ⟨⟩, -⟩
  | giveUp hc _ hg | lose hc _ hg =>
    rw [GatewaySteps.reply_eq hc hg] at hdel
    refine .inl ((deleted_snoc hdel).resolve_right ?_)
    rintro ⟨s, -, ⟨⟩⟩
  | @answer i q body g hs hl hg =>
    obtain ⟨cmd, q', k, task, hc, hl'⟩ := hd.serving i hs
    rw [hl] at hl'
    cases hl'
    rw [GatewaySteps.reply_eq hc hg] at hdel
    refine (deleted_snoc hdel).imp_right ?_
    rintro ⟨s, rfl, hr⟩
    refine ⟨i, s, rfl, hs, ?_⟩
    cases body with
    | characterDelete body =>
      obtain rfl : body = ⟨true⟩ := Option.some.inj hr
      exact hl
    | _ => cases hr

lemma spares_failed (c : CharacterId) (query : Query) (text : String) :
    Spares c query (.failed text) := by
  cases query <;> trivial

lemma hides_failed (c : CharacterId) (query : Query) (text : String) :
    Hides c query (.failed text) := by
  cases query <;> trivial

lemma deleting_step (hc : Careful d) (h : Step parseStr packetMaxPayload svc inet d a d') {i : ℕ}
    {s : SessionId} {c : CharacterId} {task : AuthTask}
    (hl : d'.handlers.lookup i = some ⟨.authCharacterDelete ⟨s, c⟩, task⟩)
    (hgone : ¬ Gone d'.db c) :
    task.ReturnsUnder (Spares c) fun body => body ≠ .characterDelete ⟨true⟩ := by
  have hlive : ¬ Gone d.db c := fun hg => hgone (gone_step hg h)
  cases h with
  | gateway | worldReply | giveUp | lose => exact hc.deleting i s c task hl hlive
  | arrive _ _ ht | arriveLate _ ht =>
    rcases FMap.lookup_insert_cases hl with ⟨-, hv⟩ | ⟨-, hl⟩
    · cases hv
      obtain rfl := Option.some.inj ht
      exact deleteCharacter_spares ⟨s, c⟩
    · exact hc.deleting i s c task hl hlive
  | answer | drop =>
    obtain ⟨-, hl⟩ := FMap.lookup_of_erase hl
    exact hc.deleting i s c task hl hlive
  | @execute j now newId seen q query k hj =>
    rcases FMap.lookup_insert_cases hl with ⟨hi, hv⟩ | ⟨-, hl⟩
    · cases hv
      have hnext := hc.deleting i s c _ (hi ▸ hj) hlive
      refine hnext _ ?_
      split
      · exact spares_run hgone
      · exact spares_failed _ _ _
    · exact hc.deleting i s c task hl hlive
  | @fail j text q query k hj =>
    rcases FMap.lookup_insert_cases hl with ⟨hi, hv⟩ | ⟨-, hl⟩
    · cases hv
      have hnext := hc.deleting i s c _ (hi ▸ hj) hlive
      exact hnext _ (spares_failed _ _ _)
    · exact hc.deleting i s c task hl hlive
  | timeout hj hbody =>
    rcases FMap.lookup_insert_cases hl with ⟨-, hv⟩ | ⟨-, hl⟩
    · cases hv
      cases hbody
    · exact hc.deleting i s c task hl hlive

lemma selecting_step (hd : Served d) (hc : Careful d)
    (h : Step parseStr packetMaxPayload svc inet d a d') {i : ℕ} {req : AuthCharacterSelectRequest}
    {task : AuthTask} {c : CharacterId} (hs : d'.serving = some i)
    (hl : d'.handlers.lookup i = some ⟨.authCharacterSelect req, task⟩)
    (hdel : Deleted c d'.gateway.exchanges) :
    task.ReturnsUnder (Hides c) fun body =>
      ∀ response, body = .characterSelect response → response.characterId ≠ some c := by
  have hbefore : a ≠ .answer → Deleted c d.gateway.exchanges := by
    refine fun hne => (deleted_step hd h hdel).resolve_right ?_
    rintro ⟨j, s, ha, -⟩
    exact hne ha
  cases h with
  | gateway | worldReply => exact hc.selecting i req task c hs hl (hbefore nofun)
  | answer | giveUp | lose => cases hs
  | arrive _ hnone ht =>
    obtain rfl := Option.some.inj hs
    rw [Finmap.lookup_insert] at hl
    cases hl
    obtain rfl := Option.some.inj ht
    exact selectCharacter_hides req c
  | arriveLate _ ht =>
    rcases FMap.lookup_insert_cases hl with ⟨-, hv⟩ | ⟨-, hl⟩
    · cases hv
      obtain rfl := Option.some.inj ht
      exact selectCharacter_hides req c
    · exact hc.selecting i req task c hs hl (hbefore nofun)
  | drop =>
    obtain ⟨-, hl⟩ := FMap.lookup_of_erase hl
    exact hc.selecting i req task c hs hl (hbefore nofun)
  | @execute j now newId seen q query k hj =>
    rcases FMap.lookup_insert_cases hl with ⟨hi, hv⟩ | ⟨-, hl⟩
    · cases hv
      have hnext := hc.selecting i req _ c hs (hi ▸ hj) (hbefore nofun)
      refine hnext _ ?_
      split
      · exact hides_run (hc.gone c (hbefore nofun))
      · exact hides_failed _ _ _
    · exact hc.selecting i req task c hs hl (hbefore nofun)
  | @fail j text q query k hj =>
    rcases FMap.lookup_insert_cases hl with ⟨hi, hv⟩ | ⟨-, hl⟩
    · cases hv
      have hnext := hc.selecting i req _ c hs (hi ▸ hj) (hbefore nofun)
      exact hnext _ (hides_failed _ _ _)
    · exact hc.selecting i req task c hs hl (hbefore nofun)
  | timeout hj hbody =>
    rcases FMap.lookup_insert_cases hl with ⟨-, hv⟩ | ⟨-, hl⟩
    · cases hv
      cases hbody
    · exact hc.selecting i req task c hs hl (hbefore nofun)

lemma careful_step (hd : Served d) (hc : Careful d)
    (h : Step parseStr packetMaxPayload svc inet d a d') : Careful d' where
  deleting i s c task hl hgone := deleting_step hc h hl hgone
  gone c hdel := by
    rcases deleted_step hd h hdel with hdel | ⟨i, s, -, -, hl⟩
    · exact gone_step (hc.gone c hdel) h
    · refine gone_step ?_ h
      by_contra hlive
      exact hc.deleting i s c _ hl hlive rfl
  selecting i req task c hs hl hdel := selecting_step hd hc h hs hl hdel

lemma barred_deployment (hd : Served d) (hc : Careful d) (hb : Barred d.gateway)
    (ht : Traced d.gateway) (hr : Routed d.gateway) (ht' : Traced d'.gateway)
    (hr' : Routed d'.gateway) (ha : Alone d a)
    (h : Step parseStr packetMaxPayload svc inet d a d') : Barred d'.gateway := by
  cases h with
  | arrive | arriveLate | execute | fail | timeout | drop => exact hb
  | gateway hown hg =>
    exact barred_step ht hr hb (GatewaySteps.step_cases hg) ht' hr' fun _ _ _ r he _ =>
      absurd he (hown r)
  | worldReply hcall hg =>
    refine barred_step ht hr hb (GatewaySteps.step_cases hg) ht' hr' fun c q k r _ hcur => ?_
    rw [hcall] at hcur
    cases hcur
    exact ⟨nofun, nofun⟩
  | giveUp hcall _ hg | lose hcall _ hg =>
    refine barred_step ht hr hb (GatewaySteps.step_cases hg) ht' hr' fun c q k r he hcur => ?_
    cases he
    exact ⟨nofun, nofun⟩
  | @answer i q body g hs hl hg =>
    refine barred_step ht hr hb (GatewaySteps.step_cases hg) ht' hr' fun c q' k r he hcur => ?_
    cases he
    obtain ⟨cmd, q₀, k₀, task, hcur', hl'⟩ := hd.serving i hs
    rw [hl] at hl'
    cases hl'
    rw [hcur] at hcur'
    cases hcur'
    constructor
    · rintro req response x rfl hbody hdel
      cases body with
      | characterSelect response' =>
        cases hbody
        exact hc.selecting i req _ x hs hl hdel response rfl
      | _ => cases hbody
    · rintro s x rfl hbody y e hne hy he
      cases body with
      | characterDelete response =>
        obtain rfl : response = ⟨true⟩ := Option.some.inj hbody
        refine ha (s, x) ?_ ⟨y, Finmap.mem_keys.mpr (Finmap.mem_of_lookup_eq_some hy), hne, ?_⟩
        · rw [Option.mem_def, answered, hs, Option.bind_some, hl]
          rfl
        · rw [hy]
          exact he
      | _ => cases hbody

/-- **A deleted character stops playing**, in every run in which a deletion is answered while no
other session is left with the character: no request that the router posts to the world afterwards
names it. -/
theorem stopped_of_alone (h : (system parseStr packetMaxPayload svc inet db).ReachedBy Alone d) :
    Stopped d.gateway := by
  have hall := h.invariant_of (fun d => Careful d ∧ Barred d.gateway)
    (J := fun d => Served d ∧ Traced d.gateway ∧ Routed d.gateway)
    (fun hs => ⟨served_of_reached hs, traced_of_reached (gateway_reached hs),
      routed_of_reached (gateway_reached hs)⟩) ?_ ?_
  · exact hall.2.stopped
  · rintro d rfl
    refine ⟨⟨nofun, fun c hdel => ?_, nofun⟩, barred_start⟩
    obtain ⟨s, r, hin, -⟩ := hdel
    exact absurd hin List.not_mem_nil
  · rintro d a d' ⟨hd, ht, hr⟩ ⟨-, ht', hr'⟩ ⟨hc, hb⟩ ha hst
    exact ⟨careful_step hd hc (step_cases hst),
      barred_deployment hd hc hb ht hr ht' hr' ha (step_cases hst)⟩

/-! ### Two runs -/

/-- The account of the fixture has a character. -/
def played : Database :=
  { fixture with
    characters := ⟨[⟨.fill 5, .fill 1, "Aria", 0, "warrior", 0, 0, 0, 0, 0, 1, 0, 1, 100, 100, 100,
      50, 50, (10, 10, 10, 10, 10, 10), false, 0, 0⟩], List.pairwise_singleton _ _⟩ }

def playedSystem : System Deployment Action :=
  system (fun _ => none) 65535 ⟨3600, "gw-1"⟩ some played

def deleteFrame : Bytes := encodeFrame 0x0006 (Uuid.fill 5).bytes

/-- A frame comes in, and the router takes its command. -/
def taken (s : SessionId) (frame : Bytes) : List Action :=
  [.gateway (.read s frame), .gateway (.frame s true), .gateway (.send s), .gateway .recv,
    .gateway .sync, .gateway .sync]

/-- The handler of the request runs its statements and is answered. -/
def handled (i statements : ℕ) : List Action :=
  .arrive surroundings false ::
    (List.replicate statements (.execute i 0 (.fill 0) true) ++
      [.answer, .gateway .sync, .gateway .finish])

def loggedIn (s : SessionId) (i : ℕ) : List Action :=
  .gateway (.accept s "10.0.0.1") :: (taken s smokeFrame ++ handled i 2)

def selected (s : SessionId) (i : ℕ) : List Action := taken s selectFrame ++ handled i 3

def enteredWorld (s : SessionId) : List Action :=
  taken s enterWorldFrame ++
    [.gateway .sync, .worldReply (.response 200 .other), .gateway .sync, .gateway .finish]

def deleted (s : SessionId) (i : ℕ) : List Action := taken s deleteFrame ++ handled i 3

/-- The last reply is that the character is deleted. -/
def lastDeletes (g : Gateway) (s : SessionId) (c : CharacterId) : Bool :=
  match g.exchanges.getLast? with
  | some (.authCharacterDelete req, r) => req = ⟨s, c⟩ && r.characterDelete.any (·.ok)
  | _ => false

lemma deleted_of_last {g : Gateway} {s : SessionId} {c : CharacterId}
    (h : lastDeletes g s c = true) : Deleted c g.exchanges := by
  unfold lastDeletes at h
  split at h
  · next req r hl =>
    rw [Bool.and_eq_true, decide_eq_true_eq, Option.any_eq_true] at h
    obtain ⟨rfl, ⟨_⟩, hr, rfl⟩ := h
    exact ⟨s, r, List.mem_of_getLast? hl, hr⟩
  · cases h

/-- A session that deletes the character it has selected, and is then heard of again. -/
theorem stopped_of_alone_heartbeat :
    ∃ d, playedSystem.Reached d ∧ Stopped d.gateway ∧ Deleted (.fill 5) d.gateway.exchanges ∧
      posting d.gateway = some (.worldRoute 1 ⟨.fill 7, none, .heartbeat⟩) := by
  obtain ⟨d, hd, hp⟩ := playedSystem.exists_reachedBy Alone (s := start played) rfl
    (loggedIn (.fill 7) 0 ++ selected (.fill 7) 1 ++ deleted (.fill 7) 2 ++
      taken (.fill 7) (encodeFrame 0x02FE []))
    (fun d => lastDeletes d.gateway (.fill 7) (.fill 5) ∧
      posting d.gateway = some (.worldRoute 1 ⟨.fill 7, none, .heartbeat⟩)) (by decide +kernel)
  obtain ⟨hlast, hpost⟩ := of_decide_eq_true hp
  exact ⟨d, hd.reached, stopped_of_alone hd, deleted_of_last hlast, hpost⟩

/-- A session of the account plays on with the character that another one has deleted. -/
theorem deleted_character_chats : ∃ d, playedSystem.Reached d ∧ ¬ Stopped d.gateway := by
  obtain ⟨d, hd, hp⟩ := playedSystem.exists_reachedBy (fun _ _ => True) (s := start played) rfl
    (loggedIn (.fill 8) 0 ++ selected (.fill 8) 1 ++ enteredWorld (.fill 8) ++
      loggedIn (.fill 7) 2 ++ deleted (.fill 7) 3 ++ taken (.fill 8) chatFrame ++ [.gateway .sync])
    (fun d => lastDeletes d.gateway (.fill 7) (.fill 5) ∧
      posting d.gateway = some (.worldRoute 1 ⟨.fill 8, some (.fill 5), .chat "hi"⟩))
    (by decide +kernel)
  obtain ⟨hlast, hpost⟩ := of_decide_eq_true hp
  refine ⟨d, hd, fun hst => ?_⟩
  exact hst _ _ (postedAfter_of_posting hpost) _ (deleted_of_last hlast) _ _ rfl rfl

end HelbreathBackend.DeletedCharacters
