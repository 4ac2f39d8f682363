import HelbreathBackend.Grants

/-!
What the router does to a session.

While the router handles a command of a session, the other tasks can only take the entry of
the session away. The entry, as long as it is there, says what the history of the session has
granted, and it never says more than the phase after the command allows.
-/

namespace HelbreathBackend.Routing

open HelbreathBackend.Lib HelbreathBackend.Lib.Contract HelbreathBackend.Domain
open HelbreathBackend.Application HelbreathBackend.Translate HelbreathBackend.Gateway
open HelbreathBackend.Gateway.Router HelbreathBackend.Grants

/-! ### Phases -/

/-- How far a phase is. -/
def rank : SessionPhase → ℕ
  | .preAuth => 0
  | .postAuth => 1
  | .inCharacterList => 2
  | .inWorld => 3
  | .closed => 4

lemma rank_nextPhase (p : SessionPhase) (cmd : ClientCommand) :
    rank p ≤ rank (nextPhase p cmd) := by
  cases p <;> cases cmd <;> simp [nextPhase, rank]

section

variable {p : SessionPhase}

lemma ne_closed_of_allowed {cmd : ClientCommand} (h : allowedIn p.asDomainState cmd = true) :
    p ≠ .closed := by
  rintro rfl
  cases h

lemma eq_preAuth_of_login {payload : LoginPayload}
    (h : allowedIn p.asDomainState (.login payload) = true) : p = .preAuth := by
  cases p <;> first | rfl | cases h

lemma one_le_rank_of_logout (h : allowedIn p.asDomainState .logout = true) : 1 ≤ rank p := by
  cases p <;> first | (cases h; done) | simp [rank]

lemma nextPhase_characterDelete {c : CharacterId}
    (h : allowedIn p.asDomainState (.characterDelete c) = true) :
    nextPhase p (.characterDelete c) = .inCharacterList := by
  cases p <;> first | rfl | cases h

lemma nextPhase_characterSelect {c : CharacterId}
    (h : allowedIn p.asDomainState (.characterSelect c) = true) :
    nextPhase p (.characterSelect c) = .inCharacterList := by
  cases p <;> first | rfl | cases h

lemma nextPhase_enterWorld (h : allowedIn p.asDomainState .enterWorld = true) :
    nextPhase p .enterWorld = .inWorld := by
  cases p <;> first | rfl | cases h

end

/-- What a phase allows an entry to say. -/
structure Bounded (p : SessionPhase) (a : Authority) : Prop where
  whole : a.inWorld = true → a.accountId.isSome ∧ a.characterId.isSome
  account : a.accountId.isSome → 1 ≤ rank p
  character : a.characterId.isSome → 2 ≤ rank p
  world : a.inWorld = true → 3 ≤ rank p

lemma bounded_nobody (p : SessionPhase) : Bounded p nobody := ⟨nofun, nofun, nofun, nofun⟩

lemma bounded_of_outside {p : SessionPhase} {a : Authority} (hout : a.inWorld = false)
    (haccount : a.accountId.isSome → 1 ≤ rank p) (hcharacter : a.characterId.isSome → 2 ≤ rank p) :
    Bounded p a where
  whole hin := by
    rw [hout] at hin
    cases hin
  account := haccount
  character := hcharacter
  world hin := by
    rw [hout] at hin
    cases hin

lemma Bounded.mono {p p' : SessionPhase} {a : Authority} (h : Bounded p a)
    (hp : rank p ≤ rank p') : Bounded p' a :=
  ⟨h.whole, fun ha => (h.account ha).trans hp, fun hc => (h.character hc).trans hp,
    fun hw => (h.world hw).trans hp⟩

/-! ### The ledger

What the history of a session says at the phase that the session has reached. -/

/-- A single login has been asked for. -/
def OneLogin (h : List Exchange) : Prop :=
  ∃ x ∈ h, isLogin x.1 = true ∧ ∀ y ∈ h, isLogin y.1 = true → y = x

lemma oneLogin_snoc {h : List Exchange} {x : Exchange} (hin : isLogin x.1 = false)
    (ho : OneLogin h) : OneLogin (h ++ [x]) := by
  obtain ⟨y, hy, hlog, huniq⟩ := ho
  refine ⟨y, List.mem_append_left _ hy, hlog, fun z hz hzl => ?_⟩
  rcases List.mem_append.mp hz with hz | hz
  · exact huniq z hz hzl
  · obtain rfl := List.mem_singleton.mp hz
    simp [hin] at hzl

structure Ledger (p : SessionPhase) (h : List Exchange) : Prop where
  fresh : rank p < 1 → ∀ x ∈ h, isLogin x.1 = false
  once : 1 ≤ rank p → OneLogin h
  outside : rank p < 3 → ∀ x ∈ h, isEnterWorld x.1 = false
  account : (granted h).accountId.isSome ↔ ∃ x ∈ h, loginAccepted x = true
  world : (granted h).inWorld = true ↔ ∃ x ∈ h, enterAccepted x = true

lemma ledger_start : Ledger .preAuth [] := by
  constructor
  · exact fun _ x hx => absurd hx List.not_mem_nil
  · intro hp
    simp [rank] at hp
  · exact fun _ x hx => absurd hx List.not_mem_nil
  · simp [granted, nobody]
  · simp [granted, nobody]

/-- The ledger at a later phase, if the phase is not the first one after a login. -/
lemma Ledger.advance {p p' : SessionPhase} {h : List Exchange} (hl : Ledger p h)
    (hp : rank p ≤ rank p') (h1 : 1 ≤ rank p' → 1 ≤ rank p) : Ledger p' h :=
  ⟨fun hr => hl.fresh (by omega), fun hr => hl.once (h1 hr), fun hr => hl.outside (by omega),
    hl.account, hl.world⟩

/-- Nobody is in the world before the phase of the world. -/
lemma Ledger.not_inWorld {p : SessionPhase} {h : List Exchange} (hl : Ledger p h)
    (hp : rank p < 3) : (granted h).inWorld = false := by
  rw [Bool.eq_false_iff]
  intro hw
  obtain ⟨x, hx, hacc⟩ := hl.world.mp hw
  have hno := hl.outside hp x hx
  simp [enterAccepted, hno] at hacc

/-- An exchange that is neither a login nor an entry, and changes neither grant. -/
lemma Ledger.snoc {p : SessionPhase} {h : List Exchange} (hl : Ledger p h) {x : Exchange}
    (hin : isLogin x.1 = false) (hen : isEnterWorld x.1 = false)
    (ha : (grant (granted h) x).accountId = (granted h).accountId)
    (hw : (grant (granted h) x).inWorld = (granted h).inWorld) : Ledger p (h ++ [x]) := by
  have hla : loginAccepted x = false := by simp [loginAccepted, hin]
  have hea : enterAccepted x = false := by simp [enterAccepted, hen]
  constructor
  · intro hp
    simpa [hin, or_imp, forall_and] using hl.fresh hp
  · exact fun hp => oneLogin_snoc hin (hl.once hp)
  · intro hp
    simpa [hen, or_imp, forall_and] using hl.outside hp
  · rw [granted_snoc, ha, hl.account]
    simp [hla, or_and_right, exists_or]
  · rw [granted_snoc, hw, hl.world]
    simp [hea, or_and_right, exists_or]

/-- The login, which is the first thing a session can ask for. -/
lemma Ledger.login {h : List Exchange} (hl : Ledger .preAuth h) (req : AuthLoginRequest)
    (r : HttpReply) : Ledger .postAuth (h ++ [(.authLogin req, r)]) := by
  have hno : ∀ y ∈ h, isLogin y.1 = false := hl.fresh (by simp [rank])
  have hna : (granted h).accountId.isSome = false := by
    rw [Bool.eq_false_iff]
    intro ha
    obtain ⟨y, hy, hacc⟩ := hl.account.mp ha
    simp [loginAccepted, hno y hy] at hacc
  have hnone : ∀ y ∈ h, loginAccepted y = false := fun y hy => by simp [loginAccepted, hno y hy]
  have hnw : (granted h).inWorld = false := hl.not_inWorld (by simp [rank])
  have hne : ∀ y ∈ h, enterAccepted y = false := fun y hy => by
    simp [enterAccepted, hl.outside (by simp [rank]) y hy]
  constructor
  · intro hp
    simp [rank] at hp
  · intro _
    refine ⟨_, List.mem_append_right _ (List.mem_singleton.mpr rfl), rfl, fun y hy hylog => ?_⟩
    rcases List.mem_append.mp hy with hy | hy
    · simp [hno y hy] at hylog
    · exact List.mem_singleton.mp hy
  · intro _ y hy
    rcases List.mem_append.mp hy with hy | hy
    · exact hl.outside (by simp [rank]) y hy
    · obtain rfl := List.mem_singleton.mp hy
      rfl
  · have hx : (grant (granted h) (.authLogin req, r)).accountId.isSome =
        loginAccepted (.authLogin req, r) := by
      unfold grant loginAccepted isLogin
      rcases r.login with _ | body
      · simpa using hna
      · rcases hacc : body.accepted <;> simp [hacc, hna]
    rw [granted_snoc, hx]
    constructor
    · exact fun ha => ⟨_, List.mem_append_right _ (List.mem_singleton.mpr rfl), ha⟩
    · rintro ⟨y, hy, hacc⟩
      rcases List.mem_append.mp hy with hy | hy
      · simp [hnone y hy] at hacc
      · rwa [List.mem_singleton.mp hy] at hacc
  · have hx : (grant (granted h) (.authLogin req, r)).inWorld = false := by
      unfold grant
      rcases r.login with _ | body
      · exact hnw
      · rcases hacc : body.accepted <;> simp [hacc, hnw]
    rw [granted_snoc, hx]
    refine ⟨fun hin => (by cases hin), ?_⟩
    rintro ⟨y, hy, hacc⟩
    rcases List.mem_append.mp hy with hy | hy
    · simp [hne y hy] at hacc
    · rw [List.mem_singleton.mp hy] at hacc
      simp [enterAccepted, isEnterWorld] at hacc

/-- An entry into the world, in the phase of the world. -/
lemma Ledger.enterWorld {h : List Exchange} (hl : Ledger .inWorld h) (m : MapId)
    (c : Option CharacterId) (s : SessionId) (r : HttpReply) :
    Ledger .inWorld (h ++ [(.worldRoute m ⟨s, c, .enterWorld⟩, r)]) := by
  constructor
  · intro hp
    simp [rank] at hp
  · exact fun hp => oneLogin_snoc rfl (hl.once hp)
  · intro hp
    simp [rank] at hp
  · have hx : (grant (granted h) (.worldRoute m ⟨s, c, .enterWorld⟩, r)).accountId =
        (granted h).accountId := by
      rcases hr : r.isSuccess <;> simp [grant, hr]
    rw [granted_snoc, hx, hl.account]
    simp [loginAccepted, isLogin, or_and_right, exists_or]
  · have hx : (grant (granted h) (.worldRoute m ⟨s, c, .enterWorld⟩, r)).inWorld =
        ((granted h).inWorld || r.isSuccess) := by
      rcases hr : r.isSuccess <;> simp [grant, hr]
    rw [granted_snoc, hx, Bool.or_eq_true, hl.world]
    simp [enterAccepted, isEnterWorld, or_and_right, exists_or]

/-! ### The contract of a command -/

/-- The entry of the session, if it is still there, says this. -/
def Entry (s : SessionId) (a : Authority) (σ : Sessions) : Prop :=
  ∀ e, σ.lookup s = some e → authority e = a

lemma kept_refl (s : SessionId) (σ : Sessions) : σ.lookup s = σ.lookup s ∨ σ.lookup s = none :=
  .inl rfl

/-- Others leave the entry of a session as it is, or end it. -/
lemma kept_trans {s : SessionId} {σ σ' σ'' : Sessions}
    (h : σ'.lookup s = σ.lookup s ∨ σ'.lookup s = none)
    (h' : σ''.lookup s = σ'.lookup s ∨ σ''.lookup s = none) :
    σ''.lookup s = σ.lookup s ∨ σ''.lookup s = none := by
  rcases h' with h' | h'
  · rwa [h']
  · exact .inr h'

/-- For a command of session `s` after which the phase is `p`. -/
def contract (s : SessionId) (p : SessionPhase) :
    Contract Sessions BackendRequest HttpReply where
  rely σ σ' := σ'.lookup s = σ.lookup s ∨ σ'.lookup s = none
  guar σ σ' := (∀ x, x ≠ s → σ'.lookup x = σ.lookup x) ∧
    ∀ e', σ'.lookup s = some e' → ∃ e, σ.lookup s = some e ∧
      (Bounded p (authority e) → Bounded p (authority e'))
  may q _ l := sessionOf q = s ∧ permitted (granted (history s l)) q = true
  rely_refl := kept_refl s
  rely_trans := @kept_trans s
  guar_refl _ := ⟨fun _ _ => rfl, fun e' h => ⟨e', h, id⟩⟩

/-- Between two commands: the entry says what the history has granted. -/
structure Settled (s : SessionId) (p : SessionPhase) (σ : Sessions) (l : List Exchange) :
    Prop where
  entry : Entry s (granted (history s l)) σ
  gone : p = .closed → σ.lookup s = none
  ledger : Ledger p (history s l)

section

variable {s : SessionId} {p q : SessionPhase} {a a' : Authority} {σ σ' : Sessions}
  {l : List Exchange}

lemma Entry.stable (h : Entry s a σ) (hr : (contract s p).rely σ σ') : Entry s a σ' := by
  intro e he
  rcases hr with hr | hr
  · exact h e (hr ▸ he)
  · rw [hr] at he
    cases he

lemma Settled.stable (h : Settled s q σ l) (hr : (contract s p).rely σ σ') :
    Settled s q σ' l := by
  refine ⟨h.entry.stable hr, fun hq => ?_, h.ledger⟩
  rcases hr with hr | hr
  · rw [hr, h.gone hq]
  · exact hr

/-- A lookup that answers yes has seen the entry. -/
lemma Entry.of_read (h : Entry s a σ) {f : SessionRuntime → Bool} {g : Authority → Bool}
    (hfg : ∀ e, f e = g (authority e)) (hb : ((σ.lookup s).map f).getD false = true) :
    g a = true := by
  rcases he : σ.lookup s with _ | e
  · simp [he] at hb
  · rw [he, Option.map_some, Option.getD_some, hfg, h e he] at hb
    exact hb

/-! ### Atomic sections -/

variable {β : Type} {post : β → Sessions → List Exchange → Prop}

/-- A guard: the branch it opens may use what the entry said. -/
lemma meets_guard (hset : Settled s q σ l) {f : Option SessionRuntime → Bool}
    {g : Authority → Bool}
    (hf : ∀ o, f o = ((o.map fun e => g (authority e)).getD false))
    {task : Router Unit} {Q : Unit → Sessions → List Exchange → Prop}
    (hpost : ∀ σ', Settled s q σ' l → Q () σ' l)
    (htask : ∀ σ', Settled s q σ' l → g (granted (history s l)) = true →
      (contract s p).Meets task Q σ' l) :
    (contract s p).Meets (Task.read (fun m : Sessions => m.lookup s) >>= fun sess =>
      if f sess = true then task else pure ()) Q σ l := by
  refine meets_read fun σ' hr => ?_
  have hset' := hset.stable hr
  split
  · next hb =>
    rw [hf] at hb
    exact htask σ' hset' (hset'.entry.of_read (fun _ => rfl) hb)
  · exact meets_pure fun σ'' hr' => hpost σ'' (hset'.stable hr')

/-- A request, whatever the reply. -/
lemma meets_post {k : HttpReply → Router β} {r : BackendRequest} (hs : Entry s a σ)
    (hown : sessionOf r = s) (hperm : permitted (granted (history s l)) r = true)
    (hk : ∀ σ' x, Entry s a σ' → (contract s p).Meets (k x) post σ' (l ++ [(r, x)])) :
    (contract s p).Meets (Router.post r >>= k) post σ l :=
  meets_request fun σ' hr => ⟨⟨hown, hperm⟩, fun x => hk σ' x (hs.stable hr)⟩

/-- An update of the entry that makes it say something else the phase allows. -/
lemma meets_update (hs : Entry s a σ) {f : SessionRuntime → SessionRuntime}
    (hf : ∀ e, authority e = a → authority (f e) = a') (hb : Bounded p a → Bounded p a')
    {post : Unit → Sessions → List Exchange → Prop}
    (hpost : ∀ σ', Entry s a' σ' → post () σ' l) :
    (contract s p).Meets (updateSession s f) post σ l := by
  refine meets_modify fun σ' hr => ?_
  have hs' := hs.stable hr
  have hlook : (FMap.modify σ' s f).lookup s = (σ'.lookup s).map f := by
    rw [FMap.lookup_modify, if_pos rfl]
  refine ⟨⟨fun x hx => by rw [FMap.lookup_modify, if_neg hx], fun e' he' => ?_⟩,
    fun σ'' hr' => hpost σ'' (Entry.stable (p := p) (fun e' he' => ?_) hr')⟩
  · rw [hlook] at he'
    obtain ⟨e, he, rfl⟩ := Option.map_eq_some_iff.mp he'
    refine ⟨e, he, fun hbe => ?_⟩
    rw [hf e (hs' e he)]
    exact hb (hs' e he ▸ hbe)
  · rw [hlook] at he'
    obtain ⟨e, he, rfl⟩ := Option.map_eq_some_iff.mp he'
    exact hf e (hs' e he)

lemma meets_done (hs : Entry s a σ) {post : Unit → Sessions → List Exchange → Prop}
    (hpost : ∀ σ', Entry s a σ' → post () σ' l) : (contract s p).Meets (pure ()) post σ l :=
  meets_pure fun σ' hr => hpost σ' (hs.stable hr)

lemma meets_removeSession {post : Unit → Sessions → List Exchange → Prop}
    (hpost : ∀ σ' : Sessions, σ'.lookup s = none → post () σ' l) :
    (contract s p).Meets (removeSession s) post σ l := by
  refine meets_modify fun σ' _ => ?_
  have hnone : (σ'.erase s).lookup s = none := Finmap.lookup_erase s σ'
  refine ⟨⟨fun x hx => Finmap.lookup_erase_ne hx, fun e' he' => ?_⟩, fun σ'' hr => hpost σ'' ?_⟩
  · rw [hnone] at he'
    cases he'
  · rcases hr with hr | hr
    · rw [hr, hnone]
    · exact hr

lemma meets_routeWorldCommand {m : MapId} {req : WorldRouteCommandRequest} {k : Bool → Router β}
    (hset : Settled s q σ l)
    (hperm : ∀ c, permitted (granted (history s l)) (.worldRoute m ⟨s, c, req⟩) = true)
    (hk : ∀ σ' c r, Entry s (granted (history s l)) σ' →
      (contract s p).Meets (k r.isSuccess) post σ' (l ++ [(.worldRoute m ⟨s, c, req⟩, r)])) :
    (contract s p).Meets (routeWorldCommand s m req >>= k) post σ l := by
  change (contract s p).Meets (Task.read (fun f : Sessions => f.lookup s) >>= fun sess =>
    Router.post (.worldRoute m ⟨s, sess.bind (·.characterId), req⟩) >>= fun r => k r.isSuccess)
    post σ l
  refine meets_read fun σ' hr => ?_
  exact meets_post (hset.entry.stable hr) rfl (hperm _) fun σ'' x he => hk σ'' _ x he

/-! ### Commands -/

/-- A phase that a command other than a login or a logout can lead to. -/
structure Follows (q p : SessionPhase) : Prop where
  rank_le : rank q ≤ rank p
  after_login : 1 ≤ rank p → 1 ≤ rank q
  not_closed : p ≠ .closed

lemma follows_nextPhase {cmd : ClientCommand} (hq : q ≠ .closed)
    (hin : ∀ payload, cmd ≠ .login payload) (hout : cmd ≠ .logout) :
    Follows q (nextPhase q cmd) := by
  cases q <;> cases cmd <;>
    first
    | exact absurd rfl (hin _)
    | exact absurd rfl hout
    | exact absurd rfl hq
    | exact ⟨by simp [nextPhase, rank], by simp [nextPhase, rank], by simp [nextPhase]⟩

lemma Settled.follow (h : Settled s q σ l) (hp : Follows q p) : Settled s p σ l :=
  ⟨h.entry, fun hc => absurd hc hp.not_closed, h.ledger.advance hp.rank_le hp.after_login⟩

lemma settled_snoc {x : Exchange} (hown : sessionOf x.1 = s) (hp : p ≠ .closed)
    (hE : Entry s (grant (granted (history s l)) x) σ) (hl : Ledger p (history s l ++ [x])) :
    Settled s p σ (l ++ [x]) := by
  refine ⟨?_, fun hc => absurd hc hp, ?_⟩
  · rwa [history_own hown, granted_snoc]
  · rwa [history_own hown]

/-- After an exchange that grants nothing. -/
lemma Settled.neutral (h : Settled s q σ l) (hp : Follows q p) {x : Exchange}
    (hown : sessionOf x.1 = s) (hin : isLogin x.1 = false) (hen : isEnterWorld x.1 = false)
    (hg : ∀ a, grant a x = a) (hE : Entry s (granted (history s l)) σ') :
    Settled s p σ' (l ++ [x]) := by
  refine settled_snoc hown hp.not_closed (by rwa [hg]) ?_
  exact (h.ledger.advance hp.rank_le hp.after_login).snoc hin hen (by rw [hg]) (by rw [hg])

/-- After an exchange that may put a session out of the world, and leaves its account. -/
lemma Settled.outside (h : Settled s q σ l) (hp : Follows q p) (hrank : rank p < 3) {x : Exchange}
    (hown : sessionOf x.1 = s) (hin : isLogin x.1 = false) (hen : isEnterWorld x.1 = false)
    (hg : ∀ a, grant a x = a ∨ ∃ c m, grant a x = ⟨a.accountId, c, m, false⟩)
    (hE : Entry s (grant (granted (history s l)) x) σ') : Settled s p σ' (l ++ [x]) := by
  have hout : (granted (history s l)).inWorld = false :=
    h.ledger.not_inWorld (hp.rank_le.trans_lt hrank)
  refine settled_snoc hown hp.not_closed hE ?_
  refine (h.ledger.advance hp.rank_le hp.after_login).snoc hin hen ?_ ?_
  · rcases hg (granted (history s l)) with hg | ⟨_, _, hg⟩
    · rw [hg]
    · rw [hg]
  · rcases hg (granted (history s l)) with hg | ⟨_, _, hg⟩
    · rw [hg]
    · rw [hg, hout]

lemma meets_routeAuthLogin (payload : LoginPayload) (h : Settled s .preAuth σ l) :
    (contract s .postAuth).Meets (routeAuthLogin s payload) (fun _ => Settled s .postAuth) σ l := by
  unfold routeAuthLogin
  refine meets_read fun σ₁ hr₁ => ?_
  refine meets_post (h.entry.stable hr₁) rfl rfl fun σ₂ r he => ?_
  have hdone : ∀ req : AuthLoginRequest, req.sessionId = s →
      ∀ σ', Entry s (grant (granted (history s l)) (.authLogin req, r)) σ' →
      Settled s .postAuth σ' (l ++ [(.authLogin req, r)]) := fun req hown σ' hE =>
    settled_snoc hown (by decide) hE (h.ledger.login req r)
  rcases hr : r.login with _ | body
  · exact meets_done (by simpa [grant, hr] using he) (hdone _ rfl)
  · by_cases hacc : body.accepted = true
    · simp only [hacc, if_true]
      refine meets_update he (fun e _ => ?_) (fun _ => ?_) (hdone _ rfl)
      · simp [authority, grant, hr, hacc]
      · simp only [grant, hr, hacc, if_true]
        exact bounded_of_outside rfl (fun _ => by simp [rank]) fun hsome => by cases hsome
    · simp only [hacc]
      exact meets_done (by simpa [grant, hr, hacc] using he) (hdone _ rfl)

lemma meets_whenAuthenticated {route : Router Unit} (h : Settled s q σ l) (hp : Follows q p)
    (hroute : ∀ σ', Settled s q σ' l → (granted (history s l)).accountId.isSome = true →
      (contract s p).Meets route (fun _ => Settled s p) σ' l) :
    (contract s p).Meets (whenAuthenticated s route) (fun _ => Settled s p) σ l :=
  meets_guard (f := fun o => (o.bind (·.accountId)).isSome) (g := fun a => a.accountId.isSome)
    h (fun o => by cases o <;> rfl) (fun _ h' => h'.follow hp) hroute

lemma meets_routeAuthCharacterList (h : Settled s q σ l) (hp : Follows q p)
    (ha : (granted (history s l)).accountId.isSome = true) :
    (contract s p).Meets (routeAuthCharacterList s) (fun _ => Settled s p) σ l := by
  refine meets_post h.entry rfl ha fun σ' r he => ?_
  exact meets_done he fun σ'' => h.neutral hp rfl rfl rfl fun _ => rfl

lemma meets_routeAuthCharacterCreate (payload : CharacterCreatePayload) (h : Settled s q σ l)
    (hp : Follows q p) (ha : (granted (history s l)).accountId.isSome = true) :
    (contract s p).Meets (routeAuthCharacterCreate s payload) (fun _ => Settled s p) σ l := by
  refine meets_post h.entry rfl ha fun σ' r he => ?_
  exact meets_done he fun σ'' => h.neutral hp rfl rfl rfl fun _ => rfl

lemma meets_routeAuthCharacterDelete (c : CharacterId) (h : Settled s q σ l) (hp : Follows q p)
    (hin : rank p < 3) (ha : (granted (history s l)).accountId.isSome = true) :
    (contract s p).Meets (routeAuthCharacterDelete s c) (fun _ => Settled s p) σ l := by
  unfold routeAuthCharacterDelete
  refine meets_post h.entry rfl ha fun σ' r he => ?_
  have hdone : ∀ σ', Entry s (grant (granted (history s l)) (.authCharacterDelete ⟨s, c⟩, r)) σ' →
      Settled s p σ' (l ++ [(.authCharacterDelete ⟨s, c⟩, r)]) := fun σ' =>
    h.outside hp hin rfl rfl rfl fun a =>
      (grant_delete_cases a ⟨s, c⟩ r).imp_right fun hg => ⟨none, none, hg⟩
  rcases hr : r.characterDelete with _ | body
  · exact meets_done (by simpa [grant, hr] using he) hdone
  · by_cases hok : body.ok = true
    · simp only [hok, if_true]
      refine meets_update he (fun e heq => ?_) (fun hb => ?_) hdone
      · rw [← heq]
        by_cases hc : e.characterId = some c <;> simp [grant, hr, hok, authority, hc]
      · simp only [grant, hr, hok, if_true]
        split
        · exact bounded_of_outside rfl hb.account fun hsome => by cases hsome
        · exact hb
    · simp only [hok]
      exact meets_done (by simpa [grant, hr, hok] using he) hdone

lemma meets_routeAuthCharacterSelect (c : CharacterId) (h : Settled s q σ l) (hp : Follows q p)
    (h2 : rank p = 2) (ha : (granted (history s l)).accountId.isSome = true) :
    (contract s p).Meets (routeAuthCharacterSelect s c) (fun _ => Settled s p) σ l := by
  unfold routeAuthCharacterSelect
  refine meets_post h.entry rfl ha fun σ' r he => ?_
  have hdone : ∀ σ', Entry s (grant (granted (history s l)) (.authCharacterSelect ⟨s, c⟩, r)) σ' →
      Settled s p σ' (l ++ [(.authCharacterSelect ⟨s, c⟩, r)]) := fun σ' =>
    h.outside hp (by omega) rfl rfl rfl fun a => grant_select_cases a ⟨s, c⟩ r
  rcases hr : r.characterSelect with _ | body
  · exact meets_done (by simpa [grant, hr] using he) hdone
  · by_cases hok : body.ok = true
    · simp only [hok, if_true]
      refine meets_update he (fun e heq => ?_) (fun hb => ?_) hdone
      · rw [← heq]
        simp only [grant, hr, hok, if_true, authority]
      · simp only [grant, hr, hok, if_true]
        exact bounded_of_outside rfl hb.account fun _ => h2.ge
    · simp only [hok]
      exact meets_done (by simpa [grant, hr, hok] using he) hdone

/-- The commands of play ask for a session that is in the world. -/
lemma meets_routePlay {m : MapId} {req : WorldRouteCommandRequest} (h : Settled s q σ l)
    (hp : Follows q p) (hen : req ≠ .enterWorld)
    (hperm : ∀ a c, (a.inWorld && a.accountId.isSome) = true →
      permitted a (.worldRoute m ⟨s, c, req⟩) = true) :
    (contract s p).Meets (routePlay s m req) (fun _ => Settled s p) σ l := by
  refine meets_guard (f := fun o => ((o.map fun e => e.inWorld && e.accountId.isSome).getD false))
    (g := fun a => a.inWorld && a.accountId.isSome) (Q := fun _ => Settled s p) h
    (fun o => rfl) (fun _ h' => h'.follow hp) fun σ' h' hg => ?_
  refine meets_routeWorldCommand h' (fun c => hperm _ c hg) fun σ'' c r he => ?_
  exact meets_done he fun σ''' => h'.neutral hp rfl rfl (by simp [isEnterWorld, hen])
    fun a => by simp [grant, hen]

lemma meets_routeEnterWorld {m : MapId} (h : Settled s q σ l) (hp : Follows q .inWorld) :
    (contract s .inWorld).Meets (routeEnterWorld s m) (fun _ => Settled s .inWorld) σ l := by
  refine meets_guard
    (f := fun o => ((o.map fun e => e.characterId.isSome && e.accountId.isSome).getD false))
    (g := fun a => a.characterId.isSome && a.accountId.isSome)
    (Q := fun _ => Settled s .inWorld) h (fun o => rfl) (fun _ h' => h'.follow hp)
    fun σ' h' hg => ?_
  refine meets_routeWorldCommand h' (fun c => hg) fun σ'' c r he => ?_
  have hdone : ∀ σ', Entry s (grant (granted (history s l)) (.worldRoute m ⟨s, c, .enterWorld⟩, r))
      σ' → Settled s .inWorld σ' (l ++ [(.worldRoute m ⟨s, c, .enterWorld⟩, r)]) := fun σ' hE =>
    settled_snoc rfl (by decide) hE
      ((h'.ledger.advance hp.rank_le hp.after_login).enterWorld m c s r)
  by_cases hr : r.isSuccess = true
  · simp only [hr, if_true]
    refine meets_update he (fun e heq => ?_) (fun hb => ?_) hdone
    · rw [← heq]
      simp [grant, hr, authority]
    · simp only [grant, hr, if_true]
      rw [Bool.and_eq_true] at hg
      exact ⟨fun _ => ⟨hg.2, hg.1⟩, hb.account, hb.character, fun _ => by simp [rank]⟩
  · simp only [hr]
    exact meets_done (by simpa [grant, hr] using he) hdone

lemma meets_heartbeat {m : MapId} (h : Settled s q σ l) (hp : Follows q p) :
    (contract s p).Meets (do let _ ← routeWorldCommand s m .heartbeat; pure ())
      (fun _ => Settled s p) σ l := by
  refine meets_routeWorldCommand h (fun c => rfl) fun σ' c r he => ?_
  exact meets_done he fun σ'' => h.neutral hp rfl rfl rfl fun _ => rfl

lemma settled_of_gone (hn : σ.lookup s = none) (hl : Ledger p (history s l)) :
    Settled s p σ l := by
  refine ⟨fun e he => ?_, fun _ => hn, hl⟩
  rw [hn] at he
  cases he

/-- How a logout and a disconnection end. -/
lemma meets_leave (hs : Entry s a σ) (hl : Ledger p (history s l)) :
    (contract s p).Meets (do routeAuthLogout s; removeSession s)
      (fun _ σ' l' => σ'.lookup s = none ∧ Settled s p σ' l') σ l := by
  refine meets_post hs rfl rfl fun σ' r he => ?_
  refine meets_removeSession fun σ'' hn => ⟨hn, settled_of_gone hn ?_⟩
  rw [history_own (s := s) rfl]
  exact hl.snoc rfl rfl rfl rfl

lemma meets_routeLogout {m : MapId} (h : Settled s q σ l) (hq : 1 ≤ rank q) :
    (contract s .closed).Meets (routeLogout s m) (fun _ => Settled s .closed) σ l := by
  refine meets_routeWorldCommand h (fun c => rfl) fun σ' c r he => ?_
  refine Meets.mono (meets_leave he ?_) fun _ _ _ hpost => hpost.2
  rw [history_own (s := s) rfl]
  have hle : rank q ≤ rank .closed := by cases q <;> simp [rank]
  exact (h.ledger.advance hle fun _ => hq).snoc rfl rfl rfl rfl

/-- **A command keeps to its contract**: validated in the phase before it, it leaves the session
settled in the phase after it. -/
theorem meets_routeClientCommand {cmd : ClientCommand} (hint : Option MapId)
    (hal : allowedIn q.asDomainState cmd = true) (h : Settled s q σ l) :
    (contract s (nextPhase q cmd)).Meets (routeClientCommand s hint cmd)
      (fun _ => Settled s (nextPhase q cmd)) σ l := by
  have hq : q ≠ .closed := ne_closed_of_allowed hal
  unfold routeClientCommand
  refine Meets.bind ?_
  have hres : (contract s (nextPhase q cmd)).Meets (resolveMapId s hint)
      (fun _ σ' l' => Settled s q σ' l' ∧ l' = l) σ l := by
    cases hint with
    | some m => exact meets_pure fun σ' hr => ⟨h.stable hr, rfl⟩
    | none =>
      refine meets_read fun σ' hr => meets_pure fun σ'' hr' => ?_
      exact ⟨(h.stable hr).stable hr', rfl⟩
  refine Meets.mono hres fun m σ' l' hpost => ?_
  obtain ⟨h', rfl⟩ := hpost
  clear h hres
  rename' h' => h
  have hstay : (∀ payload, cmd ≠ .login payload) → cmd ≠ .logout → Follows q (nextPhase q cmd) :=
    follows_nextPhase hq
  cases cmd with
  | login payload =>
    obtain rfl := eq_preAuth_of_login hal
    exact meets_routeAuthLogin payload h
  | logout =>
    have hout : nextPhase q .logout = .closed := by cases q <;> rfl
    rw [hout]
    exact meets_routeLogout h (one_le_rank_of_logout hal)
  | characterList =>
    have hp := hstay nofun nofun
    exact meets_whenAuthenticated h hp fun σ' h' => meets_routeAuthCharacterList h' hp
  | characterCreate payload =>
    have hp := hstay nofun nofun
    exact meets_whenAuthenticated h hp fun σ' h' => meets_routeAuthCharacterCreate payload h' hp
  | characterDelete c =>
    have hp := hstay nofun nofun
    have h3 : rank (nextPhase q (.characterDelete c)) < 3 := by
      rw [nextPhase_characterDelete hal]
      simp [rank]
    exact meets_whenAuthenticated h hp fun σ' h' => meets_routeAuthCharacterDelete c h' hp h3
  | characterSelect c =>
    have hp := hstay nofun nofun
    have h2 : rank (nextPhase q (.characterSelect c)) = 2 := by
      rw [nextPhase_characterSelect hal]
      rfl
    exact meets_whenAuthenticated h hp fun σ' h' => meets_routeAuthCharacterSelect c h' hp h2
  | enterWorld =>
    have hp := hstay nofun nofun
    rw [nextPhase_enterWorld hal] at hp ⊢
    exact meets_routeEnterWorld h hp
  | heartbeat => exact meets_heartbeat h (hstay nofun nofun)
  | move | attack | castSkill | pickupItem | dropItem | useItem | npcInteraction | chat
  | whisper | guildChat => exact meets_routePlay h (hstay nofun nofun) nofun fun _ _ hg => hg

/-- **A disconnection keeps to its contract**: it leaves no entry behind. -/
theorem meets_disconnectSession (reason : String) (h : Settled s q σ l) :
    (contract s q).Meets (handle (.disconnectSession s reason))
      (fun _ σ' l' => σ'.lookup s = none ∧ Settled s q σ' l') σ l :=
  meets_leave h.entry h.ledger

end

end HelbreathBackend.Routing
