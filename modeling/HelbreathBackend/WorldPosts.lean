import HelbreathBackend.Authorisation
import HelbreathBackend.GatewaySteps

/-!
The character that the router names to the world.

A request of the world is the first one of its command, and it carries the character that the
entry of the session named when the router took the command, or none. So a character that has
been deleted is not named any more, if no other session is left with it.
-/

namespace HelbreathBackend.WorldPosts

open HelbreathBackend.Lib HelbreathBackend.Lib.Contract HelbreathBackend.Domain
open HelbreathBackend.Application HelbreathBackend.Frame HelbreathBackend.Translate
open HelbreathBackend.Gateway HelbreathBackend.Gateway.Router HelbreathBackend.Grants
open HelbreathBackend.Routing HelbreathBackend.GatewaySystem HelbreathBackend.GatewayTrace
open HelbreathBackend.RouterRun HelbreathBackend.Authorisation HelbreathBackend.GatewaySteps

/-! ### The contract of a command -/

/-- For a command of session `s` that the router takes after the exchanges `start`, while the entry
of the session names the character `a`. -/
def caching (s : SessionId) (start : List Exchange) (a : Option CharacterId) :
    Contract Sessions BackendRequest HttpReply where
  rely σ σ' := σ'.lookup s = σ.lookup s ∨ σ'.lookup s = none
  guar _ _ := True
  may q _ l := ∀ m env, q = .worldRoute m env →
    l = start ∧ (env.characterId = none ∨ env.characterId = a)
  rely_refl := kept_refl s
  rely_trans := @kept_trans s
  guar_refl _ := trivial

/-- The entry of the session, if it is still there, names the character. -/
def Caches (s : SessionId) (a : Option CharacterId) (σ : Sessions) : Prop :=
  ∀ e, σ.lookup s = some e → e.characterId = a

section

variable {s : SessionId} {start l : List Exchange} {a : Option CharacterId} {σ σ' : Sessions}

lemma Caches.stable (h : Caches s a σ) (hr : (caching s start a).rely σ σ') : Caches s a σ' := by
  intro e he
  rcases hr with hr | hr
  · exact h e (hr ▸ he)
  · rw [hr] at he
    cases he

abbrev any : Unit → Sessions → List Exchange → Prop := fun _ _ _ => True

lemma caching_done : (caching s start a).Meets (pure ()) any σ l := fun _ _ => trivial

lemma caching_modify (f : Sessions → Sessions) :
    (caching s start a).Meets (Task.modify f) any σ l :=
  meets_modify fun _ _ => ⟨trivial, fun _ _ => trivial⟩

lemma caching_ask {q : BackendRequest} {k : HttpReply → Router Unit}
    (hq : ∀ m env, q ≠ .worldRoute m env)
    (hk : ∀ σ' r, (caching s start a).Meets (k r) any σ' (l ++ [(q, r)])) :
    (caching s start a).Meets (Router.post q >>= k) any σ l :=
  meets_request fun σ' _ => ⟨fun m env he => absurd he (hq m env), fun r => hk σ' r⟩

lemma caching_world {m : MapId} {req : WorldRouteCommandRequest} {k : Bool → Router Unit}
    (h : Caches s a σ) (hk : ∀ σ' l' b, (caching s l a).Meets (k b) any σ' l') :
    (caching s l a).Meets (routeWorldCommand s m req >>= k) any σ l := by
  change (caching s l a).Meets (Task.read (fun f : Sessions => f.lookup s) >>= fun sess =>
    Router.post (.worldRoute m ⟨s, sess.bind (·.characterId), req⟩) >>= fun r => k r.isSuccess)
    any σ l
  refine meets_read fun σ₁ hr₁ => ?_
  refine meets_request fun σ₂ _ => ⟨?_, fun r => hk σ₂ _ _⟩
  rintro _ _ ⟨⟩
  refine ⟨rfl, ?_⟩
  rcases he : σ₁.lookup s with _ | e
  · exact .inl rfl
  · exact .inr (h.stable hr₁ e he)

lemma caching_guard {f : Option SessionRuntime → Bool} {task : Router Unit} (h : Caches s a σ)
    (htask : ∀ σ', Caches s a σ' → (caching s start a).Meets task any σ' l) :
    (caching s start a).Meets (Task.read (fun m : Sessions => m.lookup s) >>= fun sess =>
      if f sess = true then task else pure ()) any σ l := by
  refine meets_read fun σ' hr => ?_
  split
  · exact htask σ' (h.stable hr)
  · exact caching_done

lemma caching_authenticated {route : Router Unit} (h : Caches s a σ)
    (hroute : ∀ σ', (caching s start a).Meets route any σ' l) :
    (caching s start a).Meets (whenAuthenticated s route) any σ l :=
  caching_guard (f := fun o => (o.bind (·.accountId)).isSome) h fun σ' _ => hroute σ'

lemma caching_leave : (caching s start a).Meets (do routeAuthLogout s; removeSession s) any σ l :=
  caching_ask nofun fun _ _ => caching_modify _

lemma caching_play {m : MapId} {req : WorldRouteCommandRequest} (h : Caches s a σ) :
    (caching s l a).Meets (routePlay s m req) any σ l :=
  caching_guard
    (f := fun o => ((o.map fun e => e.inWorld && e.accountId.isSome).getD false)) h
    fun _ h' => caching_world h' fun _ _ _ => caching_done

/-- **A command names the character of the entry**, or none, in its first request if at all. -/
theorem caching_handle {c : InternalCommand} (hby : SentBy s c) (h : Caches s a σ) :
    (caching s l a).Meets (Router.handle c) any σ l := by
  cases hby with
  | disconnection reason => exact caching_leave
  | command cmd =>
    change (caching s l a).Meets (routeClientCommand s none cmd) any σ l
    unfold routeClientCommand
    refine Meets.bind (meets_read fun σ' hr => meets_pure fun σ'' hr' => ?_)
    have h'' : Caches s a σ'' := (h.stable hr).stable hr'
    cases cmd with
    | login payload =>
      refine meets_read fun σ₁ _ => caching_ask nofun fun _ r => ?_
      rcases r.login with _ | body
      · exact caching_done
      · dsimp only
        split
        · exact caching_modify _
        · exact caching_done
    | logout => exact caching_world h'' fun _ _ _ => caching_leave
    | characterList =>
      exact caching_authenticated h'' fun _ => caching_ask nofun fun _ _ => caching_done
    | characterCreate payload =>
      exact caching_authenticated h'' fun _ => caching_ask nofun fun _ _ => caching_done
    | characterDelete c =>
      refine caching_authenticated h'' fun _ => caching_ask nofun fun _ r => ?_
      rcases r.characterDelete with _ | body
      · exact caching_done
      · dsimp only
        split
        · exact caching_modify _
        · exact caching_done
    | characterSelect c =>
      refine caching_authenticated h'' fun _ => caching_ask nofun fun _ r => ?_
      rcases r.characterSelect with _ | body
      · exact caching_done
      · dsimp only
        split
        · exact caching_modify _
        · exact caching_done
    | enterWorld =>
      refine caching_guard
        (f := fun o => ((o.map fun e => e.characterId.isSome && e.accountId.isSome).getD false))
        h'' fun _ h' => caching_world h' fun _ _ b => ?_
      split
      · exact caching_modify _
      · exact caching_done
    | heartbeat => exact caching_world h'' fun _ _ _ => caching_done
    | move | attack | castSkill | pickupItem | dropItem | useItem | npcInteraction | chat
    | whisper | guildChat => exact caching_play h''

end

/-! ### Deletions -/

/-- The reply that the character has been deleted has been recorded. -/
def Deleted (c : CharacterId) (l : List Exchange) : Prop :=
  ∃ s r, (BackendRequest.authCharacterDelete ⟨s, c⟩, r) ∈ l ∧ r.characterDelete = some ⟨true⟩

/-- No request of the world names a character that has been deleted before. -/
def Stopped (g : Gateway) : Prop :=
  ∀ pre q, PostedAfter g pre q → ∀ c, Deleted c pre → ∀ m env, q = .worldRoute m env →
    env.characterId ≠ some c

lemma Deleted.mono {c : CharacterId} {l l' : List Exchange} (h : Deleted c l) (hl : l ⊆ l') :
    Deleted c l' := by
  obtain ⟨s, r, hin, hr⟩ := h
  exact ⟨s, r, hl hin, hr⟩

lemma deleted_snoc {c : CharacterId} {l : List Exchange} {q : BackendRequest} {r : HttpReply}
    (h : Deleted c (l ++ [(q, r)])) :
    Deleted c l ∨ ∃ s, q = .authCharacterDelete ⟨s, c⟩ ∧ r.characterDelete = some ⟨true⟩ := by
  obtain ⟨s, r', hin, hr⟩ := h
  rcases List.mem_append.mp hin with hin | hin
  · exact .inl ⟨s, r', hin, hr⟩
  · cases List.mem_singleton.mp hin
    exact .inr ⟨s, rfl, hr⟩

/-- A character comes from a selection, or it has been there before and has not been deleted. -/
lemma grant_characterId {a : Authority} {q : BackendRequest} {r : HttpReply} {c : CharacterId}
    (h : (grant a (q, r)).characterId = some c) :
    (∃ req body, q = .authCharacterSelect req ∧ r.characterSelect = some body ∧
      body.characterId = some c) ∨
    (a.characterId = some c ∧
      ∀ s, q = .authCharacterDelete ⟨s, c⟩ → r.characterDelete ≠ some ⟨true⟩) := by
  cases q with
  | authLogin req =>
    refine .inr ⟨?_, fun _ he => by cases he⟩
    rcases hr : r.login with _ | body
    · simpa [grant, hr] using h
    · by_cases hacc : body.accepted = true
      · simp [grant, hr, hacc] at h
      · simpa [grant, hr, hacc] using h
  | authCharacterDelete req =>
    refine .inr ⟨?_, ?_⟩
    · rcases grant_delete_cases a req r with hg | hg
      · rwa [hg] at h
      · rw [hg] at h
        cases h
    · rintro s ⟨⟩ hr
      by_cases hc : a.characterId = some c <;> simp [grant, hr, hc] at h
  | authCharacterSelect req =>
    rcases hr : r.characterSelect with _ | body
    · exact .inr ⟨by simpa [grant, hr] using h, fun _ he => by cases he⟩
    · by_cases hok : body.ok = true
      · exact .inl ⟨req, body, rfl, rfl, by simpa [grant, hr, hok] using h⟩
      · exact .inr ⟨by simpa [grant, hr, hok] using h, fun _ he => by cases he⟩
  | worldRoute m env =>
    refine .inr ⟨?_, fun _ he => by cases he⟩
    unfold grant at h
    dsimp only at h
    split at h
    · split at h <;> exact h
    · exact h
  | authLogout | authCharacterList | authCharacterCreate =>
    exact .inr ⟨h, fun _ he => by cases he⟩

/-- No selection is answered with a deleted character, and when a deletion is answered no other
session is left with the character. -/
structure Heeds (g : Gateway) (q : BackendRequest) (r : HttpReply) : Prop where
  select : ∀ req body c, q = .authCharacterSelect req → r.characterSelect = some body →
    Deleted c g.exchanges → body.characterId ≠ some c
  delete : ∀ s c, q = .authCharacterDelete ⟨s, c⟩ → r.characterDelete = some ⟨true⟩ →
    ∀ x e, x ≠ s → g.sessions.lookup x = some e → e.characterId ≠ some c

structure Barred (g : Gateway) : Prop where
  free : ∀ c s, Deleted c g.exchanges → (granted (history s g.exchanges)).characterId = some c →
    g.sessions.lookup s = none
  running : ∀ s cmd t, g.current = some (cmd, t) → SentBy s cmd → ∃ start a,
    (caching s start a).Meets t any g.sessions g.exchanges ∧ start <+: g.exchanges ∧
      ∀ c, Deleted c start → a ≠ some c
  stopped : Stopped g

/-- What is posted after a step was posted before it, or the router has just come to it. -/
lemma postedAfter_cases {parseStr : String → Option Uuid} {packetMaxPayload : ℕ} {g g' : Gateway}
    {a : Action} (h : Step parseStr packetMaxPayload g a g') {pre : List Exchange}
    {q : BackendRequest} (hq : PostedAfter g' pre q) :
    PostedAfter g pre q ∨ (pre = g'.exchanges ∧ ∃ c k, g'.current = some (c, .call q k)) := by
  rcases hq with ⟨r, post, he⟩ | ⟨he, hc⟩
  · refine .inl ?_
    cases h with
    | @reply cmd q₀ k hc r' =>
      rcases snoc_eq_append_cons he with ⟨-, rfl, hx⟩ | ⟨post', -, he⟩
      · obtain ⟨rfl, -⟩ := Prod.mk.inj hx
        exact .inr ⟨rfl, cmd, k, hc⟩
      · exact .inl ⟨r, post', he⟩
    | accept | task | queue | remove | recv | sync | finish => exact .inl ⟨r, post, he⟩
  · exact .inr ⟨he.symm, hc⟩

section

variable {parseStr : String → Option Uuid} {packetMaxPayload : ℕ} {g g' : Gateway}
  (ht : Traced g) (hr : Routed g) (hb : Barred g)

include ht hr hb in
lemma Barred.connections (hcur : g'.current = g.current) (hex : g'.exchanges = g.exchanges)
    (hrely : ∀ s conn, g.connections.lookup s = some conn →
      g'.sessions.lookup s = g.sessions.lookup s ∨ g'.sessions.lookup s = none)
    (hst : Stopped g') : Barred g' where
  free c s hdel hc := by
    rw [hex] at hdel hc
    rcases hl : g.connections.lookup s with _ | conn
    · rw [hr.strangers s hl] at hc
      cases hc
    · have hnone := hb.free c s hdel hc
      rcases hrely s conn hl with hs | hs
      · rw [hs, hnone]
      · exact hs
  running s cmd t hc hby := by
    rw [hcur] at hc
    obtain ⟨s', conn, hby', hl⟩ := hr.connected ht hc
    obtain rfl := hby.unique hby'
    obtain ⟨start, a, hmeets, hstart⟩ := hb.running s cmd t hc hby
    rw [hex]
    exact ⟨start, a, hmeets.stable (hrely s conn hl), hstart⟩
  stopped := hst

include ht hr in
lemma stopped_of_running (hrun : ∀ s cmd t, g.current = some (cmd, t) → SentBy s cmd →
    ∃ start a, (caching s start a).Meets t any g.sessions g.exchanges ∧ start <+: g.exchanges ∧
      ∀ c, Deleted c start → a ≠ some c)
    {c : InternalCommand} {q : BackendRequest} {k : HttpReply → Router Unit}
    (hc : g.current = some (c, .call q k)) {x : CharacterId} (hx : Deleted x g.exchanges)
    {m : MapId} {env : WorldRouteEnvelope} (hq : q = .worldRoute m env) :
    env.characterId ≠ some x := by
  obtain ⟨s, conn, hby, -⟩ := hr.connected ht hc
  obtain ⟨start, a, hmeets, -, ha⟩ := hrun s c _ hc hby
  obtain ⟨he, hnone | hcid⟩ := (hmeets g.sessions (.inl rfl)).1 m env hq
  · rw [hnone]
    nofun
  · rw [hcid]
    exact ha x (he ▸ hx)

include hr hb in
/-- A command that starts caches the character that its session has by then. -/
lemma running_recv (hnone : g.current = none) {cmd : InternalCommand} {s : SessionId}
    (hby : SentBy s cmd) : ∃ start a,
      (caching s start a).Meets (Router.handle cmd) any g.sessions g.exchanges ∧
        start <+: g.exchanges ∧ ∀ c, Deleted c start → a ≠ some c := by
  refine ⟨g.exchanges, (g.sessions.lookup s).bind (·.characterId), caching_handle hby ?_,
    List.prefix_refl _, ?_⟩
  · intro e he
    rw [he]
    rfl
  · intro c hdel hcid
    obtain ⟨e, he, hec⟩ := Option.bind_eq_some_iff.mp hcid
    have hbetween : Between g s := fun c' t' hcur => by
      rw [hnone] at hcur
      cases hcur
    have hauth := (hr.settled s hbetween).entry e he
    have hfree := hb.free c s hdel (by rw [← hauth]; exact hec)
    rw [he] at hfree
    cases hfree

include ht hr hb in
lemma free_sync {cmd : InternalCommand} {f : Sessions → Sessions} {k : Sessions → Router Unit}
    (hc : g.current = some (cmd, .sync f k)) {c : CharacterId} {x : SessionId}
    (hdel : Deleted c g.exchanges)
    (hx : (granted (history x g.exchanges)).characterId = some c) :
    (f g.sessions).lookup x = none := by
  obtain ⟨s, conn, hby, -⟩ := hr.connected ht hc
  obtain ⟨⟨hsame, hown⟩, -⟩ := hr.running s cmd _ hc hby g.sessions (.inl rfl)
  have hnone := hb.free c x hdel hx
  by_cases he : x = s
  · rw [Option.eq_none_iff_forall_ne_some]
    intro e' he'
    obtain ⟨e, hxe, -⟩ := hown e' (he ▸ he')
    rw [← he, hnone] at hxe
    cases hxe
  · exact (hsame x he).trans hnone

include ht hr hb in
/-- Neither a deletion nor a selection that is answered leaves a session with the character. -/
lemma free_reply {cmd : InternalCommand} {q : BackendRequest} {k : HttpReply → Router Unit}
    (hc : g.current = some (cmd, .call q k)) {r : HttpReply} (hheeds : Heeds g q r)
    {c : CharacterId} {x : SessionId} (hdel : Deleted c (g.exchanges ++ [(q, r)]))
    (hx : (granted (history x (g.exchanges ++ [(q, r)]))).characterId = some c) :
    g.sessions.lookup x = none := by
  obtain ⟨s, conn, hby, -⟩ := hr.connected ht hc
  obtain ⟨⟨hown, -⟩, -⟩ := hr.running s cmd _ hc hby g.sessions (.inl rfl)
  by_cases he : sessionOf q = x
  · rw [history_own (x := (q, r)) he, granted_snoc] at hx
    rcases grant_characterId hx with ⟨req, body, rfl, hbody, hcid⟩ | ⟨hx, hno⟩
    · rcases deleted_snoc hdel with hdel | ⟨s', ⟨⟩, -⟩
      exact absurd hcid (hheeds.select req body c rfl hbody hdel)
    · rcases deleted_snoc hdel with hdel | ⟨s', hq, hr⟩
      · exact hb.free c x hdel hx
      · exact absurd hr (hno s' hq)
  · rw [history_other (x := (q, r)) he] at hx
    rcases deleted_snoc hdel with hdel | ⟨s', rfl, hrep⟩
    · exact hb.free c x hdel hx
    · rw [Option.eq_none_iff_forall_ne_some]
      intro e hxe
      have hbetween : Between g x := by
        intro cmd' t hcur hbyx
        rw [hc] at hcur
        cases hcur
        exact he (hown.trans (hby.unique hbyx))
      have hauth := (hr.settled x hbetween).entry e hxe
      refine hheeds.delete s' c rfl hrep x e (fun hxs => he hxs.symm) hxe ?_
      rw [← hauth] at hx
      exact hx

include ht hr hb in
lemma barred_step {a : Action} (h : Step parseStr packetMaxPayload g a g') (ht' : Traced g')
    (hr' : Routed g')
    (hheeds : ∀ c q k r, a = .reply r → g.current = some (c, .call q k) → Heeds g q r) :
    Barred g' := by
  have hstopped : (∀ s cmd t, g'.current = some (cmd, t) → SentBy s cmd → ∃ start a,
      (caching s start a).Meets t any g'.sessions g'.exchanges ∧ start <+: g'.exchanges ∧
        ∀ c, Deleted c start → a ≠ some c) → Stopped g' := by
    intro hrun pre q hq c hdel m env henv
    rcases postedAfter_cases h hq with hq | ⟨rfl, cmd, k, hc⟩
    · exact hb.stopped pre q hq c hdel m env henv
    · exact stopped_of_running ht' hr' hrun hc hdel henv
  cases h with
  | @accept x remoteIp hl =>
    refine hb.connections ht hr rfl rfl (fun s conn hs => .inl ?_) (fun pre q => hb.stopped pre q)
    refine Finmap.lookup_insert_of_ne _ ?_
    rintro rfl
    rw [hl] at hs
    cases hs
  | task | queue =>
    exact hb.connections ht hr rfl rfl (fun _ _ _ => .inl rfl) fun pre q => hb.stopped pre q
  | @remove x conn hl hst =>
    refine hb.connections ht hr rfl rfl (fun s _ _ => ?_) fun pre q => hb.stopped pre q
    have hlook : (g.sessions.erase x).lookup s = if s = x then none else g.sessions.lookup s :=
      FMap.lookup_erase_eq g.sessions x s
    by_cases hs : s = x
    · exact .inr (hlook.trans (if_pos hs))
    · exact .inl (hlook.trans (if_neg hs))
  | @recv cmd rest hc hq =>
    have hrun : ∀ s cmd' t, some (cmd, Router.handle cmd) = some (cmd', t) → SentBy s cmd' →
        ∃ start a, (caching s start a).Meets t any g.sessions g.exchanges ∧
          start <+: g.exchanges ∧ ∀ c, Deleted c start → a ≠ some c := by
      rintro s cmd' t ⟨⟩ hby
      exact running_recv hr hb hc hby
    exact ⟨hb.free, hrun, hstopped hrun⟩
  | @sync cmd f k hc =>
    have hrun : ∀ s cmd' t, some (cmd, k g.sessions) = some (cmd', t) → SentBy s cmd' →
        ∃ start a, (caching s start a).Meets t any (f g.sessions) g.exchanges ∧
          start <+: g.exchanges ∧ ∀ c, Deleted c start → a ≠ some c := by
      rintro s cmd' t ⟨⟩ hby
      obtain ⟨start, a, hmeets, hstart⟩ := hb.running s cmd _ hc hby
      exact ⟨start, a, (hmeets g.sessions (.inl rfl)).2, hstart⟩
    exact ⟨fun c x hdel hx => free_sync ht hr hb hc hdel hx, hrun, hstopped hrun⟩
  | @reply cmd q k hc r =>
    have hheed := hheeds cmd q k r rfl hc
    have hrun : ∀ s cmd' t, some (cmd, k r) = some (cmd', t) → SentBy s cmd' →
        ∃ start a, (caching s start a).Meets t any g.sessions (g.exchanges ++ [(q, r)]) ∧
          start <+: g.exchanges ++ [(q, r)] ∧ ∀ c, Deleted c start → a ≠ some c := by
      rintro s cmd' t ⟨⟩ hby
      obtain ⟨start, a, hmeets, hpre, ha⟩ := hb.running s cmd _ hc hby
      exact ⟨start, a, (hmeets g.sessions (.inl rfl)).2 r, hpre.trans (List.prefix_append _ _), ha⟩
    exact ⟨fun c x hdel hx => free_reply ht hr hb hc hheed hdel hx, hrun, hstopped hrun⟩
  | finish hc =>
    refine ⟨hb.free, fun s cmd' t hcur => ?_, hstopped fun s cmd' t hcur => ?_⟩
    · cases hcur
    · cases hcur

end

lemma barred_start : Barred .start where
  free _ _ h := by
    obtain ⟨s, r, hin, -⟩ := h
    exact absurd hin List.not_mem_nil
  running s cmd t hc := by cases hc
  stopped := by
    rintro pre q (⟨r, post, he⟩ | ⟨-, c, k, hc⟩)
    · simp [Gateway.start] at he
    · cases hc

end HelbreathBackend.WorldPosts
