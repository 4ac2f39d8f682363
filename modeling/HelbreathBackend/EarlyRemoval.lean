import HelbreathBackend.Authorisation
import HelbreathBackend.GatewaySteps
import HelbreathBackend.AuthHandlers

/-!
The entry of a session that is removed early.

The task of a connection removes the entry when the socket is closed, with commands of the
session still queued. The router reads the entry again for the address of a login and for the
character of a world request, and falls back silently where it finds none: its requests name
the session rightly as long as the entry is there at those reads.
-/

namespace HelbreathBackend.EarlyRemoval

open HelbreathBackend.Lib HelbreathBackend.Lib.Contract HelbreathBackend.Domain
open HelbreathBackend.Application HelbreathBackend.Frame HelbreathBackend.Translate
open HelbreathBackend.Gateway HelbreathBackend.Gateway.Router HelbreathBackend.Grants
open HelbreathBackend.Routing HelbreathBackend.GatewaySystem HelbreathBackend.GatewayTrace
open HelbreathBackend.RouterRun HelbreathBackend.Authorisation HelbreathBackend.GatewaySteps

/-! ### What a request should carry -/

/-- What the last successful selection has stored. -/
def lastSelection (h : List Exchange) : Option (Option CharacterId × Option MapId) :=
  h.foldl (fun last x =>
    match x.1, x.2.characterSelect with
    | .authCharacterSelect _, some body =>
      if body.ok then some (body.characterId, body.mapId) else last
    | _, _ => last) none

/-- The requests that are about the character of the session. -/
def needsCharacter (q : BackendRequest) : Bool := isEnterWorld q || isPlay q

/-- The address a session was accepted from. -/
def addressOf (g : Gateway) (s : SessionId) : Option String :=
  (g.connections.lookup s).map (·.remoteIp)

/-- A login carries the address of its connection, and a request of the world the character and
the map of the last successful selection. -/
def Carries (g : Gateway) (pre : List Exchange) : BackendRequest → Prop
  | .authLogin req => addressOf g req.sessionId = some req.remoteIp
  | .worldRoute m env => needsCharacter (.worldRoute m env) = true →
    ∃ c m', lastSelection (history env.sessionId pre) = some (some c, some m') ∧
      env.characterId = some c ∧ m = m'
  | _ => True

def Named (g : Gateway) : Prop := ∀ pre q, PostedAfter g pre q → Carries g pre q

/-! ### When the entry is there -/

/-- The request a task is waiting with. -/
def calling : Router Unit → Option BackendRequest
  | .call q _ => some q
  | _ => none

/-- The request that the router sends by a step. -/
def sends (g : Gateway) : Action → Option BackendRequest
  | .recv => g.internalQueue.head?.bind fun cmd => calling (Router.handle cmd)
  | .sync =>
    match g.current with
    | some (_, .sync _ k) => calling (k g.sessions)
    | _ => none
  | .reply r =>
    match g.current with
    | some (_, .call _ k) => calling (k r)
    | _ => none
  | _ => none

/-- If the router sends a login or a request of the world by this step, the entry of the session
has not been removed before. -/
def present (g : Gateway) (a : Action) : Bool :=
  (sends g a).all fun q =>
    !(isLogin q || needsCharacter q) || (g.sessions.lookup (sessionOf q)).isSome

/-- A successful selection is answered with its character and map. -/
def wholeReply (g : Gateway) (a : Action) : Bool :=
  match a, g.current with
  | .reply r, some (_, .call (.authCharacterSelect _) _) =>
    r.characterSelect.all fun body =>
      !body.ok || (body.characterId.isSome && body.mapId.isSome)
  | _, _ => true

lemma wholeReply_iff (g : Gateway) (r : HttpReply) :
    wholeReply g (.reply r) = true ↔
      ∀ c req k, g.current = some (c, .call (.authCharacterSelect req) k) →
        ∀ body, r.characterSelect = some body → AuthHandlers.Whole body := by
  have hbody : ∀ body : AuthCharacterSelectResponse,
      (!body.ok || (body.characterId.isSome && body.mapId.isSome)) = true ↔
        AuthHandlers.Whole body := by
    intro body
    unfold AuthHandlers.Whole
    cases body.ok <;> simp
  rcases hc : g.current with _ | ⟨c, _ | ⟨f, k⟩ | ⟨_ | _ | _ | _ | _ | req | _, k⟩⟩
  case some.call.authCharacterSelect =>
    have hwhole : wholeReply g (.reply r) = r.characterSelect.all fun body =>
        !body.ok || (body.characterId.isSome && body.mapId.isSome) := by
      unfold wholeReply
      rw [hc]
    rw [hwhole]
    constructor
    · rintro h c' req' k' - body hr
      rw [hr, Option.all_some] at h
      exact (hbody body).mp h
    · intro h
      rcases hr : r.characterSelect with _ | body
      · rfl
      · rw [Option.all_some]
        exact (hbody body).mpr (h c req k rfl body hr)
  all_goals
    refine iff_of_true ?_ fun c req k h => ?_
    · unfold wholeReply
      rw [hc]
    · cases h

/-! ### The selection and the grants -/

lemma lastSelection_snoc (h : List Exchange) (x : Exchange) :
    lastSelection (h ++ [x]) =
      match x.1, x.2.characterSelect with
      | .authCharacterSelect _, some body =>
        if body.ok then some (body.characterId, body.mapId) else lastSelection h
      | _, _ => lastSelection h := by
  unfold lastSelection
  rw [List.foldl_append]
  rfl

/-- A character that has been granted is that of the last selection, and so is the map. -/
lemma lastSelection_of_granted {h : List Exchange} {c : CharacterId}
    (hc : (granted h).characterId = some c) :
    lastSelection h = some (some c, (granted h).mapId) := by
  induction h using List.reverseRecOn with
  | nil => cases hc
  | append_singleton h x ih =>
    obtain ⟨q, r⟩ := x
    rw [granted_snoc] at hc ⊢
    rw [lastSelection_snoc]
    cases q with
    | authLogin req =>
      rcases hr : r.login with _ | body
      · simp only [grant, hr] at hc ⊢
        exact ih hc
      · by_cases hacc : body.accepted = true
        · simp [grant, hr, hacc] at hc
        · simp only [grant, hr, hacc] at hc ⊢
          exact ih hc
    | authCharacterDelete req =>
      rcases grant_delete_cases (granted h) req r with hg | hg
      · rw [hg] at hc ⊢
        exact ih hc
      · rw [hg] at hc
        cases hc
    | authCharacterSelect req =>
      rcases hr : r.characterSelect with _ | body
      · simp only [grant, hr] at hc ⊢
        exact ih hc
      · by_cases hok : body.ok = true
        · simp only [grant, hr, hok, if_true] at hc ⊢
          rw [hc]
        · simp only [grant, hr, hok] at hc ⊢
          exact ih hc
    | worldRoute m env =>
      by_cases hcmd : env.command = .enterWorld
      · rcases hr : r.isSuccess
        · simp only [grant, hcmd, hr] at hc ⊢
          exact ih hc
        · simp only [grant, hcmd, hr, if_true] at hc ⊢
          exact ih hc
      · simp only [grant, hcmd] at hc ⊢
        exact ih hc
    | authLogout req | authCharacterList sid | authCharacterCreate req => exact ih hc

/-- Selections that succeed name a map with the character. -/
def WholeSelections (h : List Exchange) : Prop :=
  ∀ x ∈ h, ∀ req body, x.1 = .authCharacterSelect req → x.2.characterSelect = some body →
    AuthHandlers.Whole body

lemma lastSelection_whole {h : List Exchange} (hw : WholeSelections h) {c : Option CharacterId}
    {m : Option MapId} (hl : lastSelection h = some (c, m)) : m.isSome := by
  induction h using List.reverseRecOn with
  | nil => cases hl
  | append_singleton h x ih =>
    have hih := ih fun y hy => hw y (List.mem_append_left _ hy)
    rw [lastSelection_snoc] at hl
    split at hl
    · next req body hq hr =>
      split at hl
      · next hok =>
        obtain ⟨rfl, rfl⟩ := Prod.mk.inj (Option.some.inj hl)
        exact (hw x (by simp) req body hq hr hok).2
      · exact hih hl
    · exact hih hl

/-! ### The contract of naming -/

/-- The commands whose handling ends with the removal of the entry. -/
def leaves : InternalCommand → Bool
  | .routeClientCommand _ _ .logout | .disconnectSession .. => true
  | _ => false

/-- What the request carries, if the entry is there when it is sent. -/
def Sound (s : SessionId) (ip : String) (leaving : Bool) (q : BackendRequest) (σ : Sessions)
    (l : List Exchange) : Prop :=
  match q with
  | .authLogin req => leaving = false ∧ ((σ.lookup s).isSome → req.remoteIp = ip)
  | .worldRoute m env => needsCharacter (.worldRoute m env) = true →
    leaving = false ∧ ((σ.lookup s).isSome →
      (granted (history s l)).characterId.isSome ∧
        env.characterId = (granted (history s l)).characterId ∧
        m = (granted (history s l)).mapId.getD 1)
  | _ => True

/-- For a command of session `s`, connected from `ip`. -/
def naming (s : SessionId) (ip : String) (leaving : Bool) :
    Contract Sessions BackendRequest HttpReply where
  rely σ σ' := σ'.lookup s = σ.lookup s ∨ σ'.lookup s = none
  guar σ σ' := (∀ e', σ'.lookup s = some e' → ∃ e, σ.lookup s = some e ∧ e'.remoteIp = e.remoteIp) ∧
    (leaving = false → (σ.lookup s).isSome → (σ'.lookup s).isSome)
  may q σ l := sessionOf q = s ∧ Sound s ip leaving q σ l
  rely_refl := kept_refl s
  rely_trans := @kept_trans s
  guar_refl _ := ⟨fun e' h => ⟨e', h, rfl⟩, fun _ h => h⟩

/-- The entry of the session, if it is still there, says this. -/
def Says (s : SessionId) (ip : String) (a : Authority) (σ : Sessions) : Prop :=
  ∀ e, σ.lookup s = some e → authority e = a ∧ e.remoteIp = ip

section

variable {s : SessionId} {ip : String} {leaving : Bool} {a : Authority} {σ σ' : Sessions}
  {l : List Exchange}

lemma Says.stable (h : Says s ip a σ) (hr : (naming s ip leaving).rely σ σ') :
    Says s ip a σ' := by
  intro e he
  rcases hr with hr | hr
  · exact h e (hr ▸ he)
  · rw [hr] at he
    cases he

lemma rely_isSome (hr : (naming s ip leaving).rely σ σ') (h : (σ'.lookup s).isSome) :
    ∃ e, σ.lookup s = some e := by
  rcases hr with hr | hr
  · rw [hr] at h
    exact Option.isSome_iff_exists.mp h
  · rw [hr] at h
    cases h

abbrev any : Unit → Sessions → List Exchange → Prop := fun _ _ _ => True

lemma naming_done : (naming s ip leaving).Meets (pure ()) any σ l := fun _ _ => trivial

lemma naming_update {f : SessionRuntime → SessionRuntime} (hf : ∀ e, (f e).remoteIp = e.remoteIp) :
    (naming s ip leaving).Meets (updateSession s f) any σ l := by
  refine meets_modify fun σ' _ => ⟨⟨fun e' he' => ?_, fun _ hs => ?_⟩, fun _ _ => trivial⟩
  · rw [FMap.lookup_modify, if_pos rfl] at he'
    obtain ⟨e, he, rfl⟩ := Option.map_eq_some_iff.mp he'
    exact ⟨e, he, hf e⟩
  · rw [FMap.lookup_modify, if_pos rfl, Option.isSome_map]
    exact hs

lemma naming_remove : (naming s ip true).Meets (removeSession s) any σ l := by
  refine meets_modify fun σ' _ => ⟨⟨fun e' he' => ?_, nofun⟩, fun _ _ => trivial⟩
  have hnone : (σ'.erase s).lookup s = none := Finmap.lookup_erase s σ'
  rw [hnone] at he'
  cases he'

variable {β : Type} {post : β → Sessions → List Exchange → Prop}

lemma naming_ask {k : HttpReply → Router β} {q : BackendRequest} (hown : sessionOf q = s)
    (hin : isLogin q = false) (hc : needsCharacter q = false)
    (hk : ∀ σ' r, (naming s ip leaving).Meets (k r) post σ' (l ++ [(q, r)])) :
    (naming s ip leaving).Meets (Router.post q >>= k) post σ l := by
  refine meets_request fun σ' _ => ⟨⟨hown, ?_⟩, fun r => hk σ' r⟩
  cases q with
  | authLogin req => cases hin
  | worldRoute m env =>
    intro hn
    rw [hc] at hn
    cases hn
  | authLogout | authCharacterList | authCharacterCreate | authCharacterDelete
  | authCharacterSelect => trivial

lemma naming_login (payload : LoginPayload) (h : Says s ip a σ) :
    (naming s ip false).Meets (routeAuthLogin s payload) any σ l := by
  refine meets_read fun σ₁ hr₁ => ?_
  refine meets_request fun σ₂ hr₂ => ⟨⟨rfl, rfl, fun hs => ?_⟩, fun r => ?_⟩
  · obtain ⟨e, he⟩ := rely_isSome hr₂ hs
    rw [he]
    exact (h.stable hr₁ e he).2
  · rcases r.login with _ | body
    · exact naming_done
    · dsimp only
      split
      · exact naming_update fun _ => rfl
      · exact naming_done

/-- The map that was resolved, if the entry is still there. -/
def Resolved (s : SessionId) (m : MapId) (a : Authority) (σ : Sessions) : Prop :=
  (σ.lookup s).isSome → m = a.mapId.getD 1

lemma Resolved.stable {m : MapId} (h : Resolved s m a σ)
    (hr : (naming s ip leaving).rely σ σ') : Resolved s m a σ' := by
  intro hs
  obtain ⟨e, he⟩ := rely_isSome hr hs
  exact h (by rw [he]; rfl)

/-- A request of the world on behalf of a character that has been granted. -/
lemma naming_world {m : MapId} {req : WorldRouteCommandRequest} {k : Bool → Router β}
    (h : Says s ip (granted (history s l)) σ) (hm : Resolved s m (granted (history s l)) σ)
    (hc : (granted (history s l)).characterId.isSome)
    (hk : ∀ σ' c r, (naming s ip false).Meets (k r.isSuccess) post σ'
      (l ++ [(.worldRoute m ⟨s, c, req⟩, r)])) :
    (naming s ip false).Meets (routeWorldCommand s m req >>= k) post σ l := by
  change (naming s ip false).Meets (Task.read (fun f : Sessions => f.lookup s) >>= fun sess =>
    Router.post (.worldRoute m ⟨s, sess.bind (·.characterId), req⟩) >>= fun r => k r.isSuccess)
    post σ l
  refine meets_read fun σ₁ hr₁ => ?_
  refine meets_request fun σ₂ hr₂ => ⟨⟨rfl, fun _ => ⟨rfl, fun hs => ?_⟩⟩, fun r => hk σ₂ _ r⟩
  obtain ⟨e, he⟩ := rely_isSome hr₂ hs
  refine ⟨hc, ?_, hm.stable hr₁ (by rw [he]; rfl)⟩
  have hauth := (h.stable hr₁ e he).1
  rw [he, ← hauth]
  rfl

lemma naming_pass {m : MapId} {req : WorldRouteCommandRequest} {k : Bool → Router β}
    (hreq : ∀ c, needsCharacter (.worldRoute m ⟨s, c, req⟩) = false)
    (hk : ∀ σ' c r, (naming s ip leaving).Meets (k r.isSuccess) post σ'
      (l ++ [(.worldRoute m ⟨s, c, req⟩, r)])) :
    (naming s ip leaving).Meets (routeWorldCommand s m req >>= k) post σ l := by
  change (naming s ip leaving).Meets (Task.read (fun f : Sessions => f.lookup s) >>= fun sess =>
    Router.post (.worldRoute m ⟨s, sess.bind (·.characterId), req⟩) >>= fun r => k r.isSuccess)
    post σ l
  exact meets_read fun σ₁ _ => naming_ask rfl rfl (hreq _) fun σ₂ r => hk σ₂ _ r

/-- A guard: behind it the entry has said what the guard asks. -/
lemma naming_guard {m : MapId} (h : Says s ip a σ) (hm : Resolved s m a σ)
    {f : Option SessionRuntime → Bool} {g : Authority → Bool}
    (hf : ∀ o, f o = ((o.map fun e => g (authority e)).getD false)) {task : Router Unit}
    (htask : ∀ σ', Says s ip a σ' → Resolved s m a σ' → g a = true →
      (naming s ip leaving).Meets task any σ' l) :
    (naming s ip leaving).Meets (Task.read (fun m : Sessions => m.lookup s) >>= fun sess =>
      if f sess = true then task else pure ()) any σ l := by
  refine meets_read fun σ' hr => ?_
  split
  · next hb =>
    have h' := h.stable hr
    refine htask σ' h' (hm.stable hr) ?_
    rw [hf] at hb
    rcases he : σ'.lookup s with _ | e
    · rw [he] at hb
      cases hb
    · rw [he, Option.map_some, Option.getD_some, (h' e he).1] at hb
      exact hb
  · exact naming_done

lemma naming_play {m : MapId} {req : WorldRouteCommandRequest}
    (h : Says s ip (granted (history s l)) σ) (hm : Resolved s m (granted (history s l)) σ)
    (hw : (granted (history s l)).inWorld = true → (granted (history s l)).characterId.isSome) :
    (naming s ip false).Meets (routePlay s m req) any σ l := by
  refine naming_guard
    (f := fun o => ((o.map fun e => e.inWorld && e.accountId.isSome).getD false))
    (g := fun a => a.inWorld && a.accountId.isSome) h hm (fun _ => rfl) fun σ' h' hm' hg => ?_
  rw [Bool.and_eq_true] at hg
  exact naming_world h' hm' (hw hg.1) fun _ _ _ => naming_done

lemma naming_enterWorld {m : MapId} (h : Says s ip (granted (history s l)) σ)
    (hm : Resolved s m (granted (history s l)) σ) :
    (naming s ip false).Meets (routeEnterWorld s m) any σ l := by
  refine naming_guard
    (f := fun o => ((o.map fun e => e.characterId.isSome && e.accountId.isSome).getD false))
    (g := fun a => a.characterId.isSome && a.accountId.isSome) h hm (fun _ => rfl)
    fun σ' h' hm' hg => ?_
  rw [Bool.and_eq_true] at hg
  refine naming_world h' hm' hg.1 fun σ'' c r => ?_
  split
  · exact naming_update fun _ => rfl
  · exact naming_done

lemma naming_leave : (naming s ip true).Meets (do routeAuthLogout s; removeSession s) any σ l :=
  naming_ask rfl rfl rfl fun _ _ => naming_remove

lemma naming_authenticated {m : MapId} {route : Router Unit} (h : Says s ip a σ)
    (hm : Resolved s m a σ)
    (hroute : ∀ σ', (naming s ip leaving).Meets route any σ' l) :
    (naming s ip leaving).Meets (whenAuthenticated s route) any σ l :=
  naming_guard (f := fun o => (o.bind (·.accountId)).isSome) (g := fun a => a.accountId.isSome)
    h hm (fun o => by cases o <;> rfl) fun σ' _ _ _ => hroute σ'

/-- **The requests of a command are sound**: they say of the session what its history has granted,
if the entry is still there when they are sent. -/
theorem naming_handle {c : InternalCommand} (hby : SentBy s c)
    (h : Says s ip (granted (history s l)) σ)
    (hw : (granted (history s l)).inWorld = true → (granted (history s l)).characterId.isSome) :
    (naming s ip (leaves c)).Meets (Router.handle c) any σ l := by
  cases hby with
  | disconnection reason => exact naming_leave
  | command cmd =>
    change (naming s ip _).Meets (routeClientCommand s none cmd) any σ l
    unfold routeClientCommand
    refine Meets.bind (meets_read fun σ' hr => meets_pure fun σ'' hr' => ?_)
    have h'' : Says s ip (granted (history s l)) σ'' := (h.stable hr).stable hr'
    have hm : Resolved s (((σ'.lookup s).bind (·.mapId)).getD 1) (granted (history s l)) σ'' := by
      intro hs
      obtain ⟨e, he⟩ := rely_isSome hr' hs
      have hauth := (h.stable hr e he).1
      rw [he, ← hauth]
      rfl
    cases cmd with
    | login payload => exact naming_login payload h''
    | logout => exact naming_pass (fun _ => rfl) fun _ _ _ => naming_leave
    | characterList =>
      exact naming_authenticated h'' hm fun _ => naming_ask rfl rfl rfl fun _ _ => naming_done
    | characterCreate payload =>
      exact naming_authenticated h'' hm fun _ => naming_ask rfl rfl rfl fun _ _ => naming_done
    | characterDelete c =>
      refine naming_authenticated h'' hm fun _ => naming_ask rfl rfl rfl fun _ r => ?_
      rcases r.characterDelete with _ | body
      · exact naming_done
      · dsimp only
        split
        · refine naming_update fun e => ?_
          split <;> rfl
        · exact naming_done
    | characterSelect c =>
      refine naming_authenticated h'' hm fun _ => naming_ask rfl rfl rfl fun _ r => ?_
      rcases r.characterSelect with _ | body
      · exact naming_done
      · dsimp only
        split
        · exact naming_update fun _ => rfl
        · exact naming_done
    | enterWorld => exact naming_enterWorld h'' hm
    | heartbeat => exact naming_pass (fun _ => rfl) fun _ _ _ => naming_done
    | move | attack | castSkill | pickupItem | dropItem | useItem | npcInteraction | chat
    | whisper | guildChat => exact naming_play h'' hm hw

end

/-! ### Among the connections -/

variable {parseStr : String → Option Uuid} {packetMaxPayload : ℕ} {g g' : Gateway}

lemma addressOf_set {s : SessionId} {conn conn' : Connection}
    (hl : g.connections.lookup s = some conn) (hip : conn'.remoteIp = conn.remoteIp)
    (hc : g'.connections = g.connections.insert s conn') : addressOf g' = addressOf g := by
  funext x
  unfold addressOf
  rw [hc, FMap.lookup_insert_eq]
  split
  · next hx => rw [hx, hl, Option.map_some, Option.map_some, hip]
  · rfl

lemma addressOf_step {a : Action} (h : Step parseStr packetMaxPayload g a g') {s : SessionId}
    {ip : String} (hs : addressOf g s = some ip) : addressOf g' s = some ip := by
  cases h with
  | @accept x remoteIp hl =>
    have hne : s ≠ x := by
      rintro rfl
      rw [addressOf, hl] at hs
      cases hs
    unfold addressOf
    dsimp only
    rw [Finmap.lookup_insert_of_ne _ hne]
    exact hs
  | task hl ht =>
    rw [addressOf_set hl ht.remoteIp rfl]
    exact hs
  | queue hl hq =>
    rw [addressOf_set hl hq.remoteIp rfl]
    exact hs
  | @remove x conn hl hst =>
    have hip : ({ conn with stage := .ended } : Connection).remoteIp = conn.remoteIp := rfl
    rw [addressOf_set hl hip rfl]
    exact hs
  | recv | sync | reply | finish => exact hs

/-- Entries keep the address of their connection, and what is left of a command is sound. -/
structure Kept (g : Gateway) : Prop where
  address : ∀ s e, g.sessions.lookup s = some e → addressOf g s = some e.remoteIp
  running : ∀ s c t ip, g.current = some (c, t) → SentBy s c → addressOf g s = some ip →
    (naming s ip (leaves c)).Meets t any g.sessions g.exchanges

lemma kept_start : Kept .start where
  address _ _ h := by cases h
  running _ _ _ _ h := by cases h

section

variable (ht : Traced g) (hr : Routed g) (hk : Kept g)

include ht hr in
lemma exists_address {c : InternalCommand} {t : Router Unit} (h : g.current = some (c, t)) :
    ∃ s ip, SentBy s c ∧ addressOf g s = some ip := by
  obtain ⟨s, conn, hby, hl⟩ := hr.connected ht h
  exact ⟨s, conn.remoteIp, hby, by rw [addressOf, hl]; rfl⟩

include ht hr hk in
lemma Kept.connections (hcur : g'.current = g.current) (hex : g'.exchanges = g.exchanges)
    (haddr : ∀ s ip, addressOf g s = some ip → addressOf g' s = some ip)
    (hold : ∀ s ip, addressOf g s = some ip →
      g'.sessions.lookup s = g.sessions.lookup s ∨ g'.sessions.lookup s = none)
    (hnew : ∀ s e, g'.sessions.lookup s = some e → g.sessions.lookup s ≠ some e →
      addressOf g' s = some e.remoteIp) : Kept g' := by
  constructor
  · intro s e he
    by_cases hs : g.sessions.lookup s = some e
    · exact haddr s _ (hk.address s e hs)
    · exact hnew s e he hs
  · intro s c t ip hc hby hip
    rw [hcur] at hc
    rw [hex]
    obtain ⟨s', ip', hby', hip'⟩ := exists_address ht hr hc
    obtain rfl := hby.unique hby'
    rw [haddr s ip' hip'] at hip
    cases hip
    exact (hk.running s c t ip hc hby hip').stable (hold s ip hip')

include hr hk in
lemma naming_recv (hnone : g.current = none) {c : InternalCommand} {s : SessionId} {ip : String}
    (hby : SentBy s c) (hip : addressOf g s = some ip) :
    (naming s ip (leaves c)).Meets (Router.handle c) any g.sessions g.exchanges := by
  have hbetween : Between g s := fun c' t hcur => by
    rw [hnone] at hcur
    cases hcur
  have hset := hr.settled s hbetween
  have hearned := earned_of_permitted (hr.permitted s)
  refine naming_handle hby (fun e he => ⟨hset.entry e he, ?_⟩) fun hw => (hearned.whole hw).2
  have haddress := hk.address s e he
  rw [haddress] at hip
  exact Option.some.inj hip

include ht hr hk in
lemma address_sync {c : InternalCommand} {f : Sessions → Sessions} {k : Sessions → Router Unit}
    (hc : g.current = some (c, .sync f k)) {x : SessionId} {e' : SessionRuntime}
    (he' : (f g.sessions).lookup x = some e') : addressOf g x = some e'.remoteIp := by
  obtain ⟨s, ip, hby, hip⟩ := exists_address ht hr hc
  obtain ⟨⟨hown, -⟩, -⟩ := hk.running s c _ ip hc hby hip g.sessions (.inl rfl)
  obtain ⟨⟨hsame, -⟩, -⟩ := hr.running s c _ hc hby g.sessions (.inl rfl)
  by_cases hx : x = s
  · rw [hx] at he' ⊢
    obtain ⟨e, he, hsip⟩ := hown e' he'
    rw [hsip]
    exact hk.address s e he
  · rw [hsame x hx] at he'
    exact hk.address x e' he'

include ht hr hk in
lemma kept_step {a : Action} (h : Step parseStr packetMaxPayload g a g') : Kept g' := by
  have haddr : ∀ s ip, addressOf g s = some ip → addressOf g' s = some ip :=
    fun s ip hs => addressOf_step h hs
  cases h with
  | @accept s remoteIp hs =>
    refine hk.connections ht hr rfl rfl haddr (fun x ip hx => .inl ?_) fun x e he hne => ?_
    · refine Finmap.lookup_insert_of_ne _ ?_
      rintro rfl
      rw [addressOf, hs] at hx
      cases hx
    · have he : (g.sessions.insert s ⟨remoteIp, none, none, none, false⟩).lookup x = some e := he
      rcases FMap.lookup_insert_cases he with ⟨hx, hv⟩ | ⟨-, he⟩
      · cases hv
        unfold addressOf
        rw [hx]
        dsimp only
        rw [Finmap.lookup_insert]
        rfl
      · exact absurd he hne
  | task _ _ | queue _ _ =>
    exact hk.connections ht hr rfl rfl haddr (fun _ _ _ => .inl rfl) fun _ _ he hne =>
      absurd he hne
  | @remove s conn _ _ =>
    have hlook := FMap.lookup_erase_eq g.sessions s
    refine hk.connections ht hr rfl rfl haddr (fun x _ _ => ?_) fun x e he hne => ?_
    · by_cases hx : x = s
      · exact .inr ((hlook x).trans (if_pos hx))
      · exact .inl ((hlook x).trans (if_neg hx))
    · have he : (g.sessions.erase s).lookup x = some e := he
      rw [hlook] at he
      split at he
      · cases he
      · exact absurd he hne
  | @recv c rest hc hq =>
    refine ⟨hk.address, ?_⟩
    rintro s c' t ip ⟨⟩ hby hip
    exact naming_recv hr hk hc hby hip
  | @sync c f k hc =>
    refine ⟨fun x e' he' => address_sync ht hr hk hc he', ?_⟩
    obtain ⟨s, ip, hby, hip⟩ := exists_address ht hr hc
    obtain ⟨-, hnext⟩ := hk.running s c _ ip hc hby hip g.sessions (.inl rfl)
    rintro x c' t ip' ⟨⟩ hbyx hipx
    obtain rfl := hbyx.unique hby
    have hipx : addressOf g x = some ip' := hipx
    rw [hip] at hipx
    cases hipx
    exact hnext
  | @reply c q k hc r =>
    obtain ⟨s, ip, hby, hip⟩ := exists_address ht hr hc
    obtain ⟨-, hnext⟩ := hk.running s c _ ip hc hby hip g.sessions (.inl rfl)
    refine ⟨hk.address, ?_⟩
    rintro x c' t ip' ⟨⟩ hbyx hipx
    obtain rfl := hbyx.unique hby
    have hipx : addressOf g x = some ip' := hipx
    rw [hip] at hipx
    cases hipx
    exact hnext r
  | finish hc => exact ⟨hk.address, nofun⟩

end

theorem kept_of_reached (h : (system parseStr packetMaxPayload).Reached g) : Kept g := by
  refine h.invariant_of Kept
    (J := fun g => Traced g ∧ Routed g) (fun hs => ⟨traced_of_reached hs, routed_of_reached hs⟩) ?_
    fun g a g' hJ _ hk _ hst => kept_step hJ.1 hJ.2 hk (step_cases hst)
  rintro g rfl
  exact kept_start

/-! ### The requests of a run -/

/-- The run is one in which the entry is there whenever the router reads it for a login or for a
request of the world, and selections are answered as the authentication service does. -/
def Unremoved (g : Gateway) (a : Action) : Prop := present g a = true ∧ wholeReply g a = true

instance (g : Gateway) (a : Action) : Decidable (Unremoved g a) :=
  inferInstanceAs (Decidable (_ ∧ _))

lemma carries_of_sound {s : SessionId} {ip : String} {leaving : Bool} {q : BackendRequest}
    (hown : sessionOf q = s) (hip : addressOf g s = some ip) {σ : Sessions}
    (hs : Sound s ip leaving q σ g.exchanges) (hw : WholeSelections (history s g.exchanges))
    (hthere : (isLogin q || needsCharacter q) = true → (σ.lookup s).isSome) :
    Carries g g.exchanges q := by
  cases q with
  | authLogin req =>
    have hown : req.sessionId = s := hown
    change addressOf g req.sessionId = some req.remoteIp
    rw [hown, hip, hs.2 (hthere rfl)]
  | worldRoute m env =>
    intro hn
    have hown : env.sessionId = s := hown
    obtain ⟨hc, hcid, hm⟩ := (hs hn).2 (hthere hn)
    obtain ⟨c, hc⟩ := Option.isSome_iff_exists.mp hc
    have hlast := lastSelection_of_granted hc
    obtain ⟨m', hm'⟩ := Option.isSome_iff_exists.mp (lastSelection_whole hw hlast)
    refine ⟨c, m', ?_, hcid.trans hc, ?_⟩
    · rw [hown, hlast, hm']
    · rw [hm, hm', Option.getD_some]
  | authLogout | authCharacterList | authCharacterCreate | authCharacterDelete
  | authCharacterSelect => trivial

lemma Carries.mono {pre : List Exchange} {q : BackendRequest} (h : Carries g pre q)
    (haddr : ∀ s ip, addressOf g s = some ip → addressOf g' s = some ip) : Carries g' pre q := by
  cases q with
  | authLogin req => exact haddr _ _ h
  | worldRoute | authLogout | authCharacterList | authCharacterCreate | authCharacterDelete
  | authCharacterSelect => exact h

/-- The router comes to a request by this step; if the entry was there, it still is, but for a
command that removes it. -/
structure Comes (g g' : Gateway) (a : Action) (q : BackendRequest) : Prop where
  sends : sends g a = some q
  current : ∃ c k, g'.current = some (c, .call q k) ∧ ∀ s ip, SentBy s c →
    addressOf g s = some ip → leaves c = false → (g.sessions.lookup s).isSome →
      (g'.sessions.lookup s).isSome

/-- What is posted after a step was posted before it, or the router comes to it by the step. -/
lemma postedAfter_step {a : Action} (hk : Kept g) (h : Step parseStr packetMaxPayload g a g')
    {pre : List Exchange} {q : BackendRequest} (hq : PostedAfter g' pre q) :
    PostedAfter g pre q ∨ pre = g'.exchanges ∧ Comes g g' a q := by
  cases h with
  | accept | task | queue | remove => exact .inl hq
  | @recv cmd rest hc hqueue =>
    rcases hq with ⟨r, post, he⟩ | ⟨he, c, k, hcall⟩
    · exact .inl (.inl ⟨r, post, he⟩)
    · obtain ⟨rfl, htask⟩ := Prod.mk.inj (Option.some.inj hcall)
      refine .inr ⟨he.symm, ?_, cmd, k, hcall, fun _ _ _ _ _ hs => hs⟩
      simp only [sends, hqueue, List.head?_cons, Option.bind_some, htask, calling]
  | @sync cmd f k hc =>
    rcases hq with ⟨r, post, he⟩ | ⟨he, c, k', hcall⟩
    · exact .inl (.inl ⟨r, post, he⟩)
    · obtain ⟨rfl, htask⟩ := Prod.mk.inj (Option.some.inj hcall)
      refine .inr ⟨he.symm, ?_, cmd, k', hcall, fun s ip hby hip hl hs => ?_⟩
      · simp only [sends, hc, htask, calling]
      · obtain ⟨⟨-, hstays⟩, -⟩ := hk.running s cmd _ ip hc hby hip g.sessions (.inl rfl)
        exact hstays hl hs
  | @reply cmd q₀ k hc r =>
    rcases hq with ⟨r', post, he⟩ | ⟨he, c, k', hcall⟩
    · refine .inl ?_
      rcases snoc_eq_append_cons he with ⟨-, rfl, hx⟩ | ⟨post', -, he⟩
      · obtain ⟨rfl, -⟩ := Prod.mk.inj hx
        exact .inr ⟨rfl, cmd, k, hc⟩
      · exact .inl ⟨r', post', he⟩
    · obtain ⟨rfl, htask⟩ := Prod.mk.inj (Option.some.inj hcall)
      refine .inr ⟨he.symm, ?_, cmd, k', hcall, fun _ _ _ _ _ hs => hs⟩
      simp only [sends, hc, htask, calling]
  | finish hc =>
    rcases hq with ⟨r, post, he⟩ | ⟨-, c, k, hcall⟩
    · exact .inl (.inl ⟨r, post, he⟩)
    · cases hcall

lemma whole_step {a : Action} (hw : WholeSelections g.exchanges) (ha : wholeReply g a = true)
    (h : Step parseStr packetMaxPayload g a g') : WholeSelections g'.exchanges := by
  cases h with
  | @reply cmd q k hc r =>
    intro x hx req body hq hr
    rcases List.mem_append.mp hx with hx | hx
    · exact hw x hx req body hq hr
    · obtain rfl := List.mem_singleton.mp hx
      have hq : q = .authCharacterSelect req := hq
      rw [hq] at hc
      exact (wholeReply_iff g r).mp ha cmd req k hc body hr
  | accept | task | queue | remove | recv | sync | finish => exact hw

lemma named_step {a : Action} (hk : Kept g) (ht' : Traced g') (hr' : Routed g') (hk' : Kept g')
    (hn : Named g) (hw' : WholeSelections g'.exchanges) (ha : present g a = true)
    (h : Step parseStr packetMaxPayload g a g') : Named g' := by
  intro pre q hq
  rcases postedAfter_step hk h hq with hq | ⟨rfl, hsends, c, k, hc, hstays⟩
  · exact (hn pre q hq).mono fun s ip hs => addressOf_step h hs
  obtain ⟨s, ip', hby, hip'⟩ := exists_address ht' hr' hc
  obtain ⟨⟨hown, hsound⟩, -⟩ := hk'.running s c _ ip' hc hby hip' g'.sessions (.inl rfl)
  refine carries_of_sound hown hip' hsound (fun x hx => hw' x (List.mem_of_mem_filter hx)) ?_
  intro hcrit
  have hthere : (g.sessions.lookup s).isSome := by
    have hp := ha
    rw [present, hsends, Option.all_some, hcrit, hown] at hp
    exact hp
  obtain ⟨e, he⟩ := Option.isSome_iff_exists.mp hthere
  refine hstays s e.remoteIp hby (hk.address s e he) ?_ hthere
  cases q with
  | authLogin req => exact hsound.1
  | worldRoute m env => exact (hsound hcrit).1
  | authLogout | authCharacterList | authCharacterCreate | authCharacterDelete
  | authCharacterSelect => cases hcrit

/-- **Logins and requests of the world name the session rightly**, in every run in which the entry
is still there whenever the router reads it for one of them. -/
theorem named_of_unremoved (h : (system parseStr packetMaxPayload).ReachedBy Unremoved g) :
    Named g := by
  have hall := h.invariant_of (fun g => Named g ∧ WholeSelections g.exchanges)
    (J := fun g => Traced g ∧ Routed g ∧ Kept g)
    (fun hs => ⟨traced_of_reached hs, routed_of_reached hs, kept_of_reached hs⟩) ?_ ?_
  · exact hall.1
  · rintro g rfl
    refine ⟨?_, fun x hx => absurd hx List.not_mem_nil⟩
    rintro pre q (⟨r, post, he⟩ | ⟨-, c, k, hc⟩)
    · simp [Gateway.start] at he
    · cases hc
  · rintro g a g' ⟨-, -, hk⟩ ⟨ht', hr', hk'⟩ ⟨hn, hw⟩ ⟨hp, hrep⟩ hst
    have hw' := whole_step hw hrep (step_cases hst)
    exact ⟨named_step hk ht' hr' hk' hn hw' hp (step_cases hst), hw'⟩

/-- A session that logs in, selects a character, enters the world and chats, and then goes. -/
theorem named_of_unremoved_chat :
    ∃ g, (system (fun _ => none) 65535).Reached g ∧ Named g ∧
      ∃ pre q, PostedAfter g pre q ∧ isPlay q = true ∧ Carries g pre q := by
  obtain ⟨g, hg, hp⟩ := (system (fun _ => none) 65535).exists_reachedBy Unremoved rfl
    (chatActions ++ [.read (.fill 7) [], .disconnect (.fill 7), .remove (.fill 7)])
    (fun g => (posting g).any isPlay) (by decide +kernel)
  obtain ⟨q, hq, hplay⟩ := (Option.any_eq_true _ _).mp hp
  have hn := named_of_unremoved hg
  have hpost := postedAfter_of_posting hq
  exact ⟨g, hg.reached, hn, _, q, hpost, hplay, hn _ q hpost⟩

/-- A client sends its login and closes the socket: the login is posted for no address. -/
theorem login_after_removal_misnamed :
    ∃ g, (system (fun _ => none) 65535).Reached g ∧ ¬ Named g := by
  obtain ⟨g, hg, hp⟩ := (system (fun _ => none) 65535).exists_reachedBy (fun _ _ => True) rfl
    [.accept (.fill 7) "10.0.0.1", .read (.fill 7) loginFrame, .frame (.fill 7) true,
      .send (.fill 7), .read (.fill 7) [], .disconnect (.fill 7), .remove (.fill 7),
      .recv, .sync, .sync]
    (fun g => posting g = some (.authLogin ⟨.fill 7, "u", "p", "0.0.0.0"⟩) ∧
      addressOf g (.fill 7) = some "10.0.0.1") (by decide +kernel)
  obtain ⟨hpost, haddr⟩ := of_decide_eq_true hp
  refine ⟨g, hg, fun hn => ?_⟩
  have hcarries : addressOf g (.fill 7) = some "0.0.0.0" := hn _ _ (postedAfter_of_posting hpost)
  rw [haddr] at hcarries
  exact absurd hcarries (by decide)

end HelbreathBackend.EarlyRemoval
