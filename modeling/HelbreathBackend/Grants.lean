import HelbreathBackend.Gateway
import HelbreathBackend.Lib.Transition

/-!
What the backends have granted a session.

The exchanges of a session with the two services, in order, decide what the session may do:
the accepted login gives it an account, the accepted selection a character, the accepted entry
the world. The entry that the gateway keeps of a session is this, read off its history.
-/

namespace HelbreathBackend.Grants

open HelbreathBackend.Lib HelbreathBackend.Domain HelbreathBackend.Application
open HelbreathBackend.Translate HelbreathBackend.Gateway

/-- A request and its reply. -/
abbrev Exchange := BackendRequest × HttpReply

/-- The session a request is about. -/
def sessionOf : BackendRequest → SessionId
  | .authLogin req => req.sessionId
  | .authLogout req => req.sessionId
  | .authCharacterList sessionId => sessionId
  | .authCharacterCreate req => req.sessionId
  | .authCharacterDelete req => req.sessionId
  | .authCharacterSelect req => req.sessionId
  | .worldRoute _ envelope => envelope.sessionId

/-- The exchanges of one session. -/
def history (s : SessionId) (l : List Exchange) : List Exchange :=
  l.filter fun x => sessionOf x.1 = s

def isLogin : BackendRequest → Bool
  | .authLogin _ => true
  | _ => false

def isEnterWorld : BackendRequest → Bool
  | .worldRoute _ envelope => envelope.command = .enterWorld
  | _ => false

/-- The requests of play. -/
def isPlay : BackendRequest → Bool
  | .worldRoute _ envelope =>
    match envelope.command with
    | .move .. | .attack _ | .castSkill .. | .pickupItem _ | .dropItem .. | .useItem _
    | .npcInteraction _ | .chat _ | .whisper .. | .guildChat _ => true
    | .heartbeat | .enterWorld | .logout => false
  | _ => false

/-- What a session has been granted. -/
structure Authority where
  accountId : Option AccountId
  characterId : Option CharacterId
  mapId : Option MapId
  inWorld : Bool
  deriving DecidableEq

def nobody : Authority := ⟨none, none, none, false⟩

/-- What the entry of a session says it has been granted. -/
def authority (e : SessionRuntime) : Authority := ⟨e.accountId, e.characterId, e.mapId, e.inWorld⟩

/-- What an exchange adds to, or takes from, what the session had. -/
def grant (a : Authority) (x : Exchange) : Authority :=
  match x.1 with
  | .authLogin _ =>
    match x.2.login with
    | some body => if body.accepted then ⟨body.accountId, none, none, false⟩ else a
    | none => a
  | .authCharacterDelete req =>
    match x.2.characterDelete with
    | some body =>
      if body.ok then
        if a.characterId = some req.characterId then ⟨a.accountId, none, none, false⟩ else a
      else a
    | none => a
  | .authCharacterSelect _ =>
    match x.2.characterSelect with
    | some body => if body.ok then ⟨a.accountId, body.characterId, body.mapId, false⟩ else a
    | none => a
  | .worldRoute _ envelope =>
    if envelope.command = .enterWorld then
      if x.2.isSuccess then { a with inWorld := true } else a
    else a
  | .authLogout _ | .authCharacterList _ | .authCharacterCreate _ => a

def granted (h : List Exchange) : Authority := h.foldl grant nobody

/-- The requests a session with this authority may cause. -/
def permitted (a : Authority) : BackendRequest → Bool
  | .authLogin _ | .authLogout _ => true
  | .authCharacterList _ | .authCharacterCreate _ | .authCharacterDelete _
  | .authCharacterSelect _ => a.accountId.isSome
  | .worldRoute _ envelope =>
    match envelope.command with
    | .heartbeat | .logout => true
    | .enterWorld => a.characterId.isSome && a.accountId.isSome
    | _ => a.inWorld && a.accountId.isSome

def loginAccepted (x : Exchange) : Bool :=
  isLogin x.1 && (x.2.login.map fun body => body.accepted && body.accountId.isSome).getD false

def selectAccepted (x : Exchange) : Bool :=
  match x.1 with
  | .authCharacterSelect _ =>
    (x.2.characterSelect.map fun body => body.ok && body.characterId.isSome).getD false
  | _ => false

def enterAccepted (x : Exchange) : Bool := isEnterWorld x.1 && x.2.isSuccess

lemma history_append (s : SessionId) (l l' : List Exchange) :
    history s (l ++ l') = history s l ++ history s l' := List.filter_append ..

lemma history_own {s : SessionId} {x : Exchange} (h : sessionOf x.1 = s) (l : List Exchange) :
    history s (l ++ [x]) = history s l ++ [x] := by
  rw [history_append]
  simp [history, h]

lemma history_other {s : SessionId} {x : Exchange} (h : sessionOf x.1 ≠ s) (l : List Exchange) :
    history s (l ++ [x]) = history s l := by
  rw [history_append]
  simp [history, h]

lemma granted_snoc (h : List Exchange) (x : Exchange) :
    granted (h ++ [x]) = grant (granted h) x := by
  unfold granted
  rw [List.foldl_append]
  rfl

/-! ### The order of the grants -/

/-- Every request of the history was permitted by what had been granted before it. -/
def Permitted (h : List Exchange) : Prop :=
  Along (fun pre x => permitted (granted pre) x.1 = true) h

/-- The grants a history has made, in the order in which it made them. -/
structure Earned (h : List Exchange) : Prop where
  account : (granted h).accountId.isSome → ∃ a, [a].Sublist h ∧ loginAccepted a = true
  character : (granted h).characterId.isSome → ∃ a b, [a, b].Sublist h ∧
    loginAccepted a = true ∧ selectAccepted b = true
  world : (granted h).inWorld = true → ∃ a b c, [a, b, c].Sublist h ∧
    loginAccepted a = true ∧ selectAccepted b = true ∧ enterAccepted c = true
  whole : (granted h).inWorld = true →
    (granted h).accountId.isSome ∧ (granted h).characterId.isSome

/-- An exchange that grants nothing new. -/
lemma Earned.keep {h : List Exchange} (he : Earned h) {x : Exchange}
    (ha : (grant (granted h) x).accountId.isSome → (granted h).accountId.isSome)
    (hc : (grant (granted h) x).characterId.isSome → (granted h).characterId.isSome)
    (hw : (grant (granted h) x).inWorld = true → (granted h).inWorld = true ∧
      grant (granted h) x = granted h) : Earned (h ++ [x]) := by
  have hsub : h.Sublist (h ++ [x]) := List.sublist_append_left h [x]
  constructor <;> rw [granted_snoc] <;> intro hg
  · obtain ⟨a, hs, hl⟩ := he.account (ha hg)
    exact ⟨a, hs.trans hsub, hl⟩
  · obtain ⟨a, b, hs, hl⟩ := he.character (hc hg)
    exact ⟨a, b, hs.trans hsub, hl⟩
  · obtain ⟨a, b, c, hs, hl⟩ := he.world (hw hg).1
    exact ⟨a, b, c, hs.trans hsub, hl⟩
  · rw [(hw hg).2]
    exact he.whole (hw hg).1

lemma Earned.login {h : List Exchange} (he : Earned h) (req : AuthLoginRequest) (r : HttpReply) :
    Earned (h ++ [(.authLogin req, r)]) := by
  rcases hr : r.login with _ | body
  · have hg : ∀ a, grant a (.authLogin req, r) = a := by simp [grant, hr]
    refine he.keep ?_ ?_ ?_ <;> rw [hg] <;> simp
  · by_cases hacc : body.accepted = true
    · have hg : ∀ a, grant a (.authLogin req, r) = ⟨body.accountId, none, none, false⟩ := by
        simp [grant, hr, hacc]
      constructor <;> rw [granted_snoc, hg]
      · intro hs
        refine ⟨_, List.sublist_append_right h _, ?_⟩
        simp only [loginAccepted, isLogin, hr, Option.map_some, Option.getD_some, hacc,
          Bool.true_and]
        exact hs
      all_goals exact nofun
    · have hg : ∀ a, grant a (.authLogin req, r) = a := by simp [grant, hr, hacc]
      refine he.keep ?_ ?_ ?_ <;> rw [hg] <;> simp

lemma grant_delete_cases (a : Authority) (req : AuthCharacterDeleteRequest) (r : HttpReply) :
    grant a (.authCharacterDelete req, r) = a ∨
      grant a (.authCharacterDelete req, r) = ⟨a.accountId, none, none, false⟩ := by
  unfold grant
  dsimp only
  split
  · split
    · split
      · exact .inr rfl
      · exact .inl rfl
    · exact .inl rfl
  · exact .inl rfl

lemma grant_select_cases (a : Authority) (req : AuthCharacterSelectRequest) (r : HttpReply) :
    grant a (.authCharacterSelect req, r) = a ∨
      ∃ c m, grant a (.authCharacterSelect req, r) = ⟨a.accountId, c, m, false⟩ := by
  unfold grant
  dsimp only
  split
  · split
    · exact .inr ⟨_, _, rfl⟩
    · exact .inl rfl
  · exact .inl rfl

lemma Earned.delete {h : List Exchange} (he : Earned h) (req : AuthCharacterDeleteRequest)
    (r : HttpReply) : Earned (h ++ [(.authCharacterDelete req, r)]) := by
  rcases grant_delete_cases (granted h) req r with hg | hg
  · refine he.keep ?_ ?_ ?_ <;> rw [hg] <;> simp
  · refine he.keep ?_ ?_ ?_ <;> rw [hg] <;> simp

/-- A selection is asked for with an account, so its character comes after the login. -/
lemma Earned.select {h : List Exchange} (he : Earned h) (req : AuthCharacterSelectRequest)
    (r : HttpReply) (hp : (granted h).accountId.isSome = true) :
    Earned (h ++ [(.authCharacterSelect req, r)]) := by
  rcases hr : r.characterSelect with _ | body
  · have hg : ∀ a, grant a (.authCharacterSelect req, r) = a := by simp [grant, hr]
    refine he.keep ?_ ?_ ?_ <;> rw [hg] <;> simp
  · by_cases hok : body.ok = true
    · have hg : ∀ a, grant a (.authCharacterSelect req, r) =
          ⟨a.accountId, body.characterId, body.mapId, false⟩ := by simp [grant, hr, hok]
      obtain ⟨a, hs, hl⟩ := he.account hp
      constructor <;> rw [granted_snoc, hg]
      · exact fun _ => ⟨a, hs.trans (List.sublist_append_left h _), hl⟩
      · intro hc
        refine ⟨a, _, hs.append (List.Sublist.refl _), hl, ?_⟩
        simp only [selectAccepted, hr, Option.map_some, Option.getD_some, hok, Bool.true_and]
        exact hc
      all_goals exact nofun
    · have hg : ∀ a, grant a (.authCharacterSelect req, r) = a := by simp [grant, hr, hok]
      refine he.keep ?_ ?_ ?_ <;> rw [hg] <;> simp

/-- An entry is asked for with a character, so the world comes after the selection. -/
lemma Earned.enterWorld {h : List Exchange} (he : Earned h) (m : MapId) (env : WorldRouteEnvelope)
    (r : HttpReply) (hcmd : env.command = .enterWorld)
    (hp : (granted h).characterId.isSome = true ∧ (granted h).accountId.isSome = true) :
    Earned (h ++ [(.worldRoute m env, r)]) := by
  by_cases hr : r.isSuccess = true
  · have hg : ∀ a, grant a (.worldRoute m env, r) = { a with inWorld := true } := by
      simp [grant, hcmd, hr]
    obtain ⟨a, b, hs, hla, hlb⟩ := he.character hp.1
    have hsub := List.sublist_append_left h [((.worldRoute m env, r) : Exchange)]
    constructor <;> rw [granted_snoc, hg]
    · intro _
      obtain ⟨a, hs, hl⟩ := he.account hp.2
      exact ⟨a, hs.trans hsub, hl⟩
    · exact fun _ => ⟨a, b, hs.trans hsub, hla, hlb⟩
    · refine fun _ => ⟨a, b, _, hs.append (List.Sublist.refl _), hla, hlb, ?_⟩
      simp [enterAccepted, isEnterWorld, hcmd, hr]
    · exact fun _ => ⟨hp.2, hp.1⟩
  · have hg : ∀ a, grant a (.worldRoute m env, r) = a := by simp [grant, hr]
    refine he.keep ?_ ?_ ?_ <;> rw [hg] <;> simp

/-- **Nothing is granted out of order**: in a history whose requests were all permitted, an
account comes from an accepted login, a character from a selection accepted after it, and the
world from an entry accepted after that. -/
theorem earned_of_permitted {h : List Exchange} (hp : Permitted h) : Earned h := by
  induction h using List.reverseRecOn with
  | nil => exact ⟨nofun, nofun, nofun, nofun⟩
  | append_singleton h x ih =>
    obtain ⟨hp, hx⟩ := along_snoc.mp hp
    have he := ih hp
    obtain ⟨q, r⟩ := x
    cases q with
    | authLogin req => exact he.login req r
    | authCharacterDelete req => exact he.delete req r
    | authCharacterSelect req => exact he.select req r hx
    | worldRoute m env =>
      by_cases hcmd : env.command = .enterWorld
      · have hx : permitted (granted h) (.worldRoute m env) = true := hx
        simp only [permitted, hcmd, Bool.and_eq_true] at hx
        exact he.enterWorld m env r hcmd hx
      · have hg : ∀ a, grant a (.worldRoute m env, r) = a := by simp [grant, hcmd]
        refine he.keep ?_ ?_ ?_ <;> rw [hg] <;> simp
    | authLogout req | authCharacterList sid | authCharacterCreate req =>
      exact he.keep id id fun hw => ⟨hw, rfl⟩

end HelbreathBackend.Grants
