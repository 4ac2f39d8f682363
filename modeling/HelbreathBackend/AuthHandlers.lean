import HelbreathBackend.AuthService
import HelbreathBackend.Gateway

/-!
The handlers of the authentication service, statement by statement.

A handler is a task whose calls are the statements it has the database run, and which returns the
body of its response. A statement is answered by what it has found or changed, or has failed.
-/

namespace HelbreathBackend.AuthHandlers

open HelbreathBackend.Lib HelbreathBackend.Domain HelbreathBackend.Infrastructure
open HelbreathBackend.Infrastructure.Database HelbreathBackend.Auth HelbreathBackend.Gateway
open HelbreathBackend.Application (trim)

inductive Query
  | findAccountForLogin (username : String)
  | upsertSession (sessionId : SessionId) (accountId : AccountId) (gatewayNode remoteIp : String)
    (expiresAt : Time)
  | closeSession (sessionId : SessionId)
  | getSessionAccount (sessionId : SessionId)
  | listCharacters (accountId : AccountId)
  | createCharacter (accountId : AccountId) (params : NewCharacterParams)
  | markDeleted (accountId : AccountId) (characterId : CharacterId)
  | unbindSessions (accountId : AccountId) (characterId : CharacterId)
  | loadCharacter (accountId : AccountId) (characterId : CharacterId)
  | bindSession (sessionId : SessionId) (accountId : AccountId) (characterId : CharacterId)

inductive Answer
  | account (account : Option AccountAuthRecord)
  | sessionAccount (accountId : Option AccountId)
  | characters (characters : List Character)
  | character (character : Option Character)
  | rows (count : ℕ)
  | done
  | failed (text : String)

/-- What the database does with a statement. -/
def Query.run (inet : String → Option String) (now : Time) (newId : CharacterId) (db : Database) :
    Query → Answer × Database
  | .findAccountForLogin username => (.account (db.findAccountForLogin username), db)
  | .upsertSession sessionId accountId gatewayNode remoteIp expiresAt =>
    match db.upsertSession inet now sessionId accountId gatewayNode remoteIp expiresAt with
    | .ok db' => (.done, db')
    | .error _ => (.failed "database error", db)
  | .closeSession sessionId => (.done, db.closeSession now sessionId)
  | .getSessionAccount sessionId => (.sessionAccount (db.getSessionAccount sessionId), db)
  | .listCharacters accountId =>
    (.characters ((db.characters.rows.filter fun c =>
      c.accountId == accountId && !c.isDeleted).map rowToCharacter), db)
  | .createCharacter accountId params =>
    match db.createCharacter now newId accountId params with
    | .ok (character, db') => (.character (some character), db')
    | .error (.message text) => (.failed text, db)
    | .error (.database _) => (.failed "database error", db)
  | .markDeleted accountId characterId =>
    let (rows, db) := db.markDeleted now accountId characterId
    (.rows rows, db)
  | .unbindSessions accountId characterId => (.done, db.unbindSessions accountId characterId)
  | .loadCharacter accountId characterId =>
    (.character (db.loadCharacter accountId characterId), db)
  | .bindSession sessionId accountId characterId =>
    let (rows, db) := db.bindSession now sessionId accountId characterId
    (.rows rows, db)

abbrev AuthTask := Task Unit Query Answer Body

def statement (q : Query) : Task Unit Query Answer Answer := Task.request q

/-! ### Sessions -/

def refused (accountId : Option AccountId) (reason : String) : Body :=
  .login ⟨false, accountId, some reason⟩

/-- `validate_credentials`, and the response made of its outcome. -/
def validateCredentials (svc : AuthService) (o : Surroundings) (sessionId : SessionId)
    (username password remoteIp : String) : AuthTask := do
  match ← statement (.findAccountForLogin username) with
  | .account none => pure (refused none "invalid_credentials")
  | .account (some account) =>
    if account.status ≠ .active then pure (refused (some account.id) "account_not_active")
    else
      match passwordOk o account.username account.passwordHash password with
      | .error (.message text) => pure (refused none ("internal_error:" ++ text))
      | .error _ => pure .other
      | .ok false => pure (refused (some account.id) "invalid_credentials")
      | .ok true =>
        match defaultSessionExpiry o svc.sessionTtlSeconds with
        | none => pure .other
        | some expiresAt =>
          match ← statement
            (.upsertSession sessionId account.id svc.gatewayNode remoteIp expiresAt) with
          | .failed text => pure (refused none ("internal_error:" ++ text))
          | _ => pure (.login ⟨true, some account.id, none⟩)
  | .failed text => pure (refused none ("internal_error:" ++ text))
  | _ => pure .other

/-- `login`, with the answer of the rate limiter. -/
def login (svc : AuthService) (o : Surroundings) (limited : Bool) (req : AuthLoginRequest) :
    AuthTask :=
  if limited then pure (refused none "rate_limited")
  else validateCredentials svc o req.sessionId (trim req.username) req.password req.remoteIp

/-- The gateway reads nothing from the body of a logout. -/
def logout (req : AuthLogoutRequest) : AuthTask := do
  let _ ← statement (.closeSession req.sessionId)
  pure .other

/-! ### Characters -/

/-- The handlers that work for the account of a session. -/
def withAccount (sessionId : SessionId) (invalid failed : Body) (work : AccountId → AuthTask) :
    AuthTask := do
  match ← statement (.getSessionAccount sessionId) with
  | .sessionAccount (some accountId) => work accountId
  | .sessionAccount none => pure invalid
  | _ => pure failed

def toCharacterSummary (c : Character) : AuthCharacterSummary :=
  ⟨c.id, c.name, characterClassCode c.characterClass, c.mapId, c.x, c.y, c.level⟩

def listCharacters (sessionId : SessionId) : AuthTask :=
  withAccount sessionId (.characterList ⟨false, []⟩) (.characterList ⟨false, []⟩)
    fun accountId => do
      match ← statement (.listCharacters accountId) with
      | .characters characters =>
        pure (.characterList ⟨true, characters.map toCharacterSummary⟩)
      | _ => pure (.characterList ⟨false, []⟩)

/-- `trim` and `to_ascii_lowercase`, then the names and their short forms. -/
def parseClass (raw : String) : Option CharacterClass :=
  match String.ofList ((trim raw).toList.map Char.toLower) with
  | "warrior" | "w" => some .warrior
  | "mage" | "magician" | "m" => some .mage
  | "archer" | "a" => some .archer
  | _ => none

def createCharacter (req : AuthCharacterCreateRequest) : AuthTask :=
  withAccount req.sessionId (.characterCreate ⟨false, none, some "invalid_session"⟩)
    (.characterCreate ⟨false, none, some "internal_error"⟩) fun accountId => do
      match ← statement (.createCharacter accountId
        { name := trim req.name
          characterClass := (parseClass req.characterClass).getD .warrior
          gender := req.gender
          skinColor := req.skinColor
          hairStyle := req.hairStyle
          hairColor := req.hairColor
          underwearColor := req.underwearColor
          stats := req.stats }) with
      | .character (some character) =>
        pure (.characterCreate ⟨true, some (toCharacterSummary character), none⟩)
      | .failed text => pure (.characterCreate ⟨false, none, some text⟩)
      | _ => pure .other

/-- What the second statement is answered does not matter. -/
def deleteCharacter (req : AuthCharacterDeleteRequest) : AuthTask :=
  withAccount req.sessionId (.characterDelete ⟨false⟩) (.characterDelete ⟨false⟩)
    fun accountId => do
      match ← statement (.markDeleted accountId req.characterId) with
      | .rows rows =>
        if 0 < rows then do
          let _ ← statement (.unbindSessions accountId req.characterId)
          pure (.characterDelete ⟨true⟩)
        else pure (.characterDelete ⟨false⟩)
      | _ => pure (.characterDelete ⟨false⟩)

def notSelected (reason : String) : Body :=
  .characterSelect ⟨false, none, none, none, none, some reason⟩

/-- `bind_session_character` is its last two statements. -/
def selectCharacter (req : AuthCharacterSelectRequest) : AuthTask :=
  withAccount req.sessionId (notSelected "invalid_session") (notSelected "internal_error")
    fun accountId => do
      match ← statement (.loadCharacter accountId req.characterId) with
      | .character (some character) =>
        match ← statement (.bindSession req.sessionId accountId req.characterId) with
        | .rows rows =>
          if rows = 0 then pure (notSelected "character_not_found_or_session_closed")
          else pure (.characterSelect ⟨true, some character.id, some character.mapId,
            some character.x, some character.y, none⟩)
        | _ => pure (notSelected "internal_error")
      | .character none => pure (notSelected "character_not_found_or_session_closed")
      | _ => pure (notSelected "internal_error")

/-- The handler of a request to the authentication service. -/
def handlerOf (svc : AuthService) (o : Surroundings) (limited : Bool) :
    BackendRequest → Option AuthTask
  | .authLogin req => some (login svc o limited req)
  | .authLogout req => some (logout req)
  | .authCharacterList sessionId => some (listCharacters sessionId)
  | .authCharacterCreate req => some (createCharacter req)
  | .authCharacterDelete req => some (deleteCharacter req)
  | .authCharacterSelect req => some (selectCharacter req)
  | .worldRoute .. => none

/-! ### Replies -/

/-- The reply names a character and its map if it says that the selection succeeded. -/
def Whole (body : AuthCharacterSelectResponse) : Prop :=
  body.ok = true → body.characterId.isSome ∧ body.mapId.isSome

/-- **A selection that succeeds names its character and the map of it.** -/
theorem selectCharacter_whole (req : AuthCharacterSelectRequest) :
    (selectCharacter req).Returns fun body =>
      ∀ response, body = .characterSelect response → Whole response := by
  have hno : ∀ reason response, notSelected reason = .characterSelect response →
      Whole response := by
    rintro reason _ ⟨⟩
    exact nofun
  intro account
  cases account with
  | sessionAccount accountId =>
    rcases accountId with _ | accountId
    · exact hno _
    intro loaded
    cases loaded with
    | character character =>
      rcases character with _ | character
      · exact hno _
      intro bound
      cases bound with
      | rows rows =>
        change Task.Returns _ (if rows = 0 then _ else _)
        split
        · exact hno _
        · rintro _ ⟨⟩
          exact fun _ => ⟨rfl, rfl⟩
      | _ => exact hno _
    | _ => exact hno _
  | _ => exact hno _

end HelbreathBackend.AuthHandlers
