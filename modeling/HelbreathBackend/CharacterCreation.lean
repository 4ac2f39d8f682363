import HelbreathBackend.AuthHandlers
import HelbreathBackend.CharacterRules
import HelbreathBackend.CharacterSlots
import HelbreathBackend.TranslateSafety
import HelbreathBackend.WireFormat

/-!
Creating a character by a request to the authentication service.

The handler takes the white space off the name and fills in what the request leaves out; of the
rules of a character it checks none, and of its columns the database checks only their types. So
whether the character that is stored is well formed is up to the request.
-/

namespace HelbreathBackend.CharacterCreation

open HelbreathBackend.Lib HelbreathBackend.Domain HelbreathBackend.Application
open HelbreathBackend.Translate HelbreathBackend.Infrastructure
open HelbreathBackend.Infrastructure.Database HelbreathBackend.Gateway
open HelbreathBackend.AuthHandlers HelbreathBackend.CharacterRules

/-! ### The handler -/

structure CharacterCreateRequest where
  sessionId : SessionId
  name : String
  characterClass : String
  gender : Option Int16
  skinColor : Option Int16
  hairStyle : Option Int16
  hairColor : Option Int16
  underwearColor : Option Int16
  stats : Option (Int16 × Int16 × Int16 × Int16 × Int16 × Int16)

def CharacterCreateRequest.params (req : CharacterCreateRequest) : NewCharacterParams where
  name := trim req.name
  characterClass := (parseClass req.characterClass).getD .warrior
  gender := req.gender.getD 0
  skinColor := req.skinColor.getD 0
  hairStyle := req.hairStyle.getD 0
  hairColor := req.hairColor.getD 0
  underwearColor := req.underwearColor.getD 0
  stats := req.stats.getD (10, 10, 10, 10, 10, 10)

def createCharacter (req : CharacterCreateRequest) : AuthTask :=
  withAccount req.sessionId (.characterCreate ⟨false, none, some "invalid_session"⟩)
    (.characterCreate ⟨false, none, some "internal_error"⟩) fun accountId => do
      match ← statement (.createCharacter accountId req.params) with
      | .character (some character) =>
        pure (.characterCreate ⟨true, some (toCharacterSummary character), none⟩)
      | .failed text => pure (.characterCreate ⟨false, none, some text⟩)
      | _ => pure .other

/-- The request the gateway posts leaves nothing out. -/
def posted (req : AuthCharacterCreateRequest) : CharacterCreateRequest :=
  ⟨req.sessionId, req.name, req.characterClass, some req.gender, some req.skinColor,
    some req.hairStyle, some req.hairColor, some req.underwearColor, some req.stats⟩

lemma createCharacter_posted (req : AuthCharacterCreateRequest) :
    createCharacter (posted req) = AuthHandlers.createCharacter req := rfl

/-- What the statements of a handler meet. -/
structure Conditions where
  inet : String → Option String
  now : Time
  newId : CharacterId
  /-- what others have done by the time of the statement -/
  before : Query → Database → Database
  /-- the statement fails, whatever is in the database -/
  failure : Query → Option String

namespace Conditions

def serve (k : Conditions) (q : Query) (db : Database) : Answer × Database :=
  match k.failure q with
  | some text => (.failed text, k.before q db)
  | none => q.run k.inet k.now k.newId (k.before q db)

/-- The response to a request, and the database after it. -/
def respond (k : Conditions) (req : CharacterCreateRequest) (db : Database) : Body × Database :=
  let (body, _, db') := (createCharacter req).runAlone k.serve () db
  (body, db')

/-- The request is answered that the character is created. -/
def Creates (k : Conditions) (req : CharacterCreateRequest) (db : Database)
    (summary : AuthCharacterSummary) (db' : Database) : Prop :=
  ∃ reason, k.respond req db = (.characterCreate ⟨true, some summary, reason⟩, db')

end Conditions

variable {k : Conditions} {req : CharacterCreateRequest} {db db' : Database}
  {summary : AuthCharacterSummary}

lemma runAlone_statement (serve : Query → Database → Answer × Database) (q : Query)
    (rest : Answer → AuthTask) (db : Database) :
    (statement q >>= rest).runAlone serve () db =
      (rest (serve q db).1).runAlone serve () (serve q db).2 := rfl

/-- A statement that is answered has run. -/
lemma Conditions.serve_eq_of_not_failed {q : Query} {answer : Answer}
    (h : k.serve q db = (answer, db')) (hok : ∀ text, answer ≠ .failed text) :
    q.run k.inet k.now k.newId (k.before q db) = (answer, db') := by
  unfold Conditions.serve at h
  split at h
  · cases h
    exact absurd rfl (hok _)
  · exact h

lemma createCharacter_of_run {inet : String → Option String} {now : Time} {newId : CharacterId}
    {accountId : AccountId} {params : NewCharacterParams} {c : Character}
    (h : Query.run inet now newId db (.createCharacter accountId params) =
      (.character (some c), db')) :
    db.createCharacter now newId accountId params = .ok (c, db') := by
  rcases hcreate : db.createCharacter now newId accountId params with err | ⟨c₁, db₁⟩
  · rw [Query.run, hcreate] at h
    cases err with
    | database err => cases h
    | message text => cases h
  · rw [Query.run, hcreate] at h
    cases h
    rfl

/-- Behind the answer is a statement that has inserted the character. -/
lemma Conditions.Creates.inserted (h : k.Creates req db summary db') :
    ∃ (accountId : AccountId) (db₁ : Database) (c : Character),
      db₁.createCharacter k.now k.newId accountId req.params = .ok (c, db') ∧
        summary = toCharacterSummary c := by
  obtain ⟨reason, h⟩ := h
  unfold Conditions.respond createCharacter withAccount at h
  rw [runAlone_statement] at h
  rcases hsession : k.serve (.getSessionAccount req.sessionId) db with ⟨answer, db₁⟩
  rw [hsession] at h
  cases answer with
  | sessionAccount accountId =>
    rcases accountId with _ | accountId
    · cases h
    dsimp only at h
    rw [runAlone_statement] at h
    rcases hcreate : k.serve (.createCharacter accountId req.params) db₁ with ⟨answer, db₂⟩
    rw [hcreate] at h
    cases answer with
    | character character =>
      rcases character with _ | character
      · cases h
      cases h
      have hrun := serve_eq_of_not_failed hcreate nofun
      exact ⟨accountId, _, character, createCharacter_of_run hrun, rfl⟩
    | _ => cases h
  | _ => cases h

/-! ### The name in its column -/

/-- A name without white space at its end is stored as it is, or not at all. -/
lemma eq_trim_of_varchar {n : ℕ} {text name : String} (h : varchar n (trim text) = .ok name) :
    name = trim text := by
  replace h := (varchar_eq_ok_iff.mp h).2
  unfold fitLength at h
  split at h
  · cases h
    rfl
  · next hlong =>
    split at h
    · next hblank =>
      -- what is too much would have to be blanks, and the name does not end in one
      rw [← String.length_toList] at hlong
      have hlast : ((trim text).toList.drop n).getLast? = (trim text).toList.getLast? := by
        rw [List.getLast?_drop, if_neg hlong]
      obtain ⟨c, hc⟩ : ∃ c, (trim text).toList.getLast? = some c := by
        refine Option.isSome_iff_exists.mp (List.getLast?_isSome.mpr fun hnil => ?_)
        rw [hnil] at hlong
        exact hlong (Nat.zero_le n)
      have hspace : c = ' ' := by
        have hmem := List.mem_of_getLast? (hlast.trans hc)
        simpa using List.all_eq_true.mp hblank c hmem
      have hnot := getLast_trim text c hc
      rw [hspace] at hnot
      cases hnot
    · cases h

/-! ### What is stored -/

/-- The character with that identifier. -/
def Stored (db : Database) (id : CharacterId) (row : CharacterRow) : Prop :=
  row ∈ db.characters.rows ∧ row.id = id

def RowWellFormed (row : CharacterRow) : Prop :=
  WellFormed row.name (CharacterStats.ofColumns row.stats)

/-- What a request has to take care of itself. -/
structure Acceptable (req : CharacterCreateRequest) : Prop where
  named : trim req.name ≠ ""
  fits : (trim req.name).utf8ByteSize ≤ 16
  inRange : ∀ stats, req.stats = some stats →
    ∀ p ∈ (CharacterStats.ofColumns stats).fields, InRange p.2

lemma Stored.unique {id : CharacterId} {row row' : CharacterRow} (h : Stored db id row)
    (h' : Stored db id row') : row = row' := by
  have hsymm : ∀ c c', characterClash c c' → characterClash c' c := by
    rintro c c' (hid | hname | ⟨hacc, hslot⟩)
    · exact .inl hid.symm
    · exact .inr (.inl hname.symm)
    · exact .inr (.inr ⟨hacc.symm, hslot.symm⟩)
  exact Table.eq_of_clash hsymm h.1 h'.1 (.inl (h.2.trans h'.2.symm))

/-- The character is stored as the request has it. -/
lemma Conditions.Creates.stored (h : k.Creates req db summary db') :
    ∃ row, Stored db' summary.characterId row ∧ row.name = trim req.name ∧
      row.stats = req.params.stats := by
  obtain ⟨accountId, db₁, c, hcreate, rfl⟩ := h.inserted
  obtain ⟨-, name, slot, m, characters, hname, -, -, hins, rfl, rfl⟩ :=
    createCharacter_eq_ok_iff.mp hcreate
  obtain rfl := eq_trim_of_varchar hname
  refine ⟨newRow k.now k.newId accountId req.params (trim req.name) slot m, ⟨?_, rfl⟩, rfl, rfl⟩
  rw [(Table.insert_eq_some_iff.mp hins).2]
  apply List.mem_append_right
  exact List.mem_singleton_self _

lemma trim_trim (s : String) : trim (trim s) = trim s :=
  trim_eq_iff.mpr ⟨head_trim s, getLast_trim s⟩

lemma inRange_default :
    ∀ p ∈ (CharacterStats.ofColumns (10, 10, 10, 10, 10, 10)).fields, InRange p.2 := by
  decide

lemma inRange_params :
    (∀ p ∈ (CharacterStats.ofColumns req.params.stats).fields, InRange p.2) ↔
      ∀ stats, req.stats = some stats →
        ∀ p ∈ (CharacterStats.ofColumns stats).fields, InRange p.2 := by
  unfold CharacterCreateRequest.params
  rcases req.stats with _ | stats
  · exact iff_of_true inRange_default nofun
  · simp

lemma wellFormed_params :
    WellFormed (trim req.name) (CharacterStats.ofColumns req.params.stats) ↔ Acceptable req := by
  constructor
  · exact fun h => ⟨h.nonempty, h.fits, inRange_params.mp h.inRange⟩
  · exact fun h => ⟨trim_trim _, h.named, h.fits, inRange_params.mpr h.inRange⟩

lemma Conditions.Creates.wellFormed_iff {row : CharacterRow} (h : k.Creates req db summary db')
    (hrow : Stored db' summary.characterId row) : RowWellFormed row ↔ Acceptable req := by
  obtain ⟨row', hrow', hname, hstats⟩ := h.stored
  rw [hrow.unique hrow', RowWellFormed, hname, hstats, wellFormed_params]

/-- **Characters that are created** are well formed exactly when the request has a name that is not
blank and not too long, and stats, if it has any, that are in range. -/
theorem created_wellFormed_iff (h : k.Creates req db summary db') :
    (∃! row, Stored db' summary.characterId row) ∧
      ((∀ row, Stored db' summary.characterId row → RowWellFormed row) ↔ Acceptable req) := by
  obtain ⟨row, hrow, -⟩ := h.stored
  refine ⟨⟨row, hrow, fun row' hrow' => hrow'.unique hrow⟩, ?_⟩
  constructor
  · intro hall
    exact (h.wellFormed_iff hrow).mp (hall row hrow)
  · intro hacc row' hrow'
    exact (h.wellFormed_iff hrow').mpr hacc

/-- A session of the account of the fixture. -/
def loggedInFixture : Database :=
  { Database.fixture with
    sessions := ⟨[⟨.fill 2, some (.fill 1), none, "gateway", none, "authenticated", 0, none, 60,
      none⟩], List.pairwise_singleton _ _⟩ }

/-- A database that is up, with nobody else around. -/
def alone : Conditions := ⟨some, 0, .fill 3, fun _ db => db, fun _ => none⟩

/-- A request of that session without an appearance. -/
def bare (name : String) (stats : Option (Int16 × Int16 × Int16 × Int16 × Int16 × Int16)) :
    CharacterCreateRequest :=
  ⟨.fill 2, name, "warrior", none, none, none, none, none, stats⟩

theorem created_wellFormed_iff_aresden :
    ∃! row, Stored (alone.respond (bare " Aresden" none) loggedInFixture).2 (.fill 3) row ∧
      RowWellFormed row := by
  have hcreates : alone.Creates (bare " Aresden" none) loggedInFixture
      ⟨.fill 3, "Aresden", "warrior", 1, 100, 100, 1⟩
      (alone.respond (bare " Aresden" none) loggedInFixture).2 := ⟨none, rfl⟩
  have hacc : Acceptable (bare " Aresden" none) := ⟨by decide, by decide, nofun⟩
  obtain ⟨⟨row, hrow, hunique⟩, hiff⟩ := created_wellFormed_iff hcreates
  exact ⟨row, ⟨hrow, hiff.mpr hacc row hrow⟩, fun row' hrow' => hunique row' hrow'.1⟩

/-- The request is answered that the character is created, and what is stored is ill formed. -/
def CreatesIllFormed (req : CharacterCreateRequest) : Prop :=
  ∃ summary db' row, alone.Creates req loggedInFixture summary db' ∧
    Stored db' summary.characterId row ∧ ¬ RowWellFormed row

lemma createsIllFormed (h : alone.Creates req loggedInFixture summary db')
    (hno : ¬ Acceptable req) : CreatesIllFormed req := by
  obtain ⟨row, hrow, -⟩ := h.stored
  exact ⟨summary, db', row, h, hrow, fun hwell => hno ((h.wellFormed_iff hrow).mp hwell)⟩

/-- A blank name, nine characters of two bytes each, and a stat that is out of range. -/
theorem illFormed_created :
    CreatesIllFormed (bare "  " none) ∧ CreatesIllFormed (bare "ééééééééé" none) ∧
      CreatesIllFormed (bare "Aresden" (some (10, 10, 10, 10, 10, 300))) := by
  have hblank : alone.Creates (bare "  " none) loggedInFixture
      ⟨.fill 3, "", "warrior", 1, 100, 100, 1⟩ _ := ⟨none, rfl⟩
  have hlong : alone.Creates (bare "ééééééééé" none) loggedInFixture
      ⟨.fill 3, "ééééééééé", "warrior", 1, 100, 100, 1⟩ _ := ⟨none, rfl⟩
  have hstats : alone.Creates (bare "Aresden" (some (10, 10, 10, 10, 10, 300))) loggedInFixture
      ⟨.fill 3, "Aresden", "warrior", 1, 100, 100, 1⟩ _ := ⟨none, rfl⟩
  refine ⟨createsIllFormed hblank fun h => h.named (by decide), createsIllFormed hlong fun h => ?_,
    createsIllFormed hstats fun h => ?_⟩
  · exact absurd h.fits (by decide)
  · exact absurd (h.inRange _ rfl) (by decide)

/-! ### Characters after any calls -/

def AllWellFormed (db : Database) : Prop := ∀ row ∈ db.characters.rows, RowWellFormed row

/-- The call makes no character, or one that an acceptable request has asked for. -/
def AcceptableCall : CharacterCall → Prop
  | .create _ _ _ params => ∃ req, Acceptable req ∧ params = req.params
  | .delete .. => True

lemma allWellFormed_characterCall {call : CharacterCall} (hcall : AcceptableCall call)
    (h : AllWellFormed db) : AllWellFormed (db.characterCall call) := by
  cases call with
  | create now newId accountId params =>
    obtain ⟨req, hacc, rfl⟩ := hcall
    rw [characterCall]
    split
    · next c db₁ hok =>
      obtain ⟨-, name, slot, m, characters, hname, -, -, hins, -, rfl⟩ :=
        createCharacter_eq_ok_iff.mp hok
      intro row hrow
      rw [(Table.insert_eq_some_iff.mp hins).2, List.mem_append, List.mem_singleton] at hrow
      rcases hrow with hrow | rfl
      · exact h row hrow
      · rw [eq_trim_of_varchar hname]
        exact wellFormed_params.mpr hacc
    · exact h
  | delete now accountId characterId =>
    have hmarked : AllWellFormed (db.markDeleted now accountId characterId).2 := by
      intro row hrow
      rw [rows_markDeleted] at hrow
      obtain ⟨row', hrow', rfl⟩ := List.mem_map.mp hrow
      split
      · exact h row' hrow'
      · exact h row' hrow'
    simp only [characterCall, Database.deleteCharacter]
    split
    · exact hmarked
    · exact hmarked

/-- **The store stays well formed**, as long as every creation comes from an acceptable request. -/
theorem allWellFormed_foldl (calls : List CharacterCall) (hcalls : ∀ call ∈ calls,
    AcceptableCall call) (h : AllWellFormed db) : AllWellFormed (calls.foldl characterCall db) :=
  List.foldlRecOn calls characterCall h fun _ h call hmem =>
    allWellFormed_characterCall (hcalls call hmem) h

/-! ### Characters of the gateway -/

/-- A creation that comes out has been parsed as one. -/
def CreationParsed (bytes : Frame.Bytes) (x : Parse ClientCommand) : Prop :=
  ∀ payload, x = .ok (.characterCreate payload) → parseCharacterCreatePayload bytes = .ok payload

section CreationParsed

variable {bytes : Frame.Bytes} {x y : Parse ClientCommand} {α : Type}

lemma CreationParsed.ite {c : Prop} [Decidable c] (hx : CreationParsed bytes x)
    (hy : CreationParsed bytes y) : CreationParsed bytes (if c then x else y) := by
  split
  · exact hx
  · exact hy

/-- Another command does not come out as a creation. -/
lemma creationParsed_other {parse : Parse α} {command : α → ClientCommand}
    (h : ∀ a payload, command a ≠ .characterCreate payload) :
    CreationParsed bytes (do .ok (command (← parse))) := by
  intro payload hok
  obtain ⟨a, -, ha⟩ := MayPanic.except_bind_eq_ok_iff.mp hok
  exact absurd (Except.ok.inj ha) (h a payload)

lemma creationParsed_parseCommand (parseStr : String → Option Uuid) (op : OpcodeMatrix)
    (opcode : UInt16) : CreationParsed bytes (parseCommand parseStr op opcode bytes) := by
  unfold parseCommand
  refine .ite (creationParsed_other nofun) <| .ite nofun <| .ite ?create <|
    .ite (creationParsed_other nofun) <| .ite (creationParsed_other nofun) <| .ite nofun <|
    .ite ?move <| .ite (creationParsed_other nofun) <| .ite ?castSkill <|
    .ite (creationParsed_other nofun) <| .ite ?dropItem <| .ite ?useItem <|
    .ite (creationParsed_other nofun) <| .ite (creationParsed_other nofun) <|
    .ite (creationParsed_other nofun) <| .ite (creationParsed_other nofun) <| .ite nofun <|
    .ite nofun nofun
  case create =>
    intro payload hok
    obtain ⟨p, hp, hok⟩ := MayPanic.except_bind_eq_ok_iff.mp hok
    cases hok
    exact hp
  case move => split <;> exact nofun
  case castSkill =>
    split
    · dsimp only
      exact .ite (creationParsed_other nofun) (creationParsed_other nofun)
    · exact nofun
  case dropItem => split <;> exact nofun
  case useItem => split <;> exact nofun

end CreationParsed

/-- Every creation starts with the same stats. -/
lemma stats_of_parse {bytes : Frame.Bytes} {payload : CharacterCreatePayload}
    (h : parseCharacterCreatePayload bytes = .ok payload) :
    payload.stats = (10, 10, 10, 10, 10, 10) := by
  unfold parseCharacterCreatePayload at h
  split at h
  · obtain ⟨name, -, h⟩ := MayPanic.except_bind_eq_ok_iff.mp h
    cases h
    rfl
  · cases h

/-- **What the gateway posts** for a command that it has translated is acceptable. -/
theorem acceptable_of_translate {parseStr : String → Option Uuid} {packet : Frame.DecodedPacket}
    {sessionPhase : SessionPhase} {version : ProtocolVersion} {command : ClientCommand}
    (h : translatePacketForVersion parseStr packet sessionPhase version = .ok command)
    (s : SessionId) (hint : Option MapId) :
    (Router.routeClientCommand s hint command).Asks fun q =>
      ∀ req, q = .authCharacterCreate req → Acceptable (posted req) := by
  obtain ⟨command', hparse, h⟩ := MayPanic.except_bind_eq_ok_iff.mp h
  obtain rfl : command' = command := by
    split at h
    · exact Except.ok.inj h
    · cases h
  refine WireFormat.asks_routeClientCommand_of nofun ?_ fun q _ hq req he => absurd he (hq req)
  rintro payload rfl
  refine ⟨fun req he => ?_, fun _ => trivial⟩
  obtain rfl := BackendRequest.authCharacterCreate.inj he
  have hname : Clean 16 payload.name :=
    clean_parseCommand parseStr hparse (16, payload.name) (List.mem_singleton_self _)
  have hstats := stats_of_parse (creationParsed_parseCommand parseStr _ _ payload hparse)
  refine ⟨?_, ?_, ?_⟩
  · exact hname.trim_eq.symm ▸ hname.nonempty
  · exact hname.trim_eq.symm ▸ hname.fits
  · rintro stats ⟨⟩
    exact hstats ▸ inRange_default

end HelbreathBackend.CharacterCreation
