import HelbreathBackend.CleanText
import HelbreathBackend.Infrastructure

/-!
The rules of a character.

The domain checks a name when a character is made, and its six stats on demand. A character that
passes the checks unchanged is well formed.
-/

namespace HelbreathBackend.CharacterRules

open HelbreathBackend.Domain HelbreathBackend.Application HelbreathBackend.Translate
open HelbreathBackend.Infrastructure HelbreathBackend.Infrastructure.Database

inductive DomainError
  | emptyField (field : String)
  | fieldTooLong (field : String) (max : ℕ)
  | invalidStatValue (field : String)
  deriving DecidableEq

def DomainError.text : DomainError → String
  | .emptyField field => s!"{field} cannot be empty"
  | .fieldTooLong field max => s!"{field} exceeds max length {max}"
  | .invalidStatValue field => s!"invalid stat value for {field}"

def normalizedText (value field : String) (max : ℕ) : Except DomainError String :=
  let cleaned := trim value
  if cleaned = "" then .error (.emptyField field)
  else if max < cleaned.utf8ByteSize then .error (.fieldTooLong field max)
  else .ok cleaned

/-- `(1..=255).contains(..)`. -/
def InRange (value : Int16) : Prop := 1 ≤ value ∧ value ≤ 255

instance : DecidablePred InRange := fun value =>
  inferInstanceAs (Decidable (1 ≤ value ∧ value ≤ 255))

structure CharacterStats where
  strength : Int16
  vitality : Int16
  dexterity : Int16
  intelligence : Int16
  magic : Int16
  charisma : Int16
  deriving DecidableEq

namespace CharacterStats

def fields (stats : CharacterStats) : List (String × Int16) :=
  [("strength", stats.strength), ("vitality", stats.vitality), ("dexterity", stats.dexterity),
    ("intelligence", stats.intelligence), ("magic", stats.magic), ("charisma", stats.charisma)]

def validate (stats : CharacterStats) : Except DomainError Unit :=
  forM stats.fields fun p =>
    if ¬ InRange p.2 then .error (.invalidStatValue p.1) else .ok ()

/-- Six values in the order of the columns. -/
def ofColumns : Int16 × Int16 × Int16 × Int16 × Int16 × Int16 → CharacterStats
  | (str, vit, dex, int, mag, chr) => ⟨str, vit, dex, int, mag, chr⟩

end CharacterStats

/-- `Character::new`. -/
def newCharacter (newId : CharacterId) (now : Time) (accountId : AccountId) (name : String)
    (characterClass : CharacterClass) (mapId : MapId) : Except DomainError Character := do
  let stats : CharacterStats := ⟨10, 10, 10, 10, 10, 10⟩
  stats.validate
  let name ← normalizedText name "character_name" 16
  pure ⟨newId, accountId, name, characterClass, mapId, 0, 0, 1, 0, 100, 50, 50,
    (stats.strength, stats.vitality, stats.dexterity, stats.intelligence, stats.magic,
      stats.charisma), now, now⟩

/-! ### What the checks accept -/

lemma normalizedText_eq_ok_iff {value field text : String} {max : ℕ} :
    normalizedText value field max = .ok text ↔
      text = trim value ∧ text ≠ "" ∧ text.utf8ByteSize ≤ max := by
  unfold normalizedText
  dsimp only
  split
  · next hempty =>
    refine iff_of_false nofun ?_
    rintro ⟨rfl, hne, -⟩
    exact hne hempty
  · next hne =>
    split
    · next hlong =>
      refine iff_of_false nofun ?_
      rintro ⟨rfl, -, hfits⟩
      omega
    · next hfits =>
      rw [Except.ok.injEq]
      constructor
      · rintro rfl
        exact ⟨rfl, hne, by omega⟩
      · exact fun h => h.1.symm

/-- A loop of checks ends with the first that fails. -/
lemma forM_check {α ε : Type} (P : α → Prop) [DecidablePred P] (err : α → ε) (l : List α) :
    (forM l fun a => if ¬ P a then Except.error (err a) else .ok ()) =
      (l.find? fun a => ¬ P a).elim (.ok ()) fun a => .error (err a) := by
  induction l with
  | nil => rfl
  | cons a l ih =>
    rw [List.forM_cons]
    by_cases ha : P a
    · rw [if_neg (not_not.mpr ha), List.find?_cons_of_neg (by simpa using ha), ← ih]
      rfl
    · rw [if_pos ha, List.find?_cons_of_pos (by simpa using ha)]
      rfl

namespace CharacterStats

variable {stats : CharacterStats}

lemma validate_eq (stats : CharacterStats) :
    stats.validate = (stats.fields.find? fun p => ¬ InRange p.2).elim (.ok ())
      fun p => .error (.invalidStatValue p.1) :=
  forM_check (fun p : String × Int16 => InRange p.2)
    (fun p => DomainError.invalidStatValue p.1) stats.fields

lemma validate_eq_ok_iff : stats.validate = .ok () ↔ ∀ p ∈ stats.fields, InRange p.2 := by
  rw [validate_eq]
  rcases hfind : stats.fields.find? fun p => ¬ InRange p.2 with _ | p
  · rw [hfind]
    refine iff_of_true rfl fun p hp => ?_
    simpa using List.find?_eq_none.mp hfind p hp
  · rw [hfind]
    have hp := List.find?_some hfind
    exact iff_of_false nofun fun h => of_decide_eq_true hp (h p (List.mem_of_find?_eq_some hfind))

/-- **The error names a stat that is out of range**, and those before it are not. -/
theorem validate_eq_error_iff {err : DomainError} :
    stats.validate = .error err ↔ ∃ front field value rest,
      stats.fields = front ++ (field, value) :: rest ∧ (∀ p ∈ front, InRange p.2) ∧
        ¬ InRange value ∧ err = .invalidStatValue field := by
  rw [validate_eq]
  constructor
  · intro h
    rcases hfind : stats.fields.find? fun p => ¬ InRange p.2 with _ | p
    · rw [hfind] at h
      cases h
    · rw [hfind] at h
      cases h
      obtain ⟨hout, front, rest, hfields, hfront⟩ := List.find?_eq_some_iff_append.mp hfind
      exact ⟨front, p.1, p.2, rest, hfields, by simpa using hfront, of_decide_eq_true hout, rfl⟩
  · rintro ⟨front, field, value, rest, hfields, hfront, hout, rfl⟩
    have hfind : (stats.fields.find? fun p => ¬ InRange p.2) = some (field, value) :=
      List.find?_eq_some_iff_append.mpr
        ⟨decide_eq_true hout, front, rest, hfields, by simpa using hfront⟩
    rw [hfind]
    rfl

end CharacterStats

/-! ### Well-formed characters -/

/-- What the domain holds to be a character. -/
structure WellFormed (name : String) (stats : CharacterStats) : Prop where
  trimmed : trim name = name
  nonempty : name ≠ ""
  fits : name.utf8ByteSize ≤ 16
  inRange : ∀ p ∈ stats.fields, InRange p.2

/-- **Well-formed is what passes the checks** as it is. -/
theorem wellFormed_iff {name : String} {stats : CharacterStats} (newId : CharacterId) (now : Time)
    (accountId : AccountId) (characterClass : CharacterClass) (mapId : MapId) :
    WellFormed name stats ↔
      (∃ c, newCharacter newId now accountId name characterClass mapId = .ok c ∧ c.name = name) ∧
        stats.validate = .ok () := by
  have hnew : (∃ c, newCharacter newId now accountId name characterClass mapId = .ok c ∧
      c.name = name) ↔ normalizedText name "character_name" 16 = .ok name := by
    have hstats : newCharacter newId now accountId name characterClass mapId =
        (normalizedText name "character_name" 16).map fun name =>
          ⟨newId, accountId, name, characterClass, mapId, 0, 0, 1, 0, 100, 50, 50,
            (10, 10, 10, 10, 10, 10), now, now⟩ := rfl
    rw [hstats]
    rcases normalizedText name "character_name" 16 with err | cleaned
    · exact iff_of_false (fun ⟨_, h, _⟩ => nomatch h) nofun
    · constructor
      · rintro ⟨_, ⟨⟩, rfl⟩
        rfl
      · rintro ⟨⟩
        exact ⟨_, rfl, rfl⟩
  rw [hnew, normalizedText_eq_ok_iff, CharacterStats.validate_eq_ok_iff]
  constructor
  · exact fun h => ⟨⟨h.trimmed.symm, h.nonempty, h.fits⟩, h.inRange⟩
  · exact fun ⟨⟨htrim, hne, hfits⟩, hrange⟩ => ⟨htrim.symm, hne, hfits, hrange⟩

end HelbreathBackend.CharacterRules
