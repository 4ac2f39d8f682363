import Mathlib.Data.List.Basic

/-!
The identifiers and enumerations that every service of the backend shares.

A `Uuid` is its sixteen bytes; two identifiers are equal when their bytes are. The map
identifier of the source is an `i32`, and so it is here.
-/

namespace HelbreathBackend.Domain

/-- A universally unique identifier: sixteen bytes. -/
structure Uuid where
  bytes : List UInt8
  length_eq : bytes.length = 16
  deriving DecidableEq

/-- The identifier whose bytes are all `b`. -/
def Uuid.fill (b : UInt8) : Uuid := ⟨List.replicate 16 b, by simp⟩

/-- The text of an identifier: lower case, hyphens after bytes 4, 6, 8 and 10. -/
def Uuid.format (u : Uuid) : String :=
  let digit (n : ℕ) : Char := Nat.digitChar n
  let hex (bs : List UInt8) : List Char :=
    bs.flatMap fun b => [digit (b.toNat / 16), digit (b.toNat % 16)]
  let part (i n : ℕ) : List Char := hex ((u.bytes.drop i).take n)
  String.ofList (List.intercalate ['-'] [part 0 4, part 4 2, part 6 2, part 8 2, part 10 6])

lemma length_intercalate_five (s : Char) (a b c d e : List Char) :
    (List.intercalate [s] [a, b, c, d, e]).length =
      a.length + b.length + c.length + d.length + e.length + 4 := by
  simp [List.intercalate]
  omega

lemma Uuid.length_format (u : Uuid) : u.format.length = 36 := by
  have hlen := u.length_eq
  unfold Uuid.format
  simp only [String.length_ofList, length_intercalate_five, List.length_flatMap, List.length_cons,
    List.length_nil, List.map_const', List.sum_replicate_nat, List.length_take, List.length_drop,
    hlen]
  rfl

abbrev AccountId := Uuid
abbrev SessionId := Uuid
abbrev CharacterId := Uuid
abbrev EntityId := Uuid
abbrev MapId := Int32

inductive SessionState
  | connecting
  | authenticated
  | inCharacterList
  | inWorld
  | closed
  deriving DecidableEq

inductive CharacterClass
  | warrior
  | mage
  | archer
  deriving DecidableEq

end HelbreathBackend.Domain
