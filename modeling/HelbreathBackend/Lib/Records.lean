import Mathlib.Data.List.Nodup
import Mathlib.Tactic.Common

/-!
Records and tagged unions as fields in order.

A record is written as the list of its fields, a name and a value each. It is read field by
field: a name may be missing and may not occur twice, and fields of other names are passed
over. A flattened record stands among the fields of the one around it, and is read from those
which that one has no use for. A union is written as the fields of one of its variants, behind
the name of the variant under a tag.
-/

namespace HelbreathBackend.Lib

abbrev Fields (V : Type) := List (String × V)

namespace Fields

variable {V α : Type}

/-! ### Reading fields -/

/-- The values under a name. -/
def under (name : String) : Fields V → List V
  | [] => []
  | f :: fs => if f.1 = name then f.2 :: under name fs else under name fs

/-- What is under a name, if anything is. It fails on a value that cannot be read, and on a name
that occurs twice. -/
def field (read : V → Option α) (name : String) (fs : Fields V) : Option (Option α) :=
  match under name fs with
  | [] => some none
  | [v] => (read v).map some
  | _ => none

def required (read : V → Option α) (name : String) (fs : Fields V) : Option α :=
  (fs.field read name).join

def defaulted (read : V → Option α) (default : α) (name : String) (fs : Fields V) : Option α :=
  (fs.field read name).map fun a => a.getD default

/-- The fields that have none of the names. -/
def rest (names : List String) (fs : Fields V) : Fields V := fs.filter fun f => f.1 ∉ names

def names (fs : Fields V) : List String := fs.map Prod.fst

lemma under_of_notMem {fs : Fields V} {name : String} (h : name ∉ fs.names) :
    under name fs = [] := by
  induction fs with
  | nil => rfl
  | cons f fs ih =>
    obtain ⟨hne, h⟩ := not_or.mp (mt List.mem_cons.mpr h)
    rw [under, if_neg (Ne.symm hne), ih h]

lemma under_of_mem {fs : Fields V} {name : String} {v : V} (hnd : fs.names.Nodup)
    (h : (name, v) ∈ fs) : under name fs = [v] := by
  induction fs with
  | nil => cases h
  | cons f fs ih =>
    obtain ⟨hf, hnd⟩ := List.nodup_cons.mp hnd
    rcases List.mem_cons.mp h with rfl | h
    · rw [under, if_pos rfl, under_of_notMem hf]
    · have hmem : name ∈ names fs := List.mem_map_of_mem h
      have hne : f.1 ≠ name := fun heq => hf (heq ▸ hmem)
      rw [under, if_neg hne, ih hnd h]

/-- A field that is there is read. -/
theorem field_of_mem {read : V → Option α} {fs : Fields V} {name : String} {v : V}
    (hnd : fs.names.Nodup) (h : (name, v) ∈ fs) : fs.field read name = (read v).map some := by
  rw [field, under_of_mem hnd h]

theorem required_of_mem {read : V → Option α} {fs : Fields V} {name : String} {v : V} {a : α}
    (hnd : fs.names.Nodup) (h : (name, v) ∈ fs) (hread : read v = some a) :
    fs.required read name = some a := by
  rw [required, field_of_mem hnd h, hread]
  rfl

theorem defaulted_of_mem {read : V → Option α} {default : α} {fs : Fields V} {name : String}
    {v : V} {a : α} (hnd : fs.names.Nodup) (h : (name, v) ∈ fs) (hread : read v = some a) :
    fs.defaulted read default name = some a := by
  rw [defaulted, field_of_mem hnd h, hread]
  rfl

/-! ### Flattening -/

/-- The fields of a flattened record are what the record around it leaves over. -/
theorem rest_append {ns : List String} {outer inner : Fields V}
    (houter : ∀ n ∈ outer.names, n ∈ ns) (hinner : ∀ n ∈ inner.names, n ∉ ns) :
    (outer ++ inner).rest ns = inner := by
  have hleft : outer.rest ns = [] := List.filter_eq_nil_iff.mpr fun f hf => by
    simpa using houter f.1 (List.mem_map_of_mem hf)
  have hright : inner.rest ns = inner := List.filter_eq_self.mpr fun f hf => by
    simpa using hinner f.1 (List.mem_map_of_mem hf)
  rw [rest, List.filter_append]
  change outer.rest ns ++ inner.rest ns = inner
  rw [hleft, hright, List.nil_append]

/-! ### Tagged unions -/

/-- What is known of a variant: its name, and how its fields are read. -/
abbrev Variants (V α : Type) := List (String × (Fields V → Option α))

def readTagged (tag : String) (readName : V → Option String) (variants : Variants V α)
    (fs : Fields V) : Option α := do
  let name ← fs.required readName tag
  let variant ← variants.find? fun v => v.1 = name
  variant.2 (fs.rest [tag])

lemma find?_of_mem {variants : Variants V α} {v : String × (Fields V → Option α)}
    (hnd : (variants.map Prod.fst).Nodup) (h : v ∈ variants) :
    (variants.find? fun w => w.1 = v.1) = some v := by
  induction variants with
  | nil => cases h
  | cons w ws ih =>
    obtain ⟨hw, hnd⟩ := List.nodup_cons.mp hnd
    rcases List.mem_cons.mp h with rfl | h
    · exact List.find?_cons_of_pos (decide_eq_true rfl)
    · have hne : w.1 ≠ v.1 := fun heq => hw (heq ▸ List.mem_map_of_mem h)
      rw [List.find?_cons_of_neg (by simpa using hne)]
      exact ih hnd h

/-- **A variant is read back** from its own fields, whatever the others are called. -/
theorem readTagged_tagged {tag name : String} {readName : V → Option String}
    {variants : Variants V α} {read : Fields V → Option α} {v : V} {fs : Fields V}
    (hvariants : (variants.map Prod.fst).Nodup) (hmem : (name, read) ∈ variants)
    (hname : readName v = some name) (hnd : (names ((tag, v) :: fs)).Nodup) :
    readTagged tag readName variants ((tag, v) :: fs) = read fs := by
  have htag : tag ∉ fs.names := (List.nodup_cons.mp hnd).1
  have hrest : rest [tag] ((tag, v) :: fs) = fs := by
    have hinner : ∀ n ∈ fs.names, n ∉ [tag] := by
      intro n hn hn'
      obtain rfl := List.mem_singleton.mp hn'
      exact htag hn
    have houter : ∀ n ∈ names [(tag, v)], n ∈ [tag] := fun n hn => hn
    exact rest_append houter hinner
  rw [readTagged, required_of_mem hnd List.mem_cons_self hname, Option.bind_eq_bind,
    Option.bind_some, find?_of_mem hvariants hmem, Option.bind_eq_bind, Option.bind_some, hrest]

end Fields

end HelbreathBackend.Lib
