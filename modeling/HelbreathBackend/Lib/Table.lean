import Mathlib.Data.List.Basic
import Mathlib.Data.List.Pairwise
import Mathlib.Tactic.Common

/-!
Tables of a relational database.

A table is a list of rows, each with the key that its uniqueness constraints look at, and no
two rows of a table clash. An insertion that would clash is refused; an update that leaves the
keys alone cannot clash.
-/

namespace HelbreathBackend.Lib

/-- Rows of which no two have clashing keys. -/
structure Table (α : Type*) {κ : Type*} (key : α → κ) (clash : κ → κ → Prop) where
  rows : List α
  apart : rows.Pairwise fun a b => ¬ clash (key a) (key b)

namespace Table

variable {α κ : Type*} {key : α → κ} {clash : κ → κ → Prop}

def empty : Table α key clash := ⟨[], List.Pairwise.nil⟩

lemma ext {t t' : Table α key clash} (h : t.rows = t'.rows) : t = t' := by
  cases t
  cases t'
  cases h
  rfl

/-! ### Insertions -/

/-- Add a row, unless it clashes with one that is there. -/
def insert [DecidableRel clash] (t : Table α key clash) (a : α) : Option (Table α key clash) :=
  if h : ∀ b ∈ t.rows, ¬ clash (key b) (key a) then
    some ⟨t.rows ++ [a], List.pairwise_append.mpr ⟨t.apart, List.pairwise_singleton _ _,
      fun b hb c hc => by rw [List.mem_singleton.mp hc]; exact h b hb⟩⟩
  else none

variable [DecidableRel clash] {t t' : Table α key clash} {a : α}

lemma insert_eq_some_iff :
    t.insert a = some t' ↔
      (∀ b ∈ t.rows, ¬ clash (key b) (key a)) ∧ t'.rows = t.rows ++ [a] := by
  unfold insert
  split
  · next h =>
    rw [Option.some_inj]
    refine ⟨fun he => ⟨h, by rw [← he]⟩, fun he => ext he.2.symm⟩
  · next h => exact iff_of_false (fun he => by cases he) fun he => h he.1

lemma insert_isSome_iff :
    (t.insert a).isSome ↔ ∀ b ∈ t.rows, ¬ clash (key b) (key a) := by
  unfold insert
  split
  · next h => exact iff_of_true rfl h
  · next h => exact iff_of_false (by simp) h

/-! ### Updates -/

omit [DecidableRel clash]

/-- Change the rows that satisfy `p`, without changing their keys. -/
def update (t : Table α key clash) (p : α → Bool) (f : α → α) (hf : ∀ a, key (f a) = key a) :
    Table α key clash where
  rows := t.rows.map fun a => if p a then f a else a
  apart := by
    have hkey : ∀ a, key (if p a then f a else a) = key a := by
      intro a
      split
      · exact hf a
      · rfl
    refine List.pairwise_map.mpr (t.apart.imp fun h => ?_)
    rwa [hkey, hkey]

/-- An update keeps what holds of all rows exactly when the rows it changes still satisfy it. -/
lemma forall_updated_iff {l : List α} {p : α → Bool} {f : α → α} {P : α → Prop}
    (h : ∀ a ∈ l, P a) :
    (∀ b ∈ l.map (fun a => if p a then f a else a), P b) ↔ ∀ a ∈ l, p a = true → P (f a) := by
  rw [List.forall_mem_map]
  refine forall₂_congr fun a ha => ?_
  split
  · next hp => exact ⟨fun hP _ => hP, fun hP => hP hp⟩
  · next hp => exact iff_of_true (h a ha) fun hp' => absurd hp' hp

/-- A row after an update comes from one before it. -/
lemma exists_updated_iff {l : List α} {p : α → Bool} {f : α → α} {P : α → Prop} :
    (∃ b ∈ l.map (fun a => if p a then f a else a), P b) ↔
      ∃ a ∈ l, (p a = true ∧ P (f a)) ∨ (p a = false ∧ P a) := by
  simp only [List.mem_map, exists_exists_and_eq_and]
  refine exists_congr fun a => and_congr_right fun _ => ?_
  cases p a <;> simp

/-! ### Rows that cannot be two -/

/-- Two rows of a table whose keys clash are one. -/
lemma eq_of_clash (hsymm : ∀ k k', clash k k' → clash k' k) {a b : α} (ha : a ∈ t.rows)
    (hb : b ∈ t.rows) (h : clash (key a) (key b)) : a = b := by
  by_contra hne
  have hsym : Std.Symm fun a b : α => ¬ clash (key a) (key b) :=
    ⟨fun a b hab hba => hab (hsymm _ _ hba)⟩
  exact t.apart.forall ha hb hne h

end Table

end HelbreathBackend.Lib
