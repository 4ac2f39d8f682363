import Mathlib.Data.Finmap
import Mathlib.Algebra.BigOperators.Group.Finset.Basic

/-!
Finite maps with one type of values, and counting in them.

Mathlib's `Finmap` is the map; here are the operations it lacks that a hash map of a
program has (keeping the entries that satisfy a test, updating a present entry), and the
fibres of a map: the keys that have a given value. A tally of a map is a map of counters
that gives, for every value, the size of its fibre.
-/

namespace HelbreathBackend.Lib

/-- Finite maps from `α` to `β`. -/
abbrev FMap (α β : Type*) := Finmap fun _ : α => β

namespace FMap

variable {α β : Type*} [DecidableEq α]

lemma insert_lookup {a : α} {b : β} {f : FMap α β} (h : f.lookup a = some b) :
    f.insert a b = f := by
  refine Finmap.ext_lookup fun x => ?_
  by_cases hx : x = a
  · subst hx; rw [Finmap.lookup_insert, h]
  · rw [Finmap.lookup_insert_of_ne _ hx]

/-- The value of a key after an insertion. -/
lemma lookup_insert_eq (f : FMap α β) (a x : α) (b : β) :
    (f.insert a b).lookup x = if x = a then some b else f.lookup x := by
  split
  · next h => subst h; exact Finmap.lookup_insert _
  · next h => exact Finmap.lookup_insert_of_ne _ h

lemma lookup_erase_eq (f : FMap α β) (a x : α) :
    (f.erase a).lookup x = if x = a then none else f.lookup x := by
  split
  · next h => subst h; exact Finmap.lookup_erase _ _
  · next h => exact Finmap.lookup_erase_ne h

/-- An entry after an insertion is the one that is inserted, or was there. -/
lemma lookup_insert_cases {f : FMap α β} {a x : α} {b c : β}
    (h : (f.insert a b).lookup x = some c) : (x = a ∧ b = c) ∨ (x ≠ a ∧ f.lookup x = some c) := by
  rw [lookup_insert_eq] at h
  split at h
  · next hx => exact .inl ⟨hx, Option.some.inj h⟩
  · next hx => exact .inr ⟨hx, h⟩

lemma lookup_of_erase {f : FMap α β} {a x : α} {c : β} (h : (f.erase a).lookup x = some c) :
    x ≠ a ∧ f.lookup x = some c := by
  rw [lookup_erase_eq] at h
  split at h
  · cases h
  · next hx => exact ⟨hx, h⟩

/-- Keep the entries that satisfy `p`. -/
def retain (p : α → β → Bool) (f : FMap α β) : FMap α β where
  entries := f.entries.filter fun e => p e.1 e.2
  nodupKeys := by
    refine Multiset.nodup_keys.mp (Multiset.nodup_of_le ?_ f.nodupKeys.nodup_keys)
    exact Multiset.map_le_map (Multiset.filter_le _ _)

lemma lookup_retain (p : α → β → Bool) (f : FMap α β) (a : α) :
    (retain p f).lookup a = (f.lookup a).filter (p a) := by
  refine Option.ext fun b => ?_
  rw [Option.filter_eq_some_iff, Finmap.lookup_eq_some_iff, Finmap.lookup_eq_some_iff]
  simp [retain]

/-- Change the value of `a`, if it has one. -/
def modify (f : FMap α β) (a : α) (g : β → β) : FMap α β :=
  match f.lookup a with
  | some b => f.insert a (g b)
  | none => f

lemma lookup_modify (f : FMap α β) (a x : α) (g : β → β) :
    (modify f a g).lookup x = if x = a then (f.lookup a).map g else f.lookup x := by
  rw [modify]
  split
  · next b h => rw [lookup_insert_eq, h]; rfl
  · next h =>
    split
    · next hx => subst hx; rw [h]; rfl
    · rfl

lemma keys_insert (f : FMap α β) (a : α) (b : β) : (f.insert a b).keys = insert a f.keys := by
  ext x
  rw [Finmap.mem_keys, Finmap.mem_insert, Finset.mem_insert, Finmap.mem_keys]

/-- Giving a present key a new value keeps the keys. -/
lemma keys_insert_present {f : FMap α β} {a : α} {b : β} (h : f.lookup a = some b) (c : β) :
    (f.insert a c).keys = f.keys := by
  have hin : a ∈ f.keys := Finmap.mem_keys.mpr (Finmap.mem_of_lookup_eq_some h)
  rw [keys_insert, Finset.insert_eq_of_mem hin]

lemma keys_insert_card (f : FMap α β) (a : α) (b : β) :
    (f.insert a b).keys.card + (if (f.lookup a).isSome then 1 else 0) = f.keys.card + 1 := by
  rw [keys_insert]
  split
  · next h =>
    rw [Finset.insert_eq_of_mem (Finmap.mem_keys.mpr (Finmap.lookup_isSome.mp h))]
  · next h =>
    rw [Finset.card_insert_of_notMem fun hm =>
      h (Finmap.lookup_isSome.mpr (Finmap.mem_keys.mp hm))]

lemma keys_erase_card (f : FMap α β) (a : α) :
    (f.erase a).keys.card + (if (f.lookup a).isSome then 1 else 0) = f.keys.card := by
  rw [Finmap.keys_erase]
  split
  · next h =>
    exact Finset.card_erase_add_one (Finmap.mem_keys.mpr (Finmap.lookup_isSome.mp h))
  · next h =>
    rw [Finset.erase_eq_of_notMem fun hm => h (Finmap.lookup_isSome.mpr (Finmap.mem_keys.mp hm))]
    rfl

/-! ### Maps of the values -/

/-- The map with `g` of its values. -/
def mapValues {γ : Type*} (g : β → γ) (f : FMap α β) : FMap α γ where
  entries := f.entries.map fun e => ⟨e.1, g e.2⟩
  nodupKeys := by
    have hkeys : (f.entries.map fun e => (⟨e.1, g e.2⟩ : Sigma fun _ : α => γ)).keys =
        f.entries.keys := Multiset.map_map _ _ _
    exact Multiset.nodup_keys.mp (hkeys ▸ f.nodupKeys.nodup_keys)

variable {γ : Type*} (g : β → γ)

lemma lookup_mapValues (f : FMap α β) (a : α) :
    (mapValues g f).lookup a = (f.lookup a).map g := by
  refine Option.ext fun c => ?_
  rw [Finmap.lookup_eq_some_iff, Option.map_eq_some_iff]
  simp only [Finmap.lookup_eq_some_iff, mapValues, Multiset.mem_map]
  constructor
  · rintro ⟨e, he, heq⟩
    cases heq
    exact ⟨e.2, he, rfl⟩
  · rintro ⟨b, hb, rfl⟩
    exact ⟨⟨a, b⟩, hb, rfl⟩

lemma mapValues_insert (f : FMap α β) (a : α) (b : β) :
    mapValues g (f.insert a b) = (mapValues g f).insert a (g b) := by
  refine Finmap.ext_lookup fun x => ?_
  simp only [lookup_mapValues, lookup_insert_eq]
  split <;> rfl

lemma mapValues_erase (f : FMap α β) (a : α) :
    mapValues g (f.erase a) = (mapValues g f).erase a := by
  refine Finmap.ext_lookup fun x => ?_
  simp only [lookup_mapValues, lookup_erase_eq]
  split <;> rfl

lemma keys_mapValues (f : FMap α β) : (mapValues g f).keys = f.keys := by
  ext a
  rw [Finmap.mem_keys, Finmap.mem_keys, ← Finmap.lookup_isSome, ← Finmap.lookup_isSome,
    lookup_mapValues, Option.isSome_map]

/-! ### Maps with some value -/

/-- Some key has a value that satisfies `p`. -/
def HasValue (f : FMap α β) (p : β → Bool) : Prop := ∃ a ∈ f.keys, (f.lookup a).any p = true

instance (f : FMap α β) (p : β → Bool) : Decidable (HasValue f p) :=
  inferInstanceAs (Decidable (∃ a ∈ f.keys, _))

lemma hasValue_iff {f : FMap α β} {p : β → Bool} :
    HasValue f p ↔ ∃ a b, f.lookup a = some b ∧ p b = true := by
  constructor
  · rintro ⟨a, -, h⟩
    obtain ⟨b, hb, hp⟩ := (Option.any_eq_true _ _).mp h
    exact ⟨a, b, hb, hp⟩
  · rintro ⟨a, b, hb, hp⟩
    exact ⟨a, Finmap.mem_keys.mpr (Finmap.mem_of_lookup_eq_some hb),
      (Option.any_eq_true _ _).mpr ⟨b, hb, hp⟩⟩

lemma HasValue.of_insert {f : FMap α β} {p : β → Bool} {a : α} {b : β}
    (h : HasValue (f.insert a b) p) : p b = true ∨ HasValue f p := by
  obtain ⟨x, c, hc, hp⟩ := hasValue_iff.mp h
  rcases lookup_insert_cases hc with ⟨-, rfl⟩ | ⟨-, hc⟩
  · exact .inl hp
  · exact .inr (hasValue_iff.mpr ⟨x, c, hc, hp⟩)

lemma HasValue.of_modify {f : FMap α β} {p : β → Bool} {a : α} {g : β → β}
    (h : HasValue (modify f a g) p) :
    (∃ b, f.lookup a = some b ∧ p (g b) = true) ∨ HasValue f p := by
  obtain ⟨x, c, hc, hp⟩ := hasValue_iff.mp h
  rw [lookup_modify] at hc
  split at hc
  · obtain ⟨b, hb, rfl⟩ := Option.map_eq_some_iff.mp hc
    exact .inl ⟨b, hb, hp⟩
  · exact .inr (hasValue_iff.mpr ⟨x, c, hc, hp⟩)

/-! ### Fibres -/

variable [DecidableEq β]

/-- The keys whose value is `b`. -/
def fibre (f : FMap α β) (b : β) : Finset α := f.keys.filter fun a => f.lookup a = some b

@[simp] lemma mem_fibre {f : FMap α β} {a : α} {b : β} : a ∈ fibre f b ↔ f.lookup a = some b := by
  rw [fibre, Finset.mem_filter, Finmap.mem_keys]
  exact ⟨fun h => h.2, fun h => ⟨Finmap.mem_of_lookup_eq_some h, h⟩⟩

/-- An insertion adds the key to the fibre of its new value and takes it out of the old. -/
lemma card_fibre_insert (f : FMap α β) (a : α) (b c : β) :
    (fibre (f.insert a b) c).card + (if f.lookup a = some c then 1 else 0) =
      (fibre f c).card + if b = c then 1 else 0 := by
  by_cases hbc : b = c
  · subst hbc
    have he : fibre (f.insert a b) b = insert a (fibre f b) := by
      ext x
      rw [mem_fibre, lookup_insert_eq, Finset.mem_insert, mem_fibre]
      by_cases hx : x = a <;> simp [hx]
    rw [he, if_pos rfl]
    split
    · next h => rw [Finset.insert_eq_of_mem (mem_fibre.mpr h)]
    · next h => rw [Finset.card_insert_of_notMem fun hm => h (mem_fibre.mp hm)]
  · have he : fibre (f.insert a b) c = (fibre f c).erase a := by
      ext x
      rw [mem_fibre, lookup_insert_eq, Finset.mem_erase, mem_fibre]
      by_cases hx : x = a <;> simp [hx, hbc]
    rw [he, if_neg hbc]
    split
    · next h => rw [Finset.card_erase_add_one (mem_fibre.mpr h)]; rfl
    · next h => rw [Finset.erase_eq_of_notMem fun hm => h (mem_fibre.mp hm)]

lemma card_fibre_erase (f : FMap α β) (a : α) (c : β) :
    (fibre (f.erase a) c).card + (if f.lookup a = some c then 1 else 0) = (fibre f c).card := by
  have he : fibre (f.erase a) c = (fibre f c).erase a := by
    ext x
    rw [mem_fibre, lookup_erase_eq, Finset.mem_erase, mem_fibre]
    by_cases hx : x = a <;> simp [hx]
  rw [he]
  split
  · next h => rw [Finset.card_erase_add_one (mem_fibre.mpr h)]
  · next h => rw [Finset.erase_eq_of_notMem fun hm => h (mem_fibre.mp hm)]; rfl

/-- Dropping a value empties its fibre and leaves the others. -/
lemma fibre_retain_ne (f : FMap α β) (b c : β) :
    fibre (retain (fun _ x => x != b) f) c = if c = b then ∅ else fibre f c := by
  ext x
  rw [mem_fibre, lookup_retain, Option.filter_eq_some_iff]
  split
  · next h => subst h; simp
  · next h => simp [h]

lemma card_fibre_le (f : FMap α β) (b : β) : (fibre f b).card ≤ f.keys.card :=
  Finset.card_filter_le _ _

/-! ### Tallies -/

/-- The counter of `b`, zero when it has none. -/
def count (t : FMap β ℕ) (b : β) : ℕ := (t.lookup b).getD 0

/-- The sum of all counters. -/
def total (t : FMap β ℕ) : ℕ := (t.entries.map fun e => e.2).sum

/-- The counters of `t` are the sizes of the fibres of `f`. -/
def Tally (t : FMap β ℕ) (f : FMap α β) : Prop := ∀ b, count t b = (fibre f b).card

lemma count_insert (t : FMap β ℕ) (b c : β) (n : ℕ) :
    count (t.insert b n) c = if c = b then n else count t c := by
  rw [count, lookup_insert_eq]
  split <;> rfl

lemma count_erase (t : FMap β ℕ) (b c : β) :
    count (t.erase b) c = if c = b then 0 else count t c := by
  rw [count, lookup_erase_eq]
  split <;> rfl

lemma tally_empty : Tally (∅ : FMap β ℕ) (∅ : FMap α β) := fun _ => rfl

/-- A new key with the value `b`, counted. -/
lemma Tally.insert {t : FMap β ℕ} {f : FMap α β} (h : Tally t f) {a : α} (ha : f.lookup a = none)
    (b : β) : Tally (t.insert b (count t b + 1)) (f.insert a b) := by
  intro c
  have hfib := card_fibre_insert f a b c
  rw [ha, if_neg nofun] at hfib
  rw [count_insert, h b]
  split
  · next hc => subst hc; rw [if_pos rfl] at hfib; omega
  · next hc => rw [if_neg (Ne.symm hc)] at hfib; rw [h c]; omega

/-- A key with the value `b` goes, and so does a counter that would be zero. -/
lemma Tally.erase {t : FMap β ℕ} {f : FMap α β} (h : Tally t f) {a : α} {b : β}
    (ha : f.lookup a = some b) :
    Tally (if count t b ≤ 1 then t.erase b else t.insert b (count t b - 1)) (f.erase a) := by
  intro c
  have hfib := card_fibre_erase f a c
  have hb := card_fibre_erase f a b
  rw [ha, if_pos rfl, ← h b] at hb
  rw [ha, ← h c] at hfib
  have hcount : count (if count t b ≤ 1 then t.erase b else t.insert b (count t b - 1)) c =
      if c = b then count t b - 1 else count t c := by
    split
    · rw [count_erase]
      split
      · omega
      · rfl
    · exact count_insert t b c _
  rw [hcount]
  split
  · next hc => subst hc; omega
  · next hc =>
    rw [if_neg fun he => hc (Option.some.inj he).symm] at hfib
    omega

lemma total_eq_sum_count (t : FMap β ℕ) : total t = ∑ b ∈ t.keys, count t b := by
  have hk : t.keys.val = t.entries.map Sigma.fst := rfl
  rw [total, Finset.sum, hk, Multiset.map_map]
  congr 1
  refine Multiset.map_congr rfl fun e he => ?_
  have : t.lookup e.1 = some e.2 := Finmap.mem_lookup_iff.mpr he
  simp [count, this]

/-- The keys without a counter add nothing. -/
lemma total_eq_sum_of_subset {t : FMap β ℕ} {s : Finset β} (h : t.keys ⊆ s) :
    total t = ∑ b ∈ s, count t b := by
  rw [total_eq_sum_count]
  refine Finset.sum_subset h fun b _ hb => ?_
  rw [count, Finmap.lookup_eq_none.mpr fun hin => hb (Finmap.mem_keys.mpr hin)]
  rfl

lemma total_insert (t : FMap β ℕ) (b : β) (n : ℕ) :
    total (t.insert b n) + count t b = total t + n := by
  have hsub : t.keys ⊆ insert b t.keys := Finset.subset_insert _ _
  have hrest : ∑ c ∈ (insert b t.keys).erase b, count (t.insert b n) c =
      ∑ c ∈ (insert b t.keys).erase b, count t c :=
    Finset.sum_congr rfl fun c hc => by rw [count_insert, if_neg (Finset.ne_of_mem_erase hc)]
  have hself : count (t.insert b n) b = n := by rw [count_insert, if_pos rfl]
  rw [total_eq_sum_of_subset hsub, total_eq_sum_count (t.insert b n), keys_insert,
    ← Finset.sum_erase_add _ _ (Finset.mem_insert_self b t.keys), hrest, hself,
    ← Finset.sum_erase_add _ _ (Finset.mem_insert_self b t.keys)]
  omega

lemma total_erase (t : FMap β ℕ) (b : β) : total (t.erase b) + count t b = total t := by
  have hrest : ∑ c ∈ t.keys.erase b, count (t.erase b) c = ∑ c ∈ t.keys.erase b, count t c :=
    Finset.sum_congr rfl fun c hc => by rw [count_erase, if_neg (Finset.ne_of_mem_erase hc)]
  rw [total_eq_sum_count (t.erase b), Finmap.keys_erase, hrest]
  by_cases hb : b ∈ t.keys
  · rw [total_eq_sum_count t, ← Finset.sum_erase_add _ _ hb]
  · have hzero : count t b = 0 := by
      rw [count, Finmap.lookup_eq_none.mpr fun hin => hb (Finmap.mem_keys.mpr hin)]
      rfl
    rw [total_eq_sum_count t, Finset.erase_eq_of_notMem hb, hzero, add_zero]

/-- Nothing is counted exactly when every counter is zero. -/
lemma total_eq_zero_iff {t : FMap β ℕ} : total t = 0 ↔ ∀ b, count t b = 0 := by
  rw [total_eq_sum_count, Finset.sum_eq_zero_iff]
  constructor
  · intro h b
    by_cases hb : b ∈ t.keys
    · exact h b hb
    · rw [count, Finmap.lookup_eq_none.mpr fun hin => hb (Finmap.mem_keys.mpr hin)]
      rfl
  · exact fun h b _ => h b

/-- **The counters of a tally add up to the number of entries.** -/
theorem Tally.total_eq {t : FMap β ℕ} {f : FMap α β} (h : Tally t f) : total t = f.keys.card := by
  have hcover : f.keys = t.keys.biUnion (fibre f) := by
    ext a
    rw [Finset.mem_biUnion, Finmap.mem_keys, Finmap.mem_iff]
    constructor
    · rintro ⟨b, hb⟩
      refine ⟨b, ?_, mem_fibre.mpr hb⟩
      by_contra hn
      have hzero : count t b = 0 := by
        rw [count, Finmap.lookup_eq_none.mpr fun hm => hn (Finmap.mem_keys.mpr hm)]; rfl
      have hpos := Finset.card_pos.mpr ⟨a, mem_fibre.mpr hb⟩
      rw [← h b] at hpos; omega
    · rintro ⟨b, -, hb⟩
      exact ⟨b, mem_fibre.mp hb⟩
  have hdisj : Set.PairwiseDisjoint (t.keys : Set β) (fibre f) := by
    intro b _ c _ hbc
    refine Finset.disjoint_left.mpr fun a hb hc => hbc ?_
    exact Option.some.inj ((mem_fibre.mp hb).symm.trans (mem_fibre.mp hc))
  rw [hcover, Finset.card_biUnion hdisj, total_eq_sum_count]
  exact Finset.sum_congr rfl fun b _ => h b

end FMap

end HelbreathBackend.Lib
