import HelbreathBackend.Infrastructure
import HelbreathBackend.Lib.Transition
import Mathlib.Data.List.Perm.Subperm

/-!
The slots of the characters of an account.

The search for a slot looks at the rows that are not deleted, the constraint on account and
slot at all rows. So a slot that is free for the search may still be held by a deleted row.
-/

namespace HelbreathBackend.Infrastructure

open HelbreathBackend.Lib HelbreathBackend.Domain

namespace Database

variable (db : Database)

/-- The characters of an account that are not deleted. -/
def live (accountId : AccountId) : List CharacterRow :=
  db.characters.rows.filter fun c => c.accountId == accountId && !c.isDeleted

/-- No character of the account that is not deleted has the slot. -/
def Free (accountId : AccountId) (slot : ℕ) : Prop :=
  ∀ c ∈ db.characters.rows, c.accountId = accountId → c.slot = slot → c.isDeleted = true

/-- The slot is the lowest free one. -/
structure LowestFree (accountId : AccountId) (slot : ℕ) : Prop where
  lt : slot < 4
  free : db.Free accountId slot
  lowest : ∀ s < slot, ¬ db.Free accountId s

variable {db} {accountId : AccountId}

lemma mem_live {c : CharacterRow} :
    c ∈ db.live accountId ↔
      c ∈ db.characters.rows ∧ c.accountId = accountId ∧ c.isDeleted = false := by
  simp [live]

lemma not_any_iff_free (slot : ℕ) :
    (!db.characters.rows.any fun c => c.accountId == accountId && c.slot == slot && !c.isDeleted) =
      true ↔ db.Free accountId slot := by
  rw [Bool.not_eq_true', List.any_eq_false]
  refine forall₂_congr fun c _ => ?_
  cases c.isDeleted <;> simp

/-- **The slot search** finds the lowest free slot. -/
theorem slotPick_eq_some_iff {slot : ℕ} :
    db.slotPick accountId = some slot ↔ db.LowestFree accountId slot := by
  rw [slotPick, List.find?_range_eq_some, not_any_iff_free, List.mem_range]
  constructor
  · rintro ⟨hfree, hlt, hlow⟩
    refine ⟨hlt, hfree, fun s hs hs' => ?_⟩
    have hnot := hlow s hs
    rw [(not_any_iff_free s).mpr hs'] at hnot
    cases hnot
  · rintro ⟨hlt, hfree, hlow⟩
    refine ⟨hfree, hlt, fun s hs => ?_⟩
    rw [Bool.not_eq_true', ← Bool.not_eq_true, not_any_iff_free]
    exact hlow s hs

lemma slotPick_eq_none_iff :
    db.slotPick accountId = none ↔ ∀ s < 4, ¬ db.Free accountId s := by
  rw [slotPick, List.find?_eq_none]
  simp only [List.mem_range]
  exact forall₂_congr fun s _ => not_congr (not_any_iff_free s)

/-- Every character that is not deleted has one of the four slots. -/
def SlotsBounded (db : Database) : Prop :=
  ∀ c ∈ db.characters.rows, c.isDeleted = false → c.slot < 4

lemma slots_nodup : ((db.live accountId).map (·.slot)).Nodup := by
  have hapart := db.characters.apart.sublist
    (List.filter_sublist (p := fun c => c.accountId == accountId && !c.isDeleted))
  refine List.pairwise_map.mpr (hapart.imp_of_mem fun {a b} ha hb hclash hslot => hclash ?_)
  obtain ⟨-, ha, -⟩ := mem_live.mp ha
  obtain ⟨-, hb, -⟩ := mem_live.mp hb
  exact .inr (.inr ⟨ha.trans hb.symm, hslot⟩)

/-- **The four slots are taken exactly when four characters are live.** -/
theorem slotPick_eq_none_iff_four (h : SlotsBounded db) :
    db.slotPick accountId = none ↔ 4 ≤ (db.live accountId).length := by
  have hmem : ∀ s, s ∈ (db.live accountId).map (·.slot) ↔ ¬ db.Free accountId s := by
    intro s
    rw [List.mem_map]
    constructor
    · rintro ⟨c, hc, hs⟩ hfree
      obtain ⟨hc, ha, hd⟩ := mem_live.mp hc
      rw [hfree c hc ha hs] at hd
      cases hd
    · intro hfree
      by_contra hno
      refine hfree fun c hc ha hs => ?_
      by_contra hd
      exact hno ⟨c, mem_live.mpr ⟨hc, ha, by simpa using hd⟩, hs⟩
  have hsub : (db.live accountId).map (·.slot) ⊆ List.range 4 := by
    intro s hs
    obtain ⟨c, hc, rfl⟩ := List.mem_map.mp hs
    obtain ⟨hc, -, hd⟩ := mem_live.mp hc
    exact List.mem_range.mpr (h c hc hd)
  have hsubperm := List.Nodup.subperm slots_nodup hsub
  rw [slotPick_eq_none_iff, ← List.length_map (f := fun c : CharacterRow => c.slot)]
  constructor
  · intro hall
    have hrange : List.range 4 ⊆ (db.live accountId).map (·.slot) := fun s hs =>
      (hmem s).mpr (hall s (List.mem_range.mp hs))
    have hle := (List.nodup_range.subperm hrange).length_le
    rwa [List.length_range] at hle
  · intro hle s hs
    have hperm := hsubperm.perm_of_length_le (by rwa [List.length_range])
    exact (hmem s).mp (hperm.mem_iff.mpr (List.mem_range.mpr hs))

/-! ### Creation -/

/-- The row `create_character` would insert. -/
def newRow (now : Time) (newId : CharacterId) (accountId : AccountId) (params : NewCharacterParams)
    (name : String) (slot : ℕ) (m : MapRow) : CharacterRow :=
  ⟨newId, accountId, name, slot, characterClassCode params.characterClass, params.gender,
    params.skinColor, params.hairStyle, params.hairColor, params.underwearColor, 1, 0, m.id,
    m.defaultSpawnX, m.defaultSpawnY, 100, 50, 50, params.stats, false, now, now⟩

variable {now : Time} {newId : CharacterId} {params : NewCharacterParams}

/-- **What a creation does**: it takes the lowest free slot, if its account exists, its name fits
its column and no row, deleted or not, clashes with the new one. -/
theorem createCharacter_eq_ok_iff {c : Character} {db' : Database} :
    db.createCharacter now newId accountId params = .ok (c, db') ↔
      (∃ a ∈ db.accounts.rows, a.id = accountId) ∧
      ∃ name slot m characters, varchar 16 params.name = .ok name ∧
        db.slotPick accountId = some slot ∧ db.maps.rows.find? (fun m => m.id == 1) = some m ∧
        db.characters.insert (newRow now newId accountId params name slot m) = some characters ∧
        c = rowToCharacter (newRow now newId accountId params name slot m) ∧
        db' = { db with characters := characters } := by
  rcases htext : encoded params.name with err | text
  · refine iff_of_false ?_ ?_
    · simp [createCharacter, htext, Except.mapError, bind, Except.bind]
    · rintro ⟨-, name, slot, m, characters, h, -⟩
      cases htext.symm.trans (encoded_eq_ok_iff.mpr ⟨(varchar_eq_ok_iff.mp h).1, rfl⟩)
  obtain ⟨hnul, rfl⟩ := encoded_eq_ok_iff.mp htext
  simp only [varchar_eq_ok_iff, hnul, not_false_eq_true, true_and]
  rcases hslot : db.slotPick accountId with _ | slot
  · refine iff_of_false ?_ ?_
    · simp [createCharacter, htext, Except.mapError, bind, Except.bind, hslot]
    · rintro ⟨-, name, slot, m, characters, -, h, -⟩
      cases h
  rcases hm : db.maps.rows.find? fun m => m.id == 1 with _ | m
  · refine iff_of_false ?_ ?_
    · simp [createCharacter, htext, Except.mapError, bind, Except.bind, hslot, hm]
    · rintro ⟨-, name, slot, m, characters, -, -, h, -⟩
      rw [hm] at h
      cases h
  rcases hname : fitLength 16 params.name with err | name
  · refine iff_of_false ?_ ?_
    · simp [createCharacter, htext, hslot, hm, hname, Except.mapError, bind, Except.bind]
    · rintro ⟨-, name, slot, m, characters, h, -⟩
      cases h
  rcases hins : db.characters.insert (newRow now newId accountId params name slot m) with
    _ | characters
  · refine iff_of_false ?_ ?_
    · simp only [newRow] at hins
      simp [createCharacter, htext, hslot, hm, hname, Except.mapError, bind, Except.bind, hins]
    · rintro ⟨-, name', slot', m', characters, hname', hslot', hm', h, -⟩
      cases hname'
      cases hslot'
      obtain rfl := Option.some.inj (hm.symm.trans hm')
      rw [hins] at h
      cases h
  have hrun : db.createCharacter now newId accountId params =
      if ¬ ∃ a ∈ db.accounts.rows, a.id = accountId then .error (.database .foreignKeyViolation)
      else .ok (rowToCharacter (newRow now newId accountId params name slot m),
        { db with characters := characters }) := by
    simp only [newRow] at hins ⊢
    simp [createCharacter, htext, hslot, hm, hname, Except.mapError, bind, Except.bind, hins]
  rw [hrun]
  by_cases hacc : ∃ a ∈ db.accounts.rows, a.id = accountId
  · rw [if_neg (not_not.mpr hacc)]
    constructor
    · intro h
      obtain ⟨rfl, rfl⟩ := Prod.mk.inj (Except.ok.inj h)
      exact ⟨hacc, name, slot, m, characters, rfl, rfl, hm, hins, rfl, rfl⟩
    · rintro ⟨-, name', slot', m', characters', hname', hslot', hm', hins', rfl, rfl⟩
      cases hname'
      cases hslot'
      obtain rfl := Option.some.inj (hm.symm.trans hm')
      rw [hins] at hins'
      cases hins'
      rfl
  · rw [if_pos hacc]
    exact iff_of_false (fun h => by cases h) fun h => hacc h.1

/-- **What holds of a creation**: it succeeds exactly when the account has fewer than four
characters, and the new one takes the lowest free slot. -/
structure ReusesSlots (db : Database) (now : Time) (newId : CharacterId) (accountId : AccountId)
    (params : NewCharacterParams) : Prop where
  succeeds : (∃ r, db.createCharacter now newId accountId params = .ok r) ↔
    (db.live accountId).length < 4
  lowest : ∀ c db', db.createCharacter now newId accountId params = .ok (c, db') →
    ∃ row, db'.characters.rows = db.characters.rows ++ [row] ∧ rowToCharacter row = c ∧
      row.accountId = accountId ∧ row.isDeleted = false ∧ db.LowestFree accountId row.slot

/-- **The slots that can be reused**: a free slot is lost while a deleted row has it. -/
theorem reusesSlots_iff (hbound : SlotsBounded db) (hmap : ∃ m ∈ db.maps.rows, m.id = 1)
    (hacc : ∃ a ∈ db.accounts.rows, a.id = accountId)
    (hnew : ∀ c ∈ db.characters.rows, c.id ≠ newId) :
    db.ReusesSlots now newId accountId params ↔
      4 ≤ (db.live accountId).length ∨
        Char.ofNat 0 ∉ params.name.toList ∧ ∃ name, fitLength 16 params.name = .ok name ∧
          (∀ c ∈ db.characters.rows, c.name ≠ name) ∧
          ∀ c ∈ db.characters.rows, c.accountId = accountId → ¬ db.LowestFree accountId c.slot := by
  have hlowest : ∀ c db', db.createCharacter now newId accountId params = .ok (c, db') →
      ∃ row, db'.characters.rows = db.characters.rows ++ [row] ∧ rowToCharacter row = c ∧
        row.accountId = accountId ∧ row.isDeleted = false ∧
        db.LowestFree accountId row.slot := by
    intro c db' h
    obtain ⟨-, name, slot, m, characters, -, hslot, -, hins, rfl, rfl⟩ :=
      createCharacter_eq_ok_iff.mp h
    exact ⟨_, (Table.insert_eq_some_iff.mp hins).2, rfl, rfl, rfl, slotPick_eq_some_iff.mp hslot⟩
  constructor
  · intro h
    by_cases hfull : 4 ≤ (db.live accountId).length
    · exact .inl hfull
    · obtain ⟨⟨c, db'⟩, hok⟩ := h.succeeds.mpr (by omega)
      obtain ⟨-, name, slot, m, characters, hname, hslot, -, hins, -, -⟩ :=
        createCharacter_eq_ok_iff.mp hok
      have happart := (Table.insert_eq_some_iff.mp hins).1
      obtain ⟨hnul, hfits⟩ := varchar_eq_ok_iff.mp hname
      refine .inr ⟨hnul, name, hfits, fun c hc he => ?_, fun c hc ha hlow => ?_⟩
      · exact happart c hc (.inr (.inl he))
      · have hlow' := slotPick_eq_some_iff.mpr hlow
        rw [hslot] at hlow'
        exact happart c hc (.inr (.inr ⟨ha, (Option.some.inj hlow').symm⟩))
  · intro h
    refine ⟨⟨?_, fun hlt => ?_⟩, hlowest⟩
    · rintro ⟨⟨c, db'⟩, hok⟩
      obtain ⟨-, name, slot, m, characters, -, hslot, -⟩ := createCharacter_eq_ok_iff.mp hok
      by_contra hfull
      rw [(slotPick_eq_none_iff_four hbound).mpr (by omega)] at hslot
      cases hslot
    · obtain hfull | ⟨hnul, name, hfits, hunused, hkept⟩ := h
      · omega
      have hname : varchar 16 params.name = .ok name := varchar_eq_ok_iff.mpr ⟨hnul, hfits⟩
      obtain ⟨slot, hslot⟩ : ∃ slot, db.slotPick accountId = some slot := by
        refine Option.ne_none_iff_exists'.mp fun hnone => ?_
        have hfull := (slotPick_eq_none_iff_four hbound).mp hnone
        omega
      have hlow := slotPick_eq_some_iff.mp hslot
      obtain ⟨m, hm⟩ : ∃ m, db.maps.rows.find? (fun m => m.id == 1) = some m := by
        obtain ⟨m, hmem, hid⟩ := hmap
        refine Option.isSome_iff_exists.mp (List.find?_isSome.mpr ⟨m, hmem, ?_⟩)
        rw [hid]
        rfl
      -- the free slot is in no row of the account, so nothing clashes
      obtain ⟨characters, hins⟩ : ∃ characters, db.characters.insert
          (newRow now newId accountId params name slot m) = some characters := by
        refine Option.isSome_iff_exists.mp (Table.insert_isSome_iff.mpr fun c hc hclash => ?_)
        rcases hclash with hid | hn | ⟨ha, hs⟩
        · exact hnew c hc hid
        · exact hunused c hc hn
        · refine hkept c hc ha ?_
          rw [show c.slot = slot from hs]
          exact hlow
      exact ⟨_, createCharacter_eq_ok_iff.mpr
        ⟨hacc, name, slot, m, characters, hname, hslot, hm, hins, rfl, rfl⟩⟩

/-! ### Sequences of calls -/

/-- The calls that write characters. -/
inductive CharacterCall
  | create (now : Time) (newId : CharacterId) (accountId : AccountId) (params : NewCharacterParams)
  | delete (now : Time) (accountId : AccountId) (characterId : CharacterId)

def characterCall (db : Database) : CharacterCall → Database
  | .create now newId accountId params =>
    match db.createCharacter now newId accountId params with
    | .ok (_, db') => db'
    | .error _ => db
  | .delete now accountId characterId => (db.deleteCharacter now accountId characterId).2

/-- What no call changes, and what every call keeps. -/
structure CharactersKept (db₀ db : Database) : Prop where
  maps : db.maps = db₀.maps
  accounts : db.accounts = db₀.accounts
  bounded : SlotsBounded db

lemma charactersKept_characterCall {db₀ : Database} (h : CharactersKept db₀ db)
    (call : CharacterCall) : CharactersKept db₀ (db.characterCall call) := by
  cases call with
  | create now newId accountId params =>
    rw [characterCall]
    split
    · next c db' hok =>
      obtain ⟨-, name, slot, m, characters, -, hslot, -, hins, -, rfl⟩ :=
        createCharacter_eq_ok_iff.mp hok
      refine ⟨h.maps, h.accounts, fun c hc hd => ?_⟩
      rw [(Table.insert_eq_some_iff.mp hins).2, List.mem_append, List.mem_singleton] at hc
      rcases hc with hc | rfl
      · exact h.bounded c hc hd
      · exact (slotPick_eq_some_iff.mp hslot).lt
    · exact h
  | delete now accountId characterId =>
    have hbounded : SlotsBounded (db.markDeleted now accountId characterId).2 := by
      intro c hc hd
      rw [rows_markDeleted] at hc
      obtain ⟨c', hc', rfl⟩ := List.mem_map.mp hc
      split at hd
      · cases hd
      · next hno =>
        rw [if_neg hno]
        exact h.bounded c' hc' hd
    have hmarked : CharactersKept db₀ (db.markDeleted now accountId characterId).2 :=
      ⟨h.maps, h.accounts, hbounded⟩
    have hunbound : CharactersKept db₀
        ((db.markDeleted now accountId characterId).2.unbindSessions accountId characterId) :=
      ⟨h.maps, h.accounts, hbounded⟩
    simp only [characterCall, deleteCharacter]
    split
    · exact hunbound
    · exact hmarked

/-- **Slots after any calls**: a creation after any sequence of creations and deletions, if its
name is not in use, reuses the slots exactly when the account is full, or its name has no U+0000
and fits the column and no row of the account, deleted or not, has the lowest free slot. -/
theorem createCharacter_reuses_iff (db₀ : Database) (hempty : db₀.characters.rows = [])
    (hmap : ∃ m ∈ db₀.maps.rows, m.id = 1) (calls : List CharacterCall) (now : Time)
    (newId : CharacterId) (accountId : AccountId) (params : NewCharacterParams)
    (hacc : ∃ a ∈ db₀.accounts.rows, a.id = accountId)
    (hnew : ∀ c ∈ (calls.foldl characterCall db₀).characters.rows, c.id ≠ newId) :
    let db := calls.foldl characterCall db₀
    ((∀ c ∈ db.characters.rows, c.name ≠ params.name) →
        db.ReusesSlots now newId accountId params) ↔
      (∃ c ∈ db.characters.rows, c.name = params.name) ∨
      4 ≤ (db.live accountId).length ∨
        Char.ofNat 0 ∉ params.name.toList ∧ ∃ name, fitLength 16 params.name = .ok name ∧
          (∀ c ∈ db.characters.rows, c.name ≠ name) ∧
          ∀ c ∈ db.characters.rows, c.accountId = accountId →
            ¬ db.LowestFree accountId c.slot := by
  intro db
  have hstart : CharactersKept db₀ db₀ := ⟨rfl, rfl, fun c hc => by simp [hempty] at hc⟩
  have hkept : CharactersKept db₀ db :=
    List.foldlRecOn calls characterCall hstart fun _ h call _ => charactersKept_characterCall h call
  rw [← hkept.maps] at hmap
  rw [← hkept.accounts] at hacc
  have hreuses : db.ReusesSlots now newId accountId params ↔ _ :=
    reusesSlots_iff hkept.bounded hmap hacc hnew
  rw [← hreuses, imp_iff_not_or]
  refine or_congr_left ?_
  push Not
  rfl

/-- Two creations with a deletion between them that finds nothing, and a third one; and the same
with the second character deleted before the third creation. -/
theorem createCharacter_reuses_iff_three :
    let params (name : String) : NewCharacterParams :=
      ⟨name, .warrior, 0, 0, 0, 0, 0, 10, 10, 10, 10, 10, 10⟩
    let calls := [CharacterCall.create 0 (.fill 2) (.fill 1) (params "Aresden"),
      .delete 1 (.fill 1) (.fill 3), .create 2 (.fill 3) (.fill 1) (params "Elvine")]
    let calls' := calls ++ [CharacterCall.delete 3 (.fill 1) (.fill 3)]
    (calls.foldl characterCall fixture).ReusesSlots 4 (.fill 4) (.fill 1) (params "Garden") ∧
      ¬ (calls'.foldl characterCall fixture).ReusesSlots 4 (.fill 4) (.fill 1)
        (params "Garden") := by
  intro params calls calls'
  have hmap : ∃ m ∈ fixture.maps.rows, m.id = 1 := ⟨_, List.mem_singleton_self _, rfl⟩
  have hacc : ∃ a ∈ fixture.accounts.rows, a.id = .fill 1 := ⟨_, List.mem_singleton_self _, rfl⟩
  constructor
  · have hfits : fitLength 16 "Garden" = .ok "Garden" := fitLength_of_le (by decide)
    have hkept : ∀ c ∈ (calls.foldl characterCall fixture).characters.rows,
        c.accountId = .fill 1 →
          (calls.foldl characterCall fixture).slotPick (.fill 1) ≠ some c.slot := by
      decide +kernel
    refine (createCharacter_reuses_iff fixture rfl hmap calls 4 (.fill 4) (.fill 1)
      (params "Garden") hacc (by decide +kernel)).mpr ?_ (by decide +kernel)
    refine .inr (.inr ⟨by decide, "Garden", hfits, by decide +kernel, fun c hc ha hlow => ?_⟩)
    exact hkept c hc ha (slotPick_eq_some_iff.mpr hlow)
  · have hlost : ∃ c ∈ (calls'.foldl characterCall fixture).characters.rows,
        c.accountId = .fill 1 ∧
          (calls'.foldl characterCall fixture).slotPick (.fill 1) = some c.slot := by
      decide +kernel
    intro hreuses
    rcases (createCharacter_reuses_iff fixture rfl hmap calls' 4 (.fill 4) (.fill 1)
      (params "Garden") hacc (by decide +kernel)).mp (fun _ => hreuses) with
      hused | hfull | ⟨-, name, -, -, hkept⟩
    · revert hused
      decide +kernel
    · revert hfull
      decide +kernel
    · obtain ⟨c, hc, ha, hs⟩ := hlost
      exact hkept c hc ha (slotPick_eq_some_iff.mp hs)

/-- The account's only character is deleted: no live one is left, and yet nothing can be created,
under whatever name. -/
theorem deleted_slot_blocks_creation :
    let db := [CharacterCall.create 0 (.fill 2) (.fill 1)
        ⟨"Aresden", .warrior, 0, 0, 0, 0, 0, 10, 10, 10, 10, 10, 10⟩,
      .delete 1 (.fill 1) (.fill 2)].foldl characterCall fixture
    (db.live (.fill 1)).length = 0 ∧
      ∀ params, ¬ ∃ r, db.createCharacter 2 (.fill 3) (.fill 1) params = .ok r := by
  intro db
  have hkept : ∃ c ∈ db.characters.rows, c.accountId = .fill 1 ∧ c.slot = 0 := by decide +kernel
  have hslot : db.slotPick (.fill 1) = some 0 := by decide +kernel
  refine ⟨by decide +kernel, fun params => ?_⟩
  rintro ⟨⟨c, db'⟩, hok⟩
  obtain ⟨-, name, slot, m, characters, -, hslot', -, hins, -⟩ := createCharacter_eq_ok_iff.mp hok
  obtain rfl := Option.some.inj (hslot.symm.trans hslot')
  obtain ⟨c, hc, ha, hs⟩ := hkept
  exact (Table.insert_eq_some_iff.mp hins).1 c hc (.inr (.inr ⟨ha, hs⟩))

end Database

end HelbreathBackend.Infrastructure
