import Mathlib.Tactic.Common

/-!
Computations that may panic.

A computation gives a value, returns with an error, or panics. What panics is an index or a range
out of bounds, a copy between lengths that differ, and a sum that is too large for its type. The
rules below show that a computation returns, and what holds of its values.
-/

namespace HelbreathBackend.Lib

/-- Nothing in the option is a panic. -/
abbrev MayPanic (ε α : Type) := ExceptT ε Option α

namespace MayPanic

variable {ε α β : Type}

def panicked : MayPanic ε α := ExceptT.mk none

/-- What cannot panic. -/
def lift (r : Except ε α) : MayPanic ε α := ExceptT.mk (some r)

/-- `xs[i]` -/
def index (xs : List α) (i : ℕ) : MayPanic ε α :=
  if h : i < xs.length then pure xs[i] else panicked

/-- `&xs[lo..hi]` -/
def slice (xs : List α) (lo hi : ℕ) : MayPanic ε (List α) :=
  if lo ≤ hi ∧ hi ≤ xs.length then pure ((xs.take hi).drop lo) else panicked

/-- `a + b`, in integers up to `top` -/
def add (top a b : ℕ) : MayPanic ε ℕ := if a + b ≤ top then pure (a + b) else panicked

/-- `copy_from_slice`, into an array of length `n` -/
def copyFromSlice (n : ℕ) (xs : List α) : MayPanic ε {ys : List α // ys.length = n} :=
  if h : xs.length = n then pure ⟨xs, h⟩ else panicked

/-! ### In bounds -/

lemma index_eq {xs : List α} {i : ℕ} (h : i < xs.length) :
    (index xs i : MayPanic ε α) = pure xs[i] := dif_pos h

lemma slice_eq {xs : List α} {lo hi : ℕ} (hlo : lo ≤ hi) (hhi : hi ≤ xs.length) :
    (slice xs lo hi : MayPanic ε (List α)) = pure ((xs.take hi).drop lo) := if_pos ⟨hlo, hhi⟩

lemma add_eq {top a b : ℕ} (h : a + b ≤ top) : (add top a b : MayPanic ε ℕ) = pure (a + b) :=
  if_pos h

lemma copyFromSlice_eq {n : ℕ} {xs : List α} (h : xs.length = n) :
    (copyFromSlice n xs : MayPanic ε {ys : List α // ys.length = n}) = pure ⟨xs, h⟩ := dif_pos h

/-! ### Lifted computations -/

variable {r s : Except ε α} {c : Prop} [Decidable c] {x y : MayPanic ε α}

@[simp] lemma run_lift (r : Except ε α) : (lift r).run = some r := rfl

@[simp] lemma lift_ok (a : α) : lift (.ok a : Except ε α) = pure a := rfl

@[simp] lemma lift_bind (r : Except ε α) (f : α → Except ε β) :
    lift (r >>= f) = lift r >>= fun a => lift (f a) := by
  cases r <;> rfl

@[simp] lemma lift_map (r : Except ε α) (f : α → β) : lift (f <$> r) = f <$> lift r := by
  cases r <;> rfl

/-- What cannot panic gives a value through both of its parts. -/
lemma except_bind_eq_ok_iff {f : α → Except ε β} {b : β} :
    r >>= f = .ok b ↔ ∃ a, r = .ok a ∧ f a = .ok b := by
  cases r with
  | error e => exact iff_of_false nofun fun ⟨_, he, _⟩ => by cases he
  | ok a =>
    refine ⟨fun h => ⟨a, rfl, h⟩, ?_⟩
    rintro ⟨_, ⟨⟩, h⟩
    exact h

lemma ite_eq_lift (hx : x = lift r) (hy : y = lift s) :
    (if c then x else y) = lift (if c then r else s) := by
  rw [hx, hy, apply_ite lift]

/-! ### What returns -/

/-- `x` does not panic, and its value, if it gives one, satisfies `Q`. -/
def Returns (x : MayPanic ε α) (Q : α → Prop) : Prop :=
  ∃ r, x.run = some r ∧ ∀ a, r = .ok a → Q a

variable {P Q : α → Prop} {R : β → Prop} {f : α → MayPanic ε β} {a : α}

lemma returns_pure (h : Q a) : Returns (pure a : MayPanic ε α) Q :=
  ⟨.ok a, rfl, fun b hb => by cases hb; exact h⟩

lemma returns_throw (e : ε) : Returns (throw e : MayPanic ε α) Q :=
  ⟨.error e, rfl, fun b hb => by cases hb⟩

lemma returns_lift (h : ∀ a, r = .ok a → Q a) : Returns (lift r) Q := ⟨r, rfl, h⟩

/-- **Sequencing**: what follows may rely on what the value satisfies. -/
theorem Returns.bind (hx : Returns x P) (hf : ∀ a, P a → Returns (f a) R) :
    Returns (x >>= f) R := by
  obtain ⟨r, hrun, hr⟩ := hx
  have hbind : (x >>= f).run = x.run >>= ExceptT.bindCont f := rfl
  cases r with
  | error e =>
    refine ⟨.error e, ?_, fun b hb => by cases hb⟩
    rw [hbind, hrun]
    rfl
  | ok a =>
    obtain ⟨s, hs, hR⟩ := hf a (hr a rfl)
    refine ⟨s, ?_, hR⟩
    rw [hbind, hrun]
    exact hs

lemma Returns.map {f : α → β} (hx : Returns x P) (hf : ∀ a, P a → R (f a)) :
    Returns (f <$> x) R := by
  rw [map_eq_pure_bind]
  exact hx.bind fun a ha => returns_pure (hf a ha)

lemma Returns.ite (hx : c → Returns x Q) (hy : ¬ c → Returns y Q) :
    Returns (if c then x else y) Q := by
  split
  · next h => exact hx h
  · next h => exact hy h

lemma returns_index {xs : List α} {i : ℕ} (h : i < xs.length) :
    Returns (index xs i : MayPanic ε α) fun _ => True := by
  rw [index_eq h]
  exact returns_pure trivial

lemma returns_slice {xs : List α} {lo hi : ℕ} (hlo : lo ≤ hi) (hhi : hi ≤ xs.length) :
    Returns (slice xs lo hi : MayPanic ε (List α)) fun ys => ys.length = hi - lo := by
  rw [slice_eq hlo hhi]
  apply returns_pure
  rw [List.length_drop, List.length_take, Nat.min_eq_left hhi]

lemma returns_add {top m n : ℕ} (h : m + n ≤ top) :
    Returns (add top m n : MayPanic ε ℕ) fun k => k = m + n := by
  rw [add_eq h]
  exact returns_pure rfl

lemma returns_copyFromSlice {n : ℕ} {xs : List α} (h : xs.length = n) :
    Returns (copyFromSlice n xs : MayPanic ε {ys : List α // ys.length = n}) fun _ => True := by
  rw [copyFromSlice_eq h]
  exact returns_pure trivial

/-- What holds of a value that was given. -/
lemma Returns.of_run (hx : Returns x Q) (h : x.run = some (.ok a)) : Q a := by
  obtain ⟨r, hrun, hr⟩ := hx
  rw [hrun] at h
  exact hr a (Option.some.inj h)

end MayPanic

end HelbreathBackend.Lib
