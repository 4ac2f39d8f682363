import Mathlib.Tactic.Common

/-!
Handlers of requests.

A handler reads what comes with the request, changes the state it works on, and returns or
fails. A failure ends it, but what it has changed stays changed.
-/

namespace HelbreathBackend.Lib

def Handler (ω σ ε α : Type) := ω → σ → Except ε α × σ

namespace Handler

variable {ω σ ε ε' α β : Type}

instance : Monad (Handler ω σ ε) where
  pure a := fun _ s => (.ok a, s)
  bind h k := fun o s =>
    match h o s with
    | (.ok a, t) => k a o t
    | (.error e, t) => (.error e, t)

def fail (e : ε) : Handler ω σ ε α := fun _ s => (.error e, s)

/-- What comes with the request. -/
def given : Handler ω σ ε ω := fun o s => (.ok o, s)

/-- Look at the state. -/
def look (f : σ → α) : Handler ω σ ε α := fun _ s => (.ok (f s), s)

/-- Change the state. -/
def change (f : σ → σ) : Handler ω σ ε Unit := fun _ s => (.ok (), f s)

def ofExcept : Except ε α → Handler ω σ ε α
  | .ok a => pure a
  | .error e => fail e

def ofOption (e : ε) : Option α → Handler ω σ ε α
  | some a => pure a
  | none => fail e

/-- A failure under another name. -/
def mapError (f : ω → ε → ε') (h : Handler ω σ ε α) : Handler ω σ ε' α := fun o s =>
  match h o s with
  | (.ok a, t) => (.ok a, t)
  | (.error e, t) => (.error (f o e), t)

/-- A failure that does not matter. -/
def ignore (h : Handler ω σ ε α) : Handler ω σ ε' Unit := fun o s => (.ok (), (h o s).2)

variable {h : Handler ω σ ε α} {k : α → Handler ω σ ε β} {o : ω} {s t : σ} {a : α} {b : β} {e : ε}

lemma bind_of_ok (hr : h o s = (.ok a, t)) : (h >>= k) o s = k a o t := by
  show (match h o s with
    | (.ok a, t) => k a o t
    | (.error e, t) => (.error e, t)) = k a o t
  rw [hr]

lemma bind_of_error (hr : h o s = (.error e, t)) : (h >>= k) o s = (.error e, t) := by
  show (match h o s with
    | (.ok a, t) => k a o t
    | (.error e, t) => (.error e, t)) = (.error e, t)
  rw [hr]

/-- **Sequencing**: two handlers return when both do. -/
theorem bind_eq_ok_iff :
    (h >>= k) o s = (.ok b, t) ↔ ∃ a u, h o s = (.ok a, u) ∧ k a o u = (.ok b, t) := by
  rcases hr : h o s with ⟨e | a, u⟩
  · rw [bind_of_error hr]
    refine iff_of_false (fun he => ?_) fun ⟨a, u', he, _⟩ => ?_
    · cases (Prod.mk.inj he).1
    · cases (Prod.mk.inj he).1
  · rw [bind_of_ok hr]
    constructor
    · exact fun hk => ⟨a, u, rfl, hk⟩
    · rintro ⟨a', u', he, hk⟩
      cases he
      exact hk

lemma mapError_eq_ok_iff {f : ω → ε → ε'} :
    h.mapError f o s = (.ok a, t) ↔ h o s = (.ok a, t) := by
  unfold mapError
  rcases h o s with ⟨e | a', u⟩
  · exact iff_of_false (fun he => by cases (Prod.mk.inj he).1) fun he => by cases (Prod.mk.inj he).1
  · simp

lemma mapError_bind (f : ω → ε → ε') :
    (h >>= k).mapError f = h.mapError f >>= fun a => (k a).mapError f := by
  funext o s
  rcases hr : h o s with ⟨e | a, t⟩
  · have hbind : (h >>= k) o s = (.error e, t) := bind_of_error hr
    have hmap : h.mapError f o s = (.error (f o e), t) := by
      unfold mapError
      rw [hr]
    rw [bind_of_error hmap]
    unfold mapError
    rw [hbind]
  · have hbind : (h >>= k) o s = k a o t := bind_of_ok hr
    have hmap : h.mapError f o s = (.ok a, t) := by
      unfold mapError
      rw [hr]
    rw [bind_of_ok hmap]
    unfold mapError
    rw [hbind]

lemma pure_eq_ok_iff {a' : α} :
    (pure a : Handler ω σ ε α) o s = (.ok a', t) ↔ a = a' ∧ s = t := by
  show ((Except.ok a, s) : Except ε α × σ) = _ ↔ _
  simp

lemma fail_ne_ok : (fail e : Handler ω σ ε α) o s ≠ (.ok a, t) := by
  intro h
  cases (Prod.mk.inj h).1

lemma given_eq_ok_iff {o' : ω} :
    (given : Handler ω σ ε ω) o s = (.ok o', t) ↔ o = o' ∧ s = t := by
  show ((Except.ok o, s) : Except ε ω × σ) = _ ↔ _
  simp

lemma look_eq_ok_iff {f : σ → α} :
    (look f : Handler ω σ ε α) o s = (.ok a, t) ↔ f s = a ∧ s = t := by
  show ((Except.ok (f s), s) : Except ε α × σ) = _ ↔ _
  simp

lemma change_eq_ok_iff {f : σ → σ} {u : Unit} :
    (change f : Handler ω σ ε Unit) o s = (.ok u, t) ↔ f s = t := by
  show ((Except.ok (), f s) : Except ε Unit × σ) = _ ↔ _
  simp

lemma ofExcept_eq_ok_iff {x : Except ε α} :
    (ofExcept x : Handler ω σ ε α) o s = (.ok a, t) ↔ x = .ok a ∧ s = t := by
  cases x with
  | ok a' => simp [ofExcept, pure_eq_ok_iff]
  | error e => exact iff_of_false (fun h => by cases (Prod.mk.inj h).1) fun h => by cases h.1

lemma ofOption_eq_ok_iff {x : Option α} :
    (ofOption e x : Handler ω σ ε α) o s = (.ok a, t) ↔ x = some a ∧ s = t := by
  cases x with
  | some a' => simp [ofOption, pure_eq_ok_iff]
  | none => exact iff_of_false (fun h => by cases (Prod.mk.inj h).1) fun h => by cases h.1

/-! ### Frames -/

/-- Whether it returns or fails, the state afterwards is `R`-related to the one before. -/
def Keeps (R : σ → σ → Prop) (h : Handler ω σ ε α) : Prop := ∀ o s, R s (h o s).2

variable {R : σ → σ → Prop}

lemma keeps_pure (hrefl : ∀ s, R s s) (a : α) : Keeps R (pure a : Handler ω σ ε α) :=
  fun _ s => hrefl s

lemma keeps_fail (hrefl : ∀ s, R s s) (e : ε) : Keeps R (fail e : Handler ω σ ε α) :=
  fun _ s => hrefl s

lemma keeps_given (hrefl : ∀ s, R s s) : Keeps R (given : Handler ω σ ε ω) := fun _ s => hrefl s

lemma keeps_look (hrefl : ∀ s, R s s) (f : σ → α) : Keeps R (look f : Handler ω σ ε α) :=
  fun _ s => hrefl s

lemma keeps_change {f : σ → σ} (hf : ∀ s, R s (f s)) : Keeps R (change f : Handler ω σ ε Unit) :=
  fun _ s => hf s

lemma keeps_ofExcept (hrefl : ∀ s, R s s) (x : Except ε α) :
    Keeps R (ofExcept x : Handler ω σ ε α) := by
  cases x with
  | ok a => exact keeps_pure hrefl a
  | error e => exact keeps_fail hrefl e

lemma keeps_ofOption (hrefl : ∀ s, R s s) (e : ε) (x : Option α) :
    Keeps R (ofOption e x : Handler ω σ ε α) := by
  cases x with
  | some a => exact keeps_pure hrefl a
  | none => exact keeps_fail hrefl e

lemma Keeps.bind (htrans : ∀ s t u, R s t → R t u → R s u) (h₁ : Keeps R h)
    (h₂ : ∀ a, Keeps R (k a)) : Keeps R (h >>= k) := by
  intro o s
  have hR := h₁ o s
  rcases hr : h o s with ⟨e | a, t⟩ <;> rw [hr] at hR
  · rw [bind_of_error hr]
    exact hR
  · rw [bind_of_ok hr]
    exact htrans _ _ _ hR (h₂ a o t)

lemma Keeps.mapError (h₁ : Keeps R h) (f : ω → ε → ε') : Keeps R (h.mapError f) := by
  intro o s
  have hR := h₁ o s
  unfold Handler.mapError
  rcases hr : h o s with ⟨e | a, t⟩ <;> rw [hr] at hR <;> exact hR

lemma Keeps.ignore (h₁ : Keeps R h) : Keeps R (h.ignore : Handler ω σ ε' Unit) := h₁

end Handler

end HelbreathBackend.Lib
