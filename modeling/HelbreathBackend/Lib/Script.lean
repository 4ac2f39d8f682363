import HelbreathBackend.Lib.Handler

/-!
Handlers that run step by step.

A script is what is left of a handler: it has returned or failed, or its next step changes the
state at once and goes on with what it has found. What comes with the request is asked for anew at
each step, and others may change the state between two of them. With nobody else around a script
does what a handler does. A rule for its steps speaks of the steps it has taken before.
-/

namespace HelbreathBackend.Lib

inductive Script (ω σ ε α : Type)
  | ret (r : Except ε α)
  | step (f : ω → σ → σ) (k : ω → σ → Script ω σ ε α)

namespace Script

variable {ω σ τ ε α β : Type}

def bind : Script ω σ ε α → (α → Script ω σ ε β) → Script ω σ ε β
  | .ret (.ok a), g => g a
  | .ret (.error e), _ => .ret (.error e)
  | .step f k, g => .step f fun o s => (k o s).bind g

instance : Monad (Script ω σ ε) where
  pure a := .ret (.ok a)
  bind := bind

def fail (e : ε) : Script ω σ ε α := .ret (.error e)

def ofExcept (x : Except ε α) : Script ω σ ε α := .ret x

def ofOption (e : ε) : Option α → Script ω σ ε α
  | some a => pure a
  | none => fail e

/-- A handler as one step. -/
def atom (h : Handler ω σ ε α) : Script ω σ ε α :=
  .step (fun o s => (h o s).2) fun o s => .ret (h o s).1

/-- A handler that works on a part of the state, as one step. -/
def atomOn (get : τ → σ) (set : σ → τ → τ) (h : Handler ω σ ε α) : Script ω τ ε α :=
  atom fun o s => ((h o (get s)).1, set (h o (get s)).2 s)

/-- With nobody else around. -/
def run : Script ω σ ε α → Handler ω σ ε α
  | .ret r => fun _ s => (r, s)
  | .step f k => fun o s => run (k o s) o (f o s)

variable {s : Script ω σ ε α} {k : α → Script ω σ ε β}

theorem run_bind : (s >>= k).run = s.run >>= fun a => (k a).run := by
  induction s with
  | ret r => cases r <;> rfl
  | step f g ih =>
    funext o t
    exact congrFun (congrFun (ih o t) o) (f o t)

/-! ### Refinement -/

/-- With nobody else around, the script does to a part of the state what the handler does, and
returns what it returns. -/
def Refines (get : τ → σ) (o : ω) (s : Script ω τ ε α) (h : Handler ω σ ε α) : Prop :=
  ∀ t, (s.run o t).1 = (h o (get t)).1 ∧ get (s.run o t).2 = (h o (get t)).2

section

variable {get : τ → σ} {o : ω}

theorem Refines.bind {s : Script ω τ ε α} {k : α → Script ω τ ε β} {h : Handler ω σ ε α}
    {g : α → Handler ω σ ε β} (hs : Refines get o s h) (hk : ∀ a, Refines get o (k a) (g a)) :
    Refines get o (s >>= k) (h >>= g) := by
  intro t
  obtain ⟨hfst, hsnd⟩ := hs t
  rw [run_bind]
  rcases hrun : s.run o t with ⟨e | a, t'⟩
  · rw [hrun] at hfst hsnd
    have hh : h o (get t) = (.error e, get t') := Prod.ext hfst.symm hsnd.symm
    rw [Handler.bind_of_error hrun, Handler.bind_of_error hh]
    exact ⟨rfl, rfl⟩
  · rw [hrun] at hfst hsnd
    have hh : h o (get t) = (.ok a, get t') := Prod.ext hfst.symm hsnd.symm
    rw [Handler.bind_of_ok hrun, Handler.bind_of_ok hh]
    exact hk a t'

lemma refines_atomOn {set : σ → τ → τ} (hset : ∀ a t, get (set a t) = a) (h : Handler ω σ ε α) :
    Refines get o (atomOn get set h) h := fun _ => ⟨rfl, hset _ _⟩

/-- A handler that only looks at what comes with the request. -/
lemma refines_given {s : Script ω τ ε α} {g : ω → Handler ω σ ε α} (h : Refines get o s (g o)) :
    Refines get o s (Handler.given >>= g) := h

lemma refines_pure (a : α) : Refines get o (pure a : Script ω τ ε α) (pure a) :=
  fun _ => ⟨rfl, rfl⟩

lemma refines_fail (e : ε) : Refines get o (fail e : Script ω τ ε α) (Handler.fail e) :=
  fun _ => ⟨rfl, rfl⟩

lemma refines_ofExcept (x : Except ε α) :
    Refines get o (ofExcept x : Script ω τ ε α) (Handler.ofExcept x) := by
  cases x <;> exact fun _ => ⟨rfl, rfl⟩

lemma Refines.bind_ofOption {e : ε} {x : Option α} {k : α → Script ω τ ε β}
    {g : α → Handler ω σ ε β} (hk : ∀ a, x = some a → Refines get o (k a) (g a)) :
    Refines get o (ofOption e x >>= k) (Handler.ofOption e x >>= g) := by
  cases x with
  | none => exact refines_fail e
  | some a => exact hk a rfl

/-- A step outside the part of the state that the handler works on. -/
lemma refines_atom {x : ω → Except ε α} {f : τ → τ} (hf : ∀ t, get (f t) = get t) :
    Refines get o (atom fun o t => (x o, f t)) (Handler.ofExcept (x o)) := by
  intro t
  have hanswer : (Handler.ofExcept (x o) : Handler ω σ ε α) o (get t) = (x o, get t) := by
    cases x o <;> rfl
  rw [hanswer]
  exact ⟨rfl, hf t⟩

end

/-! ### Rules for the steps -/

/-- Whatever others do in between, the steps keep to the rule, and the script returns a result
with a log that satisfies `post`. -/
def Meets (rule : List (ω × σ × σ) → ω → σ → σ → Prop) (post : α → List (ω × σ × σ) → Prop) :
    Script ω σ ε α → List (ω × σ × σ) → Prop
  | .ret (.ok a), l => post a l
  | .ret (.error _), _ => True
  | .step f k, l => ∀ o s, rule l o s (f o s) ∧ Meets rule post (k o s) (l ++ [(o, s, f o s)])

variable {rule : List (ω × σ × σ) → ω → σ → σ → Prop} {l : List (ω × σ × σ)}

theorem Meets.mono {post post' : α → List (ω × σ × σ) → Prop} (h : s.Meets rule post l)
    (himp : ∀ a l, post a l → post' a l) : s.Meets rule post' l := by
  induction s generalizing l with
  | ret r =>
    cases r with
    | ok a => exact himp a l h
    | error e => trivial
  | step f k ih => exact fun o t => ⟨(h o t).1, ih o t (h o t).2⟩

/-- **Sequencing**: the second script starts from what the first one establishes. -/
theorem Meets.bind {post : β → List (ω × σ × σ) → Prop}
    (h : s.Meets rule (fun a l => (k a).Meets rule post l) l) : (s >>= k).Meets rule post l := by
  induction s generalizing l with
  | ret r =>
    cases r with
    | ok a => exact h
    | error e => trivial
  | step f g ih => exact fun o t => ⟨(h o t).1, ih o t (h o t).2⟩

lemma meets_pure {post : α → List (ω × σ × σ) → Prop} {a : α} (h : post a l) :
    (pure a : Script ω σ ε α).Meets rule post l := h

lemma meets_fail {post : α → List (ω × σ × σ) → Prop} (e : ε) :
    (fail e : Script ω σ ε α).Meets rule post l := trivial

lemma meets_ofExcept {post : α → List (ω × σ × σ) → Prop} {x : Except ε α}
    (h : ∀ a, x = .ok a → post a l) : (ofExcept x : Script ω σ ε α).Meets rule post l := by
  cases x with
  | ok a => exact h a rfl
  | error e => trivial

lemma meets_ofOption {post : α → List (ω × σ × σ) → Prop} {e : ε} {x : Option α}
    (h : ∀ a, x = some a → post a l) : (ofOption e x : Script ω σ ε α).Meets rule post l := by
  cases x with
  | some a => exact h a rfl
  | none => trivial

lemma meets_atom {post : α → List (ω × σ × σ) → Prop} {h : Handler ω σ ε α}
    (hrule : ∀ o s, rule l o s (h o s).2)
    (hpost : ∀ o s a, (h o s).1 = .ok a → post a (l ++ [(o, s, (h o s).2)])) :
    (atom h).Meets rule post l := by
  intro o s
  refine ⟨hrule o s, ?_⟩
  change Meets rule post (.ret (h o s).1) (l ++ [(o, s, (h o s).2)])
  rcases hr : (h o s).1 with e | a
  · trivial
  · exact hpost o s a hr

/-! ### Rules that do not look back -/

/-- Whatever others do in between, each step is `R`-related. -/
def Always (R : ω → σ → σ → Prop) : Script ω σ ε α → Prop
  | .ret _ => True
  | .step f k => ∀ o s, R o s (f o s) ∧ Always R (k o s)

variable {R : ω → σ → σ → Prop}

theorem Always.bind (h : s.Always R) (hk : ∀ a, (k a).Always R) : (s >>= k).Always R := by
  induction s with
  | ret r =>
    cases r with
    | ok a => exact hk a
    | error e => trivial
  | step f g ih => exact fun o t => ⟨(h o t).1, ih o t (h o t).2⟩

lemma always_pure (a : α) : (pure a : Script ω σ ε α).Always R := trivial

lemma always_fail (e : ε) : (fail e : Script ω σ ε α).Always R := trivial

lemma always_ofOption_bind {γ : Type} {e : ε} {x : Option γ} {k : γ → Script ω σ ε β}
    (h : ∀ a, x = some a → (k a).Always R) : (ofOption e x >>= k).Always R := by
  cases x with
  | none => trivial
  | some a => exact h a rfl

lemma always_atom {h : Handler ω σ ε α} (hR : ∀ o s, R o s (h o s).2) : (atom h).Always R :=
  fun o s => ⟨hR o s, trivial⟩

/-- A rule that allows such steps from some log on. -/
theorem Always.meets (h : s.Always R)
    (hrule : ∀ l' o t t', l <+: l' → R o t t' → rule l' o t t') :
    s.Meets rule (fun _ _ => True) l := by
  induction s generalizing l with
  | ret r => cases r <;> trivial
  | step f k ih =>
    refine fun o t => ⟨hrule l o t _ List.prefix_rfl (h o t).1, ih o t (h o t).2 ?_⟩
    exact fun l' o' u u' hl => hrule l' o' u u' ((List.prefix_append _ _).trans hl)

lemma meets_step_iff {post : α → List (ω × σ × σ) → Prop} {f : ω → σ → σ}
    {k : ω → σ → Script ω σ ε α} :
    (step f k).Meets rule post l ↔ ∀ o s, rule l o s (f o s) ∧
      (k o s).Meets rule post (l ++ [(o, s, f o s)]) := Iff.rfl

-- From here on the rules above are the way to them: unfolding one evaluates its script.
attribute [irreducible] Meets Always

end Script

end HelbreathBackend.Lib
