import Mathlib.Data.Nat.Find
import Mathlib.Data.Nat.Notation
import Mathlib.Tactic.Common

/-!
Tasks that share a state with others and call out.

A task is what is left of it to do: it has returned, or its next step is an atomic section on
the shared state, or it waits for the reply to a call. Others step in between, so what a task
does is stated against a contract: what others may do to the state meanwhile, what the
sections of the task do to it, and what holds when a call is made. The calls made so far, with
their replies, are kept in a log.
-/

namespace HelbreathBackend.Lib

inductive Task (σ ε ρ α : Type)
  | ret (a : α)
  /-- the state becomes `f s`, and the task goes on knowing what it was -/
  | sync (f : σ → σ) (k : σ → Task σ ε ρ α)
  | call (e : ε) (k : ρ → Task σ ε ρ α)

namespace Task

variable {σ ε ρ α β : Type}

def bind : Task σ ε ρ α → (α → Task σ ε ρ β) → Task σ ε ρ β
  | .ret a, g => g a
  | .sync f k, g => .sync f fun s => (k s).bind g
  | .call e k, g => .call e fun r => (k r).bind g

instance : Monad (Task σ ε ρ) where
  pure := .ret
  bind := bind

/-- Look at the state. -/
def read (f : σ → α) : Task σ ε ρ α := .sync id fun s => .ret (f s)

/-- Change the state. -/
def modify (f : σ → σ) : Task σ ε ρ Unit := .sync f fun _ => .ret ()

/-- Call, and wait for the reply. -/
def request (e : ε) : Task σ ε ρ ρ := .call e .ret

/-- Whatever the states and the replies are, the task only makes calls with `P`. -/
def Asks (P : ε → Prop) : Task σ ε ρ α → Prop
  | .ret _ => True
  | .sync _ k => ∀ s, Asks P (k s)
  | .call e k => P e ∧ ∀ r, Asks P (k r)

/-- Whatever the states and the replies are, the task only returns results with `P`. -/
def Returns (P : α → Prop) : Task σ ε ρ α → Prop
  | .ret a => P a
  | .sync _ k => ∀ s, Returns P (k s)
  | .call _ k => ∀ r, Returns P (k r)

/-- Run a task to its end with nobody else around: `serve` replies to its calls, and has a state of
its own. -/
def runAlone {τ : Type} (serve : ε → τ → ρ × τ) : Task σ ε ρ α → σ → τ → α × σ × τ
  | .ret a, s, u => (a, s, u)
  | .sync f k, s, u => runAlone serve (k s) (f s) u
  | .call e k, s, u => runAlone serve (k (serve e u).1) s (serve e u).2

theorem Returns.runAlone {τ : Type} (serve : ε → τ → ρ × τ) {P : α → Prop} {t : Task σ ε ρ α}
    (h : Returns P t) (s : σ) (u : τ) : P (t.runAlone serve s u).1 := by
  induction t generalizing s u with
  | ret a => exact h
  | sync f k ih => exact ih s (h s) (f s) u
  | call e k ih => exact ih _ (h _) s _

/-- As long as the replies are such as `A` has them, the task only returns results with `P`. -/
def ReturnsUnder (A : ε → ρ → Prop) (P : α → Prop) : Task σ ε ρ α → Prop
  | .ret a => P a
  | .sync _ k => ∀ s, ReturnsUnder A P (k s)
  | .call e k => ∀ r, A e r → ReturnsUnder A P (k r)

/-- As long as the replies are such as `A` has them, the task only makes calls with `P` and only
returns results with `Q`. -/
def ServesUnder (A : ε → ρ → Prop) (P : ε → Prop) (Q : α → Prop) : Task σ ε ρ α → Prop
  | .ret a => Q a
  | .sync _ k => ∀ s, ServesUnder A P Q (k s)
  | .call e k => P e ∧ ∀ r, A e r → ServesUnder A P Q (k r)

theorem Asks.mono {P Q : ε → Prop} {t : Task σ ε ρ α} (h : Asks P t) (himp : ∀ e, P e → Q e) :
    Asks Q t := by
  induction t with
  | ret a => trivial
  | sync f k ih => exact fun s => ih s (h s)
  | call e k ih => exact ⟨himp e h.1, fun r => ih r (h.2 r)⟩

theorem Asks.bind {P : ε → Prop} {t : Task σ ε ρ α} {g : α → Task σ ε ρ β} (h : Asks P t)
    (hg : ∀ a, Asks P (g a)) : Asks P (t >>= g) := by
  induction t with
  | ret a => exact hg a
  | sync f k ih => exact fun s => ih s (h s)
  | call e k ih => exact ⟨h.1, fun r => ih r (h.2 r)⟩

/-- Whatever the states and the replies are, the task returns after `n` steps at most. -/
def EndsWithin : Task σ ε ρ α → ℕ → Prop
  | .ret _, _ => True
  | .sync _ k, n => 0 < n ∧ ∀ s, EndsWithin (k s) (n - 1)
  | .call _ k, n => 0 < n ∧ ∀ r, EndsWithin (k r) (n - 1)

theorem EndsWithin.mono {t : Task σ ε ρ α} {n m : ℕ} (h : EndsWithin t n) (hle : n ≤ m) :
    EndsWithin t m := by
  induction t generalizing n m with
  | ret a => trivial
  | sync f k ih => exact ⟨lt_of_lt_of_le h.1 hle, fun s => ih s (h.2 s) (by omega)⟩
  | call e k ih => exact ⟨lt_of_lt_of_le h.1 hle, fun r => ih r (h.2 r) (by omega)⟩

lemma endsWithin_pure (a : α) (n : ℕ) : EndsWithin (pure a : Task σ ε ρ α) n := trivial

lemma endsWithin_read {f : σ → α} {k : α → Task σ ε ρ β} {n : ℕ}
    (h : ∀ a, EndsWithin (k a) n) : EndsWithin (read f >>= k) (n + 1) :=
  ⟨Nat.succ_pos n, fun s => h (f s)⟩

lemma endsWithin_modify (f : σ → σ) (n : ℕ) : EndsWithin (modify f : Task σ ε ρ Unit) (n + 1) :=
  ⟨Nat.succ_pos n, fun _ => trivial⟩

lemma endsWithin_request {e : ε} {k : ρ → Task σ ε ρ β} {n : ℕ}
    (h : ∀ r, EndsWithin (k r) n) : EndsWithin (request e >>= k) (n + 1) :=
  ⟨Nat.succ_pos n, h⟩

open Classical in
/-- How many steps the task has left at most; it is one that ends. -/
noncomputable def stepsLeft (t : Task σ ε ρ α) : ℕ :=
  if h : ∃ n, EndsWithin t n then Nat.find h else 0

theorem stepsLeft_le {t : Task σ ε ρ α} {n : ℕ} (h : EndsWithin t n) : stepsLeft t ≤ n := by
  classical
  unfold stepsLeft
  rw [dif_pos ⟨n, h⟩]
  exact Nat.find_min' _ h

lemma endsWithin_stepsLeft {t : Task σ ε ρ α} {n : ℕ} (h : EndsWithin t n) :
    EndsWithin t (stepsLeft t) := by
  classical
  unfold stepsLeft
  rw [dif_pos ⟨n, h⟩]
  exact Nat.find_spec ⟨n, h⟩

/-- A section lowers what is left. -/
theorem stepsLeft_sync {f : σ → σ} {k : σ → Task σ ε ρ α} {n : ℕ} (h : EndsWithin (.sync f k) n)
    (s : σ) : stepsLeft (k s) < stepsLeft (.sync f k) := by
  obtain ⟨hpos, hk⟩ := endsWithin_stepsLeft h
  have hle := stepsLeft_le (hk s)
  omega

/-- And so does a reply. -/
theorem stepsLeft_call {e : ε} {k : ρ → Task σ ε ρ α} {n : ℕ} (h : EndsWithin (.call e k) n)
    (r : ρ) : stepsLeft (k r) < stepsLeft (.call e k) := by
  obtain ⟨hpos, hk⟩ := endsWithin_stepsLeft h
  have hle := stepsLeft_le (hk r)
  omega

end Task

/-- What a task may rely on and what it guarantees. -/
structure Contract (σ ε ρ : Type) where
  /-- what others may do between two steps of the task -/
  rely : σ → σ → Prop
  /-- what a step of the task does -/
  guar : σ → σ → Prop
  /-- what holds, with the calls made so far, when a call is made -/
  may : ε → σ → List (ε × ρ) → Prop
  rely_refl : ∀ s, rely s s
  rely_trans : ∀ {s t u}, rely s t → rely t u → rely s u
  guar_refl : ∀ s, guar s s

namespace Contract

variable {σ ε ρ α β : Type} (C : Contract σ ε ρ)

/-- From state `s` and log `l`, whatever the others do within `rely` and whatever is replied,
the task keeps to the contract and returns in a state and with a log that satisfy `post`. -/
def Meets : Task σ ε ρ α → (α → σ → List (ε × ρ) → Prop) → σ → List (ε × ρ) → Prop
  | .ret a, post, s, l => ∀ s', C.rely s s' → post a s' l
  | .sync f k, post, s, l => ∀ s', C.rely s s' → C.guar s' (f s') ∧ Meets (k s') post (f s') l
  | .call e k, post, s, l =>
    ∀ s', C.rely s s' → C.may e s' l ∧ ∀ r, Meets (k r) post s' (l ++ [(e, r)])

variable {C} {t : Task σ ε ρ α} {k : α → Task σ ε ρ β} {s s' : σ} {l : List (ε × ρ)}

/-- What others do in between does not matter. -/
theorem Meets.stable {post : α → σ → List (ε × ρ) → Prop} (h : C.Meets t post s l)
    (hr : C.rely s s') : C.Meets t post s' l := by
  cases t with
  | ret a => exact fun u hu => h u (C.rely_trans hr hu)
  | sync f k => exact fun u hu => h u (C.rely_trans hr hu)
  | call e k => exact fun u hu => h u (C.rely_trans hr hu)

theorem Meets.mono {post post' : α → σ → List (ε × ρ) → Prop} (h : C.Meets t post s l)
    (himp : ∀ a s l, post a s l → post' a s l) : C.Meets t post' s l := by
  induction t generalizing s l with
  | ret a => exact fun u hu => himp a u l (h u hu)
  | sync f k ih => exact fun u hu => ⟨(h u hu).1, ih u (h u hu).2⟩
  | call e k ih => exact fun u hu => ⟨(h u hu).1, fun r => ih r ((h u hu).2 r)⟩

/-- **Sequencing**: what the first task establishes is where the second one starts. -/
theorem Meets.bind {post : β → σ → List (ε × ρ) → Prop}
    (h : C.Meets t (fun a s l => C.Meets (k a) post s l) s l) : C.Meets (t >>= k) post s l := by
  induction t generalizing s l with
  | ret a => exact h s (C.rely_refl s)
  | sync f k ih => exact fun u hu => ⟨(h u hu).1, ih u (h u hu).2⟩
  | call e k ih => exact fun u hu => ⟨(h u hu).1, fun r => ih r ((h u hu).2 r)⟩

theorem meets_pure {post : α → σ → List (ε × ρ) → Prop} {a : α}
    (h : ∀ s', C.rely s s' → post a s' l) : C.Meets (pure a) post s l := h

theorem meets_read {post : β → σ → List (ε × ρ) → Prop} {f : σ → α}
    (h : ∀ s', C.rely s s' → C.Meets (k (f s')) post s' l) :
    C.Meets (Task.read f >>= k) post s l :=
  fun u hu => ⟨C.guar_refl u, h u hu⟩

theorem meets_modify {post : Unit → σ → List (ε × ρ) → Prop} {f : σ → σ}
    (h : ∀ s', C.rely s s' → C.guar s' (f s') ∧ ∀ s'', C.rely (f s') s'' → post () s'' l) :
    C.Meets (Task.modify f) post s l := h

theorem meets_request {post : β → σ → List (ε × ρ) → Prop} {e : ε} {k : ρ → Task σ ε ρ β}
    (h : ∀ s', C.rely s s' → C.may e s' l ∧ ∀ r, C.Meets (k r) post s' (l ++ [(e, r)])) :
    C.Meets (Task.request e >>= k) post s l := h

end Contract

end HelbreathBackend.Lib
