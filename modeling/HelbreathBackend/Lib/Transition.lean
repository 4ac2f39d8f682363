import Mathlib.Data.List.Induction
import Mathlib.Tactic.Common

/-!
Transition systems whose nondeterminism is in the actions.

A state and an action determine the next state, if the action is possible at all. A run
may be restricted by a condition on the state and the action of each of its steps; the
states such runs reach are what the invariant rule is about.
-/

namespace HelbreathBackend.Lib

structure System (σ α : Type*) where
  init : σ → Prop
  step : σ → α → Option σ

namespace System

variable {σ α : Type*} (S : System σ α)

/-- The states reached by runs whose steps all satisfy `C`. -/
inductive ReachedBy (C : σ → α → Prop) : σ → Prop
  | init {s : σ} (h : S.init s) : ReachedBy C s
  | step {s t : σ} {a : α} (hs : ReachedBy C s) (hc : C s a) (h : S.step s a = some t) :
      ReachedBy C t

/-- The states reached by any run. -/
abbrev Reached : σ → Prop := S.ReachedBy fun _ _ => True

variable {S} {C : σ → α → Prop}

lemma ReachedBy.mono {C' : σ → α → Prop} (hC : ∀ s a, C s a → C' s a) {s : σ}
    (h : S.ReachedBy C s) : S.ReachedBy C' s := by
  induction h with
  | init h => exact .init h
  | step _ hc hst ih => exact .step ih (hC _ _ hc) hst

lemma ReachedBy.reached {s : σ} (h : S.ReachedBy C s) : S.Reached s :=
  h.mono fun _ _ _ => trivial

/-- **Invariants**: what holds at the start and is kept by every permitted step holds in
every state reached. -/
theorem ReachedBy.invariant {s : σ} (h : S.ReachedBy C s) (I : σ → Prop)
    (h0 : ∀ s, S.init s → I s) (hstep : ∀ s a t, I s → C s a → S.step s a = some t → I t) :
    I s := by
  induction h with
  | init h => exact h0 _ h
  | step _ hc hst ih => exact hstep _ _ _ ih hc hst

/-- Invariants proved from invariants already known of every reachable state. -/
theorem ReachedBy.invariant_of {s : σ} (h : S.ReachedBy C s) (I : σ → Prop) {J : σ → Prop}
    (hJ : ∀ {s}, S.Reached s → J s) (h0 : ∀ s, S.init s → I s)
    (hstep : ∀ s a t, J s → J t → I s → C s a → S.step s a = some t → I t) : I s := by
  induction h with
  | init h => exact h0 _ h
  | step hs hc hst ih =>
    exact hstep _ _ _ (hJ hs.reached) (hJ (hs.reached.step trivial hst)) ih hc hst

/-- A part of the state that moves as another system does, or not at all, runs as that system. -/
theorem ReachedBy.projected {τ β : Type*} {T : System τ β} (π : σ → τ)
    (h0 : ∀ s, S.init s → T.init (π s))
    (hstep : ∀ s a t, S.step s a = some t → π t = π s ∨ ∃ b, T.step (π s) b = some (π t)) {s : σ}
    (h : S.ReachedBy C s) : T.Reached (π s) := by
  induction h with
  | init h => exact .init (h0 _ h)
  | step hs _ hst ih =>
    rcases hstep _ _ _ hst with hkept | ⟨b, hb⟩
    · rw [hkept]
      exact ih
    · exact ih.step trivial hb

/-! ### Executions

A run written down as the list of its actions is executed; where the condition and the
conclusion can be decided, so can the existence of a state the run reaches. -/

/-- Execute a list of actions, as long as they are possible and permitted. -/
def exec (S : System σ α) (C : σ → α → Prop) [∀ s a, Decidable (C s a)] :
    σ → List α → Option σ
  | s, [] => some s
  | s, a :: as => if C s a then (S.step s a).bind fun t => exec S C t as else none

lemma ReachedBy.exec [∀ s a, Decidable (C s a)] {s t : σ} {as : List α} (hs : S.ReachedBy C s)
    (h : S.exec C s as = some t) : S.ReachedBy C t := by
  induction as generalizing s with
  | nil =>
    cases h
    exact hs
  | cons a as ih =>
    simp only [System.exec] at h
    split at h
    · next hc =>
      obtain ⟨u, hu, hut⟩ := Option.bind_eq_some_iff.mp h
      exact ih (hs.step hc hu) hut
    · cases h

/-- An execution of actions that are permitted in every state. -/
lemma ReachedBy.exec_of_forall {s t : σ} {as : List α} (hs : S.ReachedBy C s)
    (hC : ∀ a ∈ as, ∀ u, C u a) (h : S.exec (fun _ _ => True) s as = some t) :
    S.ReachedBy C t := by
  induction as generalizing s with
  | nil =>
    cases h
    exact hs
  | cons a as ih =>
    simp only [System.exec, if_true] at h
    obtain ⟨u, hu, hut⟩ := Option.bind_eq_some_iff.mp h
    exact ih (hs.step (hC a List.mem_cons_self s) hu) (fun b hb => hC b (List.mem_cons_of_mem _ hb))
      hut

/-- A state with a decidable property, reached by a permitted run that is written down. -/
theorem exists_reachedBy (S : System σ α) (C : σ → α → Prop) [∀ s a, Decidable (C s a)] {s : σ}
    (h0 : S.init s) (as : List α) (p : σ → Bool) (h : (S.exec C s as).any p = true) :
    ∃ t, S.ReachedBy C t ∧ p t = true := by
  obtain ⟨t, ht, hp⟩ := (Option.any_eq_true _ _).mp h
  exact ⟨t, (ReachedBy.init h0).exec ht, hp⟩

/-! ### Runs with their actions -/

/-- The state that the actions lead to. -/
inductive Run (S : System σ α) : List α → σ → Prop
  | init {s : σ} (h : S.init s) : Run S [] s
  | step {as : List α} {s t : σ} {a : α} (hs : Run S as s) (h : S.step s a = some t) :
      Run S (as ++ [a]) t

lemma Run.reached {as : List α} {s : σ} (h : S.Run as s) : S.Reached s := by
  induction h with
  | init h => exact .init h
  | step _ hst ih => exact ih.step trivial hst

lemma ReachedBy.exists_run {s : σ} (h : S.ReachedBy C s) : ∃ as, S.Run as s := by
  induction h with
  | init h => exact ⟨[], .init h⟩
  | step _ _ hst ih =>
    obtain ⟨as, hrun⟩ := ih
    exact ⟨_, hrun.step hst⟩

/-- Invariants of the state and of what was done, proved from invariants already known. -/
theorem Run.invariant {as : List α} {s : σ} (h : S.Run as s) (I : List α → σ → Prop)
    {J : σ → Prop} (hJ : ∀ {s}, S.Reached s → J s) (h0 : ∀ s, S.init s → I [] s)
    (hstep : ∀ as s a t, J s → J t → I as s → S.step s a = some t → I (as ++ [a]) t) :
    I as s := by
  induction h with
  | init h => exact h0 _ h
  | step hs hst ih => exact hstep _ _ _ _ (hJ hs.reached) (hJ (hs.step hst).reached) ih hst

lemma Run.exec {as bs : List α} {s t : σ} (hs : S.Run as s)
    (h : S.exec (fun _ _ => True) s bs = some t) : S.Run (as ++ bs) t := by
  induction bs generalizing as s with
  | nil =>
    cases h
    rwa [List.append_nil]
  | cons b bs ih =>
    simp only [System.exec, if_true] at h
    obtain ⟨u, hu, hut⟩ := Option.bind_eq_some_iff.mp h
    have hrun := ih (hs.step hu) hut
    rwa [List.append_assoc] at hrun

/-- A state with a decidable property, reached by actions that are written down. -/
theorem exists_run (S : System σ α) {s : σ} (h0 : S.init s) (as : List α) (p : σ → Bool)
    (h : (S.exec (fun _ _ => True) s as).any p = true) : ∃ t, S.Run as t ∧ p t = true := by
  obtain ⟨t, ht, hp⟩ := (Option.any_eq_true _ _).mp h
  exact ⟨t, (Run.init h0).exec ht, hp⟩

/-! ### Folds -/

/-- A safe fold is one whose steps are all safe: if a step from a good state leads to a good
state exactly when it meets `C`, then all the states along a fold are good exactly when all
its steps meet `C`. -/
theorem forall_prefix_iff {f : σ → α → σ} {s₀ : σ} {I : σ → Prop} (h0 : I s₀)
    (hstep : ∀ s a, I s → (I (f s a) ↔ C s a)) (as : List α) :
    (∀ p, p <+: as → I (p.foldl f s₀)) ↔
      ∀ p a, p ++ [a] <+: as → C (p.foldl f s₀) a := by
  constructor
  · intro h p a hp
    have hpre : I (p.foldl f s₀) := h p ((List.prefix_append p [a]).trans hp)
    have hnext := h (p ++ [a]) hp
    rw [List.foldl_append] at hnext
    exact (hstep _ a hpre).mp hnext
  · intro h p hp
    induction p using List.reverseRecOn with
    | nil => exact h0
    | append_singleton p a ih =>
      have hpre := ih ((List.prefix_append p [a]).trans hp)
      rw [List.foldl_append]
      exact (hstep _ a hpre).mpr (h p a hp)

/-- Go through a fold and look at each of its steps. -/
def stepsMeet (f : σ → α → σ) (C : σ → α → Prop) [∀ s a, Decidable (C s a)] : σ → List α → Bool
  | _, [] => true
  | s, a :: as => decide (C s a) && stepsMeet f C (f s a) as

lemma stepsMeet_iff {f : σ → α → σ} [∀ s a, Decidable (C s a)] {s₀ : σ} {as : List α} :
    stepsMeet f C s₀ as = true ↔ ∀ p a, p ++ [a] <+: as → C (p.foldl f s₀) a := by
  induction as generalizing s₀ with
  | nil => exact iff_of_true rfl fun p a hp => by simp at hp
  | cons x as ih =>
    rw [stepsMeet, Bool.and_eq_true, decide_eq_true_iff, ih]
    constructor
    · rintro ⟨hx, h⟩ p a hp
      rcases p with _ | ⟨y, p⟩
      · rw [(List.cons_prefix_cons.mp hp).1]
        exact hx
      · obtain ⟨rfl, htail⟩ := List.cons_prefix_cons.mp hp
        exact h p a htail
    · intro h
      refine ⟨h [] x (List.prefix_append [x] as), fun p a hp => ?_⟩
      exact h (x :: p) a (List.cons_prefix_cons.mpr ⟨rfl, hp⟩)

end System

/-! ### Histories -/

section

variable {α : Type*} {P : List α → α → Prop}

/-- An entry of a history with one more entry: the new one, or one that was there. -/
lemma snoc_eq_append_cons {l pre post : List α} {x y : α} (h : l ++ [x] = pre ++ y :: post) :
    (post = [] ∧ pre = l ∧ y = x) ∨ ∃ post', post = post' ++ [x] ∧ l = pre ++ y :: post' := by
  rcases List.eq_nil_or_concat post with rfl | ⟨post', z, rfl⟩
  · obtain ⟨rfl, hxy⟩ := List.append_inj' h rfl
    exact .inl ⟨rfl, rfl, (List.head_eq_of_cons_eq hxy).symm⟩
  · have h : l ++ [x] = (pre ++ y :: post') ++ [z] := by simpa using h
    obtain ⟨rfl, hxz⟩ := List.append_inj' h rfl
    obtain rfl := List.head_eq_of_cons_eq hxz
    exact .inr ⟨post', List.concat_eq_append, rfl⟩

/-- Every entry of the history meets a condition on what came before it. -/
def Along (P : List α → α → Prop) (l : List α) : Prop :=
  ∀ pre x post, l = pre ++ x :: post → P pre x

lemma along_nil : Along P [] := by
  intro pre x post h
  simp at h

lemma along_cons {a : α} {l : List α} :
    Along P (a :: l) ↔ P [] a ∧ Along (fun pre x => P (a :: pre) x) l := by
  constructor
  · intro h
    refine ⟨h [] a l rfl, fun pre x post he => h (a :: pre) x post ?_⟩
    rw [he]
    rfl
  · rintro ⟨ha, h⟩ pre x post he
    rcases pre with _ | ⟨b, pre⟩
    · obtain ⟨rfl, -⟩ := List.cons.inj he
      exact ha
    · obtain ⟨rfl, htail⟩ := List.cons.inj he
      exact h pre x post htail

/-- A history goes on after another one. -/
theorem along_append {l l' : List α} :
    Along P (l ++ l') ↔ Along P l ∧ Along (fun pre x => P (l ++ pre) x) l' := by
  induction l generalizing P with
  | nil => simp [along_nil]
  | cons a l ih =>
    rw [List.cons_append, along_cons, along_cons, ih, and_assoc]
    rfl

lemma along_snoc {l : List α} {x : α} : Along P (l ++ [x]) ↔ Along P l ∧ P l x := by
  rw [along_append, along_cons, List.append_nil]
  simp [along_nil]

/-- What holds along a history held along its beginnings. -/
lemma Along.of_append {l l' : List α} (h : Along P (l ++ l')) : Along P l := (along_append.mp h).1

/-- Since an entry that meets `P`, all have met `q`. -/
def Since (P : List α → α → Prop) (q : α → Prop) (l : List α) : Prop :=
  ∃ pre x post, l = pre ++ x :: post ∧ P pre x ∧ ∀ y ∈ post, q y

lemma not_since_nil {q : α → Prop} : ¬ Since P q [] := by
  rintro ⟨pre, x, post, h, -⟩
  simp at h

lemma since_snoc {q : α → Prop} {l : List α} {x : α} :
    Since P q (l ++ [x]) ↔ P l x ∨ (Since P q l ∧ q x) := by
  constructor
  · rintro ⟨pre, y, post, he, hp, hq⟩
    rcases snoc_eq_append_cons he with ⟨rfl, rfl, rfl⟩ | ⟨post', rfl, rfl⟩
    · exact .inl hp
    · exact .inr ⟨⟨pre, y, post', rfl, hp, fun w hw => hq w (by simp [hw])⟩, hq x (by simp)⟩
  · rintro (hp | ⟨⟨pre, y, post, rfl, hp, hq⟩, hx⟩)
    · exact ⟨l, x, [], rfl, hp, fun _ h => absurd h List.not_mem_nil⟩
    · refine ⟨pre, y, post ++ [x], by simp, hp, fun w hw => ?_⟩
      rcases List.mem_append.mp hw with hw | hw
      · exact hq w hw
      · rwa [List.mem_singleton.mp hw]

/-- Every entry that asks, after what came before it, is answered by a later one. -/
def Answered (asks : List α → α → Bool) (answers : α → α → Bool) (l : List α) : Prop :=
  ∀ pre x post, l = pre ++ x :: post → asks pre x = true → ∃ y ∈ post, answers x y = true

/-- Go through a history with what came before it. -/
def answeredFrom (asks : List α → α → Bool) (answers : α → α → Bool) : List α → List α → Bool
  | _, [] => true
  | pre, x :: post =>
    (!asks pre x || post.any (answers x)) && answeredFrom asks answers (pre ++ [x]) post

variable {asks : List α → α → Bool} {answers : α → α → Bool}

lemma answeredFrom_iff (pre l : List α) :
    answeredFrom asks answers pre l = true ↔
      ∀ mid x post, l = mid ++ x :: post → asks (pre ++ mid) x = true →
        ∃ y ∈ post, answers x y = true := by
  induction l generalizing pre with
  | nil =>
    refine iff_of_true rfl fun mid x post he => ?_
    simp at he
  | cons z l ih =>
    have hz : (!asks pre z || l.any (answers z)) = true ↔
        (asks pre z = true → ∃ y ∈ l, answers z y = true) := by
      rw [Bool.or_eq_true, Bool.not_eq_true', List.any_eq_true]
      cases asks pre z <;> simp
    rw [answeredFrom, Bool.and_eq_true, hz, ih]
    constructor
    · rintro ⟨hhead, htail⟩ mid x post he ha
      rcases mid with _ | ⟨w, mid⟩
      · obtain ⟨rfl, rfl⟩ := List.cons.inj he
        rw [List.append_nil] at ha
        exact hhead ha
      · obtain ⟨rfl, rfl⟩ := List.cons.inj he
        refine htail mid x post rfl ?_
        rwa [List.append_assoc]
    · intro h
      constructor
      · intro ha
        exact h [] z l rfl (by rwa [List.append_nil])
      · intro mid x post he ha
        refine h (z :: mid) x post (by rw [he]; rfl) ?_
        rwa [List.append_assoc] at ha

instance Answered.decidable (l : List α) : Decidable (Answered asks answers l) :=
  decidable_of_iff (answeredFrom asks answers [] l = true) (answeredFrom_iff [] l)

lemma Answered.snoc {l : List α} (h : Answered asks answers l) {x : α} (hx : asks l x = false) :
    Answered asks answers (l ++ [x]) := by
  intro pre y post he ha
  rcases snoc_eq_append_cons he with ⟨rfl, rfl, rfl⟩ | ⟨post', rfl, hl⟩
  · rw [hx] at ha
    cases ha
  · obtain ⟨w, hw, hans⟩ := h pre y post' hl ha
    exact ⟨w, List.mem_append_left _ hw, hans⟩

/-- **Answers end what the asking began**: every entry that asks is answered exactly when
nothing that begins with such an entry, and that only its answers end, is still the case. -/
theorem answered_iff_not_since {ι : Type*} {P : ι → List α → α → Prop} {q : ι → α → Prop}
    (hasks : ∀ pre x, asks pre x = true ↔ ∃ i, P i pre x)
    (hans : ∀ i pre x y, P i pre x → (answers x y = true ↔ ¬ q i y)) (l : List α) :
    Answered asks answers l ↔ ∀ i, ¬ Since (P i) (q i) l := by
  constructor
  · rintro h i ⟨pre, x, post, he, hp, hq⟩
    obtain ⟨y, hy, hyx⟩ := h pre x post he ((hasks pre x).mpr ⟨i, hp⟩)
    exact (hans i pre x y hp).mp hyx (hq y hy)
  · intro h pre x post he ha
    obtain ⟨i, hp⟩ := (hasks pre x).mp ha
    by_contra hno
    refine h i ⟨pre, x, post, he, hp, fun y hy => ?_⟩
    by_contra hq
    exact hno ⟨y, hy, (hans i pre x y hp).mpr hq⟩

end

/-! ### Linked steps -/

section

variable {σ β : Type*} {before after : β → σ} {s t : σ} {l l' : List β}

/-- A list of steps, each of which starts where the one before it has ended. -/
def Linked (before after : β → σ) : σ → List β → σ → Prop
  | s, [], t => s = t
  | s, x :: l, t => before x = s ∧ Linked before after (after x) l t

lemma linked_append :
    Linked before after s (l ++ l') t ↔
      ∃ u, Linked before after s l u ∧ Linked before after u l' t := by
  induction l generalizing s with
  | nil =>
    constructor
    · intro h
      exact ⟨s, rfl, h⟩
    · rintro ⟨u, hu, h⟩
      obtain rfl : s = u := hu
      exact h
  | cons x l ih =>
    have hcons : ∀ (m : List β) (v : σ), Linked before after s (x :: m) v ↔
        before x = s ∧ Linked before after (after x) m v := fun _ _ => Iff.rfl
    rw [List.cons_append, hcons, ih]
    simp only [hcons, and_assoc, exists_and_left]

/-- What is never regained was there before whenever it is there after. -/
lemma Linked.of_last {A : σ → Prop} (h : Linked before after s l t)
    (hmono : ∀ x ∈ l, A (after x) → A (before x)) (ht : A t) : A s := by
  induction l generalizing s with
  | nil =>
    obtain rfl : s = t := h
    exact ht
  | cons x l ih =>
    obtain ⟨rfl, hrest⟩ := h
    exact hmono x List.mem_cons_self (ih hrest fun y hy => hmono y (List.mem_cons_of_mem _ hy))

/-- **What is never regained is lost at most once**, and by one of the steps if at all. -/
theorem Linked.countP_lost {A : σ → Prop} [DecidablePred A] (h : Linked before after s l t)
    (hmono : ∀ x ∈ l, A (after x) → A (before x)) :
    l.countP (fun x => decide (A (before x) ∧ ¬ A (after x))) = if A s ∧ ¬ A t then 1 else 0 := by
  induction l generalizing s with
  | nil =>
    obtain rfl : s = t := h
    rw [if_neg fun hand => hand.2 hand.1]
    rfl
  | cons x l ih =>
    obtain ⟨rfl, hrest⟩ := h
    have hmono' : ∀ y ∈ l, A (after y) → A (before y) := fun y hy =>
      hmono y (List.mem_cons_of_mem _ hy)
    have hlast : A t → A (after x) := Linked.of_last hrest hmono'
    have hhead := hmono x List.mem_cons_self
    rw [List.countP_cons, ih hrest hmono']
    by_cases ha : A (after x)
    · simp [ha, hhead ha]
    · have ht : ¬ A t := fun ht => ha (hlast ht)
      simp [ha, ht]

end

end HelbreathBackend.Lib
