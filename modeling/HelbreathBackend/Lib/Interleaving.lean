import Mathlib.Data.List.Perm.Basic
import Mathlib.Logic.Function.Basic
import Mathlib.Tactic.Common

/-!
Interleavings of keyed inputs.

Every input has a key, and each key has a machine of its own that sees the inputs of its key
and no others. Two lists of inputs that order the inputs of each key alike are interleavings
of the same lists: the machines end in the same states, and what they put out is ordered
alike, key by key, and the same up to order taken together.
-/

namespace HelbreathBackend.Lib

section

variable {α β κ : Type*} [DecidableEq κ]

/-- The two lists order the entries of each key alike. -/
def SameOrder (key : α → κ) (l l' : List α) : Prop :=
  ∀ k, l.filter (fun a => key a = k) = l'.filter fun a => key a = k

variable {key : α → κ} {l l' l'' : List α}

lemma SameOrder.refl (key : α → κ) (l : List α) : SameOrder key l l := fun _ => rfl

lemma SameOrder.symm (h : SameOrder key l l') : SameOrder key l' l := fun k => (h k).symm

lemma SameOrder.append {m m' : List α} (h : SameOrder key l l') (hm : SameOrder key m m') :
    SameOrder key (l ++ m) (l' ++ m') := by
  intro k
  rw [List.filter_append, List.filter_append, h k, hm k]

/-- The first entry of a list is in the other one, with entries of other keys before it. -/
lemma SameOrder.split {a : α} (h : SameOrder key (a :: l) l') :
    ∃ u v, l' = u ++ a :: v ∧ SameOrder key l (u ++ v) := by
  have ha := h (key a)
  rw [List.filter_cons_of_pos (by simp)] at ha
  obtain ⟨u, v, hl', hu, -, hv⟩ := List.filter_eq_cons_iff.mp ha.symm
  refine ⟨u, v, hl', fun k => ?_⟩
  have hk := h k
  rw [hl', List.filter_append] at hk
  rw [List.filter_append]
  by_cases hak : key a = k
  · subst hak
    have hnil : u.filter (fun b => key b = key a) = [] := List.filter_eq_nil_iff.mpr hu
    rw [hnil, List.nil_append, List.filter_cons_of_pos (by simp),
      List.filter_cons_of_pos (by simp)] at hk
    rw [hnil, List.nil_append]
    exact (List.cons.inj hk).2
  · rwa [List.filter_cons_of_neg (by simp [hak]), List.filter_cons_of_neg (by simp [hak])] at hk

/-- **Interleavings of the same lists are the same up to order.** -/
theorem SameOrder.perm (h : SameOrder key l l') : l.Perm l' := by
  induction l generalizing l' with
  | nil =>
    rcases l' with _ | ⟨b, t⟩
    · exact List.Perm.nil
    · have hb := h (key b)
      rw [List.filter_cons_of_pos (by simp)] at hb
      cases hb
  | cons a l ih =>
    obtain ⟨u, v, rfl, hrest⟩ := h.split
    exact ((ih hrest).cons a).trans List.perm_middle.symm

theorem subperm_of_filter (h : ∀ k,
    (l.filter fun a => key a = k).Subperm (l'.filter fun a => key a = k)) : l.Subperm l' := by
  classical
  refine List.subperm_ext_iff.mpr fun a _ => ?_
  have hcount := (h (key a)).count_le a
  rwa [List.count_filter (by simp), List.count_filter (by simp)] at hcount

lemma subperm_filterMap (f : α → Option β) (h : l.Subperm l') :
    (l.filterMap f).Subperm (l'.filterMap f) := by
  obtain ⟨m, hperm, hsub⟩ := h
  exact ⟨m.filterMap f, hperm.filterMap f, hsub.filterMap f⟩

lemma sameOrder_of_perm {ks ks' : List κ} (h : ks.Perm ks') : SameOrder id ks ks' := by
  intro k
  have hrep : ∀ l : List κ,
      l.filter (fun a => decide (id a = k)) = List.replicate (l.count k) k := by
    intro l
    rw [← List.filter_beq]
    refine List.filter_congr fun a _ => ?_
    rw [id, beq_eq_decide]
  rw [hrep, hrep, h.count_eq]

lemma SameOrder.flatMap {key' : β → κ} (h : SameOrder key l l') {g : α → List β}
    (hg : ∀ a, ∀ b ∈ g a, key' b = key a) : SameOrder key' (l.flatMap g) (l'.flatMap g) := by
  have hfilter : ∀ (k : κ) (l : List α), (l.flatMap g).filter (fun b => key' b = k) =
      (l.filter fun a => key a = k).flatMap g := by
    intro k l
    induction l with
    | nil => rfl
    | cons a l ih =>
      rw [List.flatMap_cons, List.filter_append, ih]
      by_cases ha : key a = k
      · rw [List.filter_cons_of_pos (by simpa using ha), List.flatMap_cons]
        congr 1
        exact List.filter_eq_self.mpr fun b hb => by simp [hg a b hb, ha]
      · rw [List.filter_cons_of_neg (by simpa using ha)]
        have hnil : (g a).filter (fun b => key' b = k) = [] :=
          List.filter_eq_nil_iff.mpr fun b hb => by simp [hg a b hb, ha]
        rw [hnil, List.nil_append]
  intro k
  rw [hfilter, hfilter, h k]

end

/-! ### One machine for each key -/

section

variable {α β κ S : Type*}

/-- What one machine puts out, input by input. -/
def outputs (step : S → α → S × β) : S → List α → List β
  | _, [] => []
  | s, a :: l => (step s a).2 :: outputs step (step s a).1 l

/-- The state one machine ends in. -/
def final (step : S → α → S × β) (s : S) (l : List α) : S := l.foldl (fun s a => (step s a).1) s

lemma final_append (step : S → α → S × β) (s : S) (l l' : List α) :
    final step s (l ++ l') = final step (final step s l) l' := List.foldl_append

lemma outputs_append (step : S → α → S × β) (s : S) (l l' : List α) :
    outputs step s (l ++ l') = outputs step s l ++ outputs step (final step s l) l' := by
  induction l generalizing s with
  | nil => rfl
  | cons a l ih =>
    rw [List.cons_append, outputs, outputs, ih]
    rfl

/-- While an invariant says what the outputs come to, they come to that. -/
theorem outputs_flatMap {γ : Type*} {step : S → α → S × β} {I : S → Prop} {g : β → List γ}
    {f : α → List γ} {s : S} {l : List α} (h0 : I s)
    (hstep : ∀ s, ∀ a ∈ l, I s → g (step s a).2 = f a ∧ I (step s a).1) :
    (outputs step s l).flatMap g = l.flatMap f ∧ I (final step s l) := by
  induction l generalizing s with
  | nil => exact ⟨rfl, h0⟩
  | cons a l ih =>
    obtain ⟨hout, hnext⟩ := hstep s a List.mem_cons_self h0
    obtain ⟨houts, hlast⟩ := ih hnext fun t b hb => hstep t b (List.mem_cons_of_mem _ hb)
    refine ⟨?_, hlast⟩
    rw [outputs, List.flatMap_cons, List.flatMap_cons, hout, houts]

variable [DecidableEq κ] (key : α → κ) (step : S → α → S × β)

/-- What all machines put out, each output under the key of its machine. -/
def outputsAll : (κ → S) → List α → List (κ × β)
  | _, [] => []
  | g, a :: l =>
    (key a, (step (g (key a)) a).2) ::
      outputsAll (Function.update g (key a) (step (g (key a)) a).1) l

/-- The states all machines end in. -/
def finalAll : (κ → S) → List α → κ → S
  | g, [] => g
  | g, a :: l => finalAll (Function.update g (key a) (step (g (key a)) a).1) l

/-- **Each machine sees its own inputs only.** -/
theorem finalAll_apply (g : κ → S) (l : List α) (k : κ) :
    finalAll key step g l k = final step (g k) (l.filter fun a => key a = k) := by
  induction l generalizing g with
  | nil => rfl
  | cons a l ih =>
    rw [finalAll, ih]
    by_cases ha : key a = k
    · rw [List.filter_cons_of_pos (by simpa using ha), ← ha, Function.update_self]
      rfl
    · rw [List.filter_cons_of_neg (by simpa using ha), Function.update_of_ne (Ne.symm ha)]

variable {key step}

theorem finalAll_invariant {I : κ → S → Prop} {g : κ → S} (hg : ∀ k, I k (g k))
    (hstep : ∀ a s, I (key a) s → I (key a) (step s a).1) (l : List α) (k : κ) :
    I k (finalAll key step g l k) := by
  induction l generalizing g with
  | nil => exact hg k
  | cons a l ih =>
    rw [finalAll]
    refine ih fun k => ?_
    rw [Function.update_apply]
    split
    · next h =>
      subst h
      exact hstep a _ (hg _)
    · exact hg k

lemma finalAll_some {S : Type*} {P : S → Prop} {step : Option S → α → Option S × β}
    {g : κ → Option S} (hg : ∀ k s, g k = some s → P s)
    (hstep : ∀ {entry a}, (∀ s, entry = some s → P s) → ∀ s, (step entry a).1 = some s → P s)
    (l : List α) : ∀ k s, finalAll key step g l k = some s → P s :=
  finalAll_invariant (I := fun _ entry => ∀ s, entry = some s → P s) hg (fun _ _ => hstep) l

lemma finalAll_keeps {γ : Type*} {f : S → γ} (hstep : ∀ s a, f (step s a).1 = f s) (g : κ → S)
    (l : List α) (k : κ) : f (finalAll key step g l k) = f (g k) :=
  finalAll_invariant (I := fun k s => f s = f (g k)) (fun _ => rfl)
    (fun a s h => (hstep s a).trans h) l k

theorem outputsAll_forall {I : κ → S → Prop} {P : κ → β → Prop} {g : κ → S}
    (hg : ∀ k, I k (g k)) (hstep : ∀ a s, I (key a) s → I (key a) (step s a).1)
    (hout : ∀ a s, I (key a) s → P (key a) (step s a).2) (l : List α) :
    ∀ o ∈ outputsAll key step g l, P o.1 o.2 := by
  induction l generalizing g with
  | nil => exact fun o ho => absurd ho List.not_mem_nil
  | cons a l ih =>
    intro o ho
    rcases List.mem_cons.mp ho with rfl | ho
    · exact hout a _ (hg _)
    · refine ih (fun k => ?_) o ho
      rw [Function.update_apply]
      split
      · next h =>
        subst h
        exact hstep a _ (hg _)
      · exact hg k

variable (key step)

theorem outputsAll_filter (g : κ → S) (l : List α) (k : κ) :
    (outputsAll key step g l).filter (fun o => o.1 = k) =
      (outputs step (g k) (l.filter fun a => key a = k)).map (k, ·) := by
  induction l generalizing g with
  | nil => rfl
  | cons a l ih =>
    rw [outputsAll]
    by_cases ha : key a = k
    · rw [List.filter_cons_of_pos (by simpa using ha), List.filter_cons_of_pos (by simpa using ha),
        ih, ← ha, Function.update_self]
      rfl
    · rw [List.filter_cons_of_neg (by simpa using ha), List.filter_cons_of_neg (by simpa using ha),
        ih, Function.update_of_ne (Ne.symm ha)]

variable {key step} {l l' : List α}

/-- An output is that of one input, from what its machine made of the inputs before. -/
theorem mem_outputsAll {g : κ → S} {o : κ × β} :
    o ∈ outputsAll key step g l ↔ ∃ pre a post, l = pre ++ a :: post ∧
      o = (key a, (step (finalAll key step g pre (key a)) a).2) := by
  induction l generalizing g with
  | nil =>
    refine iff_of_false List.not_mem_nil ?_
    rintro ⟨pre, a, post, h, -⟩
    simp at h
  | cons b l ih =>
    rw [outputsAll, List.mem_cons, ih]
    constructor
    · rintro (rfl | ⟨pre, a, post, rfl, rfl⟩)
      · exact ⟨[], b, l, rfl, rfl⟩
      · exact ⟨b :: pre, a, post, rfl, rfl⟩
    · rintro ⟨pre, a, post, he, rfl⟩
      rcases pre with _ | ⟨c, pre⟩
      · obtain ⟨rfl, rfl⟩ := List.cons.inj he
        exact .inl rfl
      · obtain ⟨rfl, rfl⟩ := List.cons.inj he
        exact .inr ⟨pre, a, post, rfl, rfl⟩

lemma outputsAll_flatMap {γ : Type*} {f : κ × β → List γ} {reply : α → Option γ}
    (h : ∀ a s, f (key a, (step s a).2) = (reply a).toList) (g : κ → S) (l : List α) :
    (outputsAll key step g l).flatMap f = l.filterMap reply := by
  induction l generalizing g with
  | nil => rfl
  | cons a l ih =>
    rw [outputsAll, List.flatMap_cons, ih, h, List.filterMap_cons]
    cases reply a <;> rfl

lemma finalAll_filter {p : α → Bool} (h : ∀ a, p a = false → ∀ s, (step s a).1 = s) (g : κ → S)
    (l : List α) : finalAll key step g (l.filter p) = finalAll key step g l := by
  induction l generalizing g with
  | nil => rfl
  | cons a l ih =>
    rw [List.filter_cons, finalAll]
    cases hp : p a with
    | true => rw [if_pos rfl, finalAll, ih]
    | false => rw [if_neg Bool.false_ne_true, ih, h a hp, Function.update_eq_self]

lemma outputsAll_flatMap_filter {γ : Type*} {p : α → Bool} {f : κ × β → List γ}
    (h : ∀ a, p a = false → ∀ s, (step s a).1 = s ∧ f (key a, (step s a).2) = []) (g : κ → S)
    (l : List α) :
    (outputsAll key step g (l.filter p)).flatMap f = (outputsAll key step g l).flatMap f := by
  induction l generalizing g with
  | nil => rfl
  | cons a l ih =>
    rw [List.filter_cons, outputsAll, List.flatMap_cons]
    cases hp : p a with
    | true => rw [if_pos rfl, outputsAll, List.flatMap_cons, ih]
    | false =>
      obtain ⟨hstate, hout⟩ := h a hp (g (key a))
      rw [if_neg Bool.false_ne_true, ih, hstate, hout, List.nil_append, Function.update_eq_self]

lemma SameOrder.finalAll (h : SameOrder key l l') (g : κ → S) :
    finalAll key step g l = finalAll key step g l' := by
  funext k
  rw [finalAll_apply, finalAll_apply, h k]

lemma SameOrder.outputsAll (h : SameOrder key l l') (g : κ → S) :
    SameOrder Prod.fst (outputsAll key step g l) (outputsAll key step g l') := by
  intro k
  rw [outputsAll_filter, outputsAll_filter, h k]

end

end HelbreathBackend.Lib
