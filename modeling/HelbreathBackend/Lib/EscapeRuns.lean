import Mathlib.Algebra.BigOperators.Group.List.Basic
import Mathlib.Algebra.GroupWithZero.Nat
import Mathlib.Tactic.Common

/-!
Run-length coding with an escape symbol.

A token is a literal symbol, or a run `esc n a` that stands for `n` copies of `a`. The
greedy coder takes the run at the front of the input, as far as the count can express, and
writes it as one token when it is long enough or made of the escape symbol. Everything here
is over an arbitrary alphabet; what the code of a list costs is read off its maximal runs.
-/

namespace HelbreathBackend.Lib

/-- An alphabet with an escape symbol, and symbols that count up to `cap`. -/
structure EscapeCode (α : Type*) where
  esc : α
  cap : ℕ
  cap_pos : 0 < cap
  digit : ℕ → α
  value : α → ℕ
  value_digit : ∀ {n}, n ≤ cap → value (digit n) = n

inductive Token (α : Type*)
  | lit (a : α)
  | run (n : ℕ) (a : α)

namespace EscapeCode

variable {α : Type*} (C : EscapeCode α)

/-- The symbols a token is written with. -/
def write : Token α → List α
  | .lit a => [a]
  | .run n a => [C.esc, C.digit n, a]

def writeAll (ts : List (Token α)) : List α := ts.flatMap C.write

/-- What a token stands for. -/
def expand : Token α → List α
  | .lit a => [a]
  | .run n a => List.replicate n a

def expandAll (ts : List (Token α)) : List α := ts.flatMap expand

/-- The tokens a reader can tell apart: literals are not the escape, counts fit. -/
def Valid : Token α → Prop
  | .lit a => a ≠ C.esc
  | .run n _ => 0 < n ∧ n ≤ C.cap

@[simp] lemma writeAll_nil : C.writeAll [] = [] := rfl
@[simp] lemma expandAll_nil : expandAll ([] : List (Token α)) = [] := rfl

@[simp] lemma writeAll_cons (t : Token α) (ts : List (Token α)) :
    C.writeAll (t :: ts) = C.write t ++ C.writeAll ts := by
  simp [writeAll]

@[simp] lemma expandAll_cons (t : Token α) (ts : List (Token α)) :
    expandAll (t :: ts) = expand t ++ expandAll ts := by
  simp [expandAll]

lemma writeAll_append (ts us : List (Token α)) :
    C.writeAll (ts ++ us) = C.writeAll ts ++ C.writeAll us := by
  simp [writeAll]

lemma expandAll_append (ts us : List (Token α)) :
    expandAll (ts ++ us) = expandAll ts ++ expandAll us := by
  simp [expandAll]

lemma writeAll_lits (n : ℕ) (a : α) :
    C.writeAll (List.replicate n (.lit a)) = List.replicate n a := by
  induction n with
  | zero => rfl
  | succ n ih => rw [List.replicate_succ, writeAll_cons, ih, List.replicate_succ]; rfl

lemma expandAll_lits (n : ℕ) (a : α) :
    expandAll (List.replicate n (.lit a)) = List.replicate n a := by
  induction n with
  | zero => rfl
  | succ n ih => rw [List.replicate_succ, expandAll_cons, ih, List.replicate_succ]; rfl

/-- Valid tokens stand for at most `cap` symbols for each one they are written with. -/
lemma length_expandAll_le {ts : List (Token α)} (h : ∀ t ∈ ts, C.Valid t) :
    (expandAll ts).length ≤ C.cap * (C.writeAll ts).length := by
  induction ts with
  | nil => simp
  | cons t ts ih =>
    have ht := h t (by simp)
    have hts := ih fun u hu => h u (by simp [hu])
    have hcap := C.cap_pos
    rw [expandAll_cons, writeAll_cons, List.length_append, List.length_append, Nat.mul_add]
    have hone : (expand t).length ≤ C.cap * (C.write t).length := by
      cases t with
      | lit a => simp only [expand, write, List.length_singleton]; omega
      | run n a =>
        obtain ⟨-, hn⟩ := ht
        simp only [expand, write, List.length_replicate, List.length_cons, List.length_nil]
        omega
    omega

/-! ### Reading -/

/-- No token can be read at the front of the list. -/
def Stuck (s : List α) : Prop := s ≠ [] ∧ ∀ t rest, C.Valid t → s ≠ C.write t ++ rest

/-- **Reading from left to right**, with `k` symbols expanded already and a limit on all of them:
all of the list is read, or it gets stuck, or some token goes over the limit. -/
theorem exists_reading (limit : ℕ) (s : List α) {k : ℕ} (hk : k ≤ limit) :
    ∃ ts, (∀ t ∈ ts, C.Valid t) ∧ k + (expandAll ts).length ≤ limit ∧
      (s = C.writeAll ts ∨ (∃ rest, s = C.writeAll ts ++ rest ∧ C.Stuck rest) ∨
        ∃ t rest, s = C.writeAll ts ++ (C.write t ++ rest) ∧ C.Valid t ∧
          limit < k + (expandAll ts).length + (expand t).length) := by
  induction hn : s.length using Nat.strongRecOn generalizing s k with
  | ind n ih =>
    by_cases hnil : s = []
    · subst hnil
      exact ⟨[], by simp, by simpa using hk, .inl rfl⟩
    by_cases hread : ∃ t rest, C.Valid t ∧ s = C.write t ++ rest
    · obtain ⟨t, rest, ht, rfl⟩ := hread
      rcases Nat.lt_or_ge limit (k + (expand t).length) with hover | hfits
      · refine ⟨[], by simp, by simpa using hk, .inr (.inr ⟨t, rest, rfl, ht, ?_⟩)⟩
        simpa using hover
      · have hshorter : rest.length < n := by
          rw [← hn, List.length_append]
          have hpos : 0 < (C.write t).length := by cases t <;> simp [write]
          omega
        obtain ⟨ts, hts, hle, hend⟩ := ih rest.length hshorter rest hfits rfl
        have hexpand : (expandAll (t :: ts)).length = (expand t).length + (expandAll ts).length := by
          rw [expandAll_cons, List.length_append]
        refine ⟨t :: ts, ?_, by omega, ?_⟩
        · intro u hu
          rcases List.mem_cons.mp hu with rfl | hu
          · exact ht
          · exact hts u hu
        · rw [writeAll_cons]
          rcases hend with rfl | ⟨stuck, rfl, hstuck⟩ | ⟨u, after, rfl, hu, hover⟩
          · exact .inl rfl
          · exact .inr (.inl ⟨stuck, by rw [List.append_assoc], hstuck⟩)
          · exact .inr (.inr ⟨u, after, by rw [List.append_assoc], hu, by omega⟩)
    · refine ⟨[], by simp, by simpa using hk, .inr (.inl ⟨s, rfl, hnil, fun t rest ht he => ?_⟩)⟩
      exact hread ⟨t, rest, ht, he⟩

/-! ### The greedy coder -/

variable [DecidableEq α]

/-- How long the run of `a` that has already `n` copies gets, up to `cap`. -/
def runLength (cap : ℕ) (a : α) : List α → ℕ → ℕ
  | [], n => n
  | b :: t, n => if b = a ∧ n < cap then runLength cap a t (n + 1) else n

/-- The tokens for `n` copies of `a`: one run if it is `long` or has to be escaped. -/
def pack (long n : ℕ) (a : α) : List (Token α) :=
  if long ≤ n ∨ a = C.esc then [.run n a] else List.replicate n (.lit a)

def tokens (long : ℕ) : List α → List (Token α)
  | [] => []
  | a :: t =>
    C.pack long (runLength C.cap a t 1) a ++
      tokens long (t.drop (runLength C.cap a t 1 - 1))
termination_by l => l.length
decreasing_by simp only [List.length_drop, List.length_cons]; omega

lemma runLength_le {cap : ℕ} (a : α) (t : List α) {n : ℕ} (h : n ≤ cap) :
    runLength cap a t n ≤ cap := by
  induction t generalizing n with
  | nil => exact h
  | cons b t ih =>
    rw [runLength]
    split
    · next hb => exact ih hb.2
    · exact h

lemma le_runLength (cap : ℕ) (a : α) (t : List α) (n : ℕ) : n ≤ runLength cap a t n := by
  induction t generalizing n with
  | nil => exact Nat.le_refl n
  | cons b t ih =>
    rw [runLength]
    split
    · exact Nat.le_of_succ_le (ih (n + 1))
    · exact Nat.le_refl n

/-- The run really is there: it and what follows it are the input. -/
lemma replicate_runLength (cap : ℕ) (a : α) (t : List α) (n : ℕ) :
    List.replicate (runLength cap a t n) a ++ t.drop (runLength cap a t n - n) =
      List.replicate n a ++ t := by
  induction t generalizing n with
  | nil => simp [runLength]
  | cons b t ih =>
    rw [runLength]
    split
    · next hb =>
      have hle := le_runLength cap a t (n + 1)
      have hd : runLength cap a t (n + 1) - n = (runLength cap a t (n + 1) - (n + 1)) + 1 := by
        omega
      rw [hd, List.drop_succ_cons, ih, List.replicate_succ', hb.1]
      simp
    · simp

lemma expandAll_pack (long n : ℕ) (a : α) :
    expandAll (C.pack long n a) = List.replicate n a := by
  rw [pack]
  split
  · simp [expand]
  · exact expandAll_lits n a

/-- **The coder loses nothing.** -/
theorem expandAll_tokens (long : ℕ) (l : List α) : expandAll (C.tokens long l) = l := by
  induction l using tokens.induct C with
  | case1 => rw [tokens, expandAll_nil]
  | case2 a t ih =>
    rw [tokens, expandAll_append, expandAll_pack, ih, replicate_runLength]
    rfl

lemma valid_pack {long n : ℕ} (a : α) (hn : 0 < n) (hcap : n ≤ C.cap) :
    ∀ t ∈ C.pack long n a, C.Valid t := by
  intro t ht
  rw [pack] at ht
  split at ht
  · obtain rfl := List.mem_singleton.mp ht
    exact ⟨hn, hcap⟩
  · next hne =>
    obtain rfl := List.eq_of_mem_replicate ht
    exact fun he => hne (Or.inr he)

/-- **The coder writes only valid tokens.** -/
theorem valid_tokens (long : ℕ) (l : List α) : ∀ t ∈ C.tokens long l, C.Valid t := by
  induction l using tokens.induct C with
  | case1 => simp [tokens]
  | case2 a t ih =>
    intro u hu
    rw [tokens, List.mem_append] at hu
    rcases hu with hu | hu
    · exact C.valid_pack a (le_runLength C.cap a t 1) (runLength_le a t C.cap_pos) u hu
    · exact ih u hu

/-! ### The cost of a list -/

/-- The maximal runs of a list, each with its symbol and its length. -/
def runs : List α → List (α × ℕ)
  | [] => []
  | a :: t =>
    match runs t with
    | [] => [(a, 1)]
    | (b, n) :: rest => if a = b then (b, n + 1) :: rest else (a, 1) :: (b, n) :: rest

/-- The list with the given runs. -/
def ofRuns (rs : List (α × ℕ)) : List α := rs.flatMap fun r => List.replicate r.2 r.1

/-- Runs of a list: none is empty, and neighbours differ. -/
def Separated : List (α × ℕ) → Prop
  | [] => True
  | r :: rest => 0 < r.2 ∧ (∀ s ∈ rest.head?, s.1 ≠ r.1) ∧ Separated rest

lemma ofRuns_runs (l : List α) : ofRuns (runs l) = l := by
  induction l with
  | nil => rfl
  | cons a t ih =>
    rw [runs]
    split
    · next h => rw [h] at ih; simpa [ofRuns] using ih
    · next b n rest h =>
      rw [h] at ih
      split
      · next hab =>
        subst hab
        rw [← ih]; simp [ofRuns, List.replicate_succ]
      · rw [← ih]; simp [ofRuns]

lemma separated_runs (l : List α) : Separated (runs l) := by
  induction l with
  | nil => trivial
  | cons a t ih =>
    rw [runs]
    split
    · exact ⟨Nat.one_pos, by simp, trivial⟩
    · next b n rest h =>
      rw [h] at ih
      split
      · exact ⟨Nat.succ_pos n, ih.2.1, ih.2.2⟩
      · next hab =>
        refine ⟨Nat.one_pos, ?_, ih⟩
        intro s hs
        obtain rfl : (b, n) = s := by simpa using hs
        exact fun he => hab he.symm

/-- What the coder spends on `n` copies of `a`, a maximal run. -/
def runCost (long : ℕ) (a : α) (n : ℕ) : ℕ :=
  if a = C.esc then 3 * ((n + C.cap - 1) / C.cap)
  else 3 * (n / C.cap) + if long ≤ n % C.cap then 3 else n % C.cap

def cost (long : ℕ) (l : List α) : ℕ := ((runs l).map fun r => C.runCost long r.1 r.2).sum

lemma length_write_pack (long n : ℕ) (a : α) :
    (C.writeAll (C.pack long n a)).length = if long ≤ n ∨ a = C.esc then 3 else n := by
  rw [pack]
  split
  · simp [write]
  · rw [writeAll_lits, List.length_replicate]

lemma runLength_replicate (cap : ℕ) (a : α) (k : ℕ) (t : List α) (n : ℕ) (hn : n ≤ cap)
    (ht : ∀ b ∈ t.head?, b ≠ a) :
    runLength cap a (List.replicate k a ++ t) n = min (n + k) cap := by
  induction k generalizing n with
  | zero =>
    rw [List.replicate_zero, List.nil_append, Nat.add_zero, Nat.min_eq_left hn]
    rcases t with _ | ⟨b, t⟩
    · rfl
    · rw [runLength, if_neg (fun h => ht b (by simp) h.1)]
  | succ k ih =>
    rw [List.replicate_succ, List.cons_append, runLength]
    split
    · next h => rw [ih (n + 1) h.2]; congr 1; omega
    · next h =>
      have : n = cap := by
        by_contra hne
        exact h ⟨rfl, by omega⟩
      omega

/-- One maximal run at the front costs what `runCost` says. -/
lemma length_write_run {long : ℕ} (h0 : 0 < long) (hlong : long ≤ C.cap) (a : α) (n : ℕ)
    (hn : 0 < n) (t : List α) (ht : ∀ b ∈ t.head?, b ≠ a) :
    (C.writeAll (C.tokens long (List.replicate n a ++ t))).length =
      C.runCost long a n + (C.writeAll (C.tokens long t)).length := by
  have hcap := C.cap_pos
  induction n using Nat.strongRecOn with
  | ind n ih =>
    obtain ⟨k, rfl⟩ : ∃ k, n = k + 1 := ⟨n - 1, by omega⟩
    rw [List.replicate_succ, List.cons_append, tokens, runLength_replicate _ _ _ _ _ hcap ht,
      writeAll_append, List.length_append, length_write_pack]
    rcases Nat.lt_or_ge C.cap (k + 1) with hlt | hge
    · -- the count is full: a token, and the rest of the run again
      have hmin : min (1 + k) C.cap = C.cap := by omega
      have hdrop : (List.replicate k a ++ t).drop (C.cap - 1) =
          List.replicate (k + 1 - C.cap) a ++ t := by
        rw [List.drop_append_of_le_length (by simp; omega), List.drop_replicate]
        congr 2; omega
      rw [hmin, hdrop, ih (k + 1 - C.cap) (by omega) (by omega), if_pos (Or.inl hlong)]
      have hcost : C.runCost long a (k + 1) = 3 + C.runCost long a (k + 1 - C.cap) := by
        obtain ⟨m, hm⟩ : ∃ m, k + 1 = m + C.cap := ⟨k + 1 - C.cap, by omega⟩
        rw [hm, Nat.add_sub_cancel]
        unfold runCost
        rw [Nat.add_mod_right, Nat.add_div_right _ hcap,
          show m + C.cap + C.cap - 1 = m + C.cap - 1 + C.cap by omega, Nat.add_div_right _ hcap]
        split <;> omega
      omega
    · -- the whole run fits one token
      have hmin : min (1 + k) C.cap = k + 1 := by omega
      have hdrop : (List.replicate k a ++ t).drop (k + 1 - 1) = t := by simp
      rw [hmin, hdrop]
      congr 1
      unfold runCost
      by_cases ha : a = C.esc
      · rw [if_pos (Or.inr ha), if_pos ha]
        have : (k + 1 + C.cap - 1) / C.cap = 1 := by
          rw [show k + 1 + C.cap - 1 = k + C.cap by omega, Nat.add_div_right _ hcap,
            Nat.div_eq_of_lt (by omega)]
        omega
      · rw [if_neg ha]
        rcases Nat.lt_or_ge (k + 1) C.cap with h | h
        · rw [Nat.div_eq_of_lt h, Nat.mod_eq_of_lt h]
          simp [ha]
        · have hk : k + 1 = C.cap := by omega
          rw [hk, Nat.div_self hcap, Nat.mod_self, if_pos (Or.inl hlong)]
          split <;> omega

/-- **The length of the code**, from the maximal runs alone. -/
theorem length_write_tokens {long : ℕ} (h0 : 0 < long) (hlong : long ≤ C.cap) (l : List α) :
    (C.writeAll (C.tokens long l)).length = C.cost long l := by
  have key : ∀ rs : List (α × ℕ), Separated rs →
      (C.writeAll (C.tokens long (ofRuns rs))).length =
        (rs.map fun r => C.runCost long r.1 r.2).sum := by
    intro rs hrs
    induction rs with
    | nil => simp [ofRuns, tokens]
    | cons r rest ih =>
      obtain ⟨hpos, hne, hrest⟩ := hrs
      have he : ofRuns (r :: rest) = List.replicate r.2 r.1 ++ ofRuns rest := by simp [ofRuns]
      rw [he, C.length_write_run h0 hlong r.1 r.2 hpos _ ?_, ih hrest, List.map_cons, List.sum_cons]
      intro b hb
      rcases rest with _ | ⟨s, rest⟩
      · simp [ofRuns] at hb
      · obtain ⟨m, hm⟩ : ∃ m, s.2 = m + 1 := ⟨s.2 - 1, by have := hrest.1; omega⟩
        have hs : s.1 = b := by simpa [ofRuns, hm, List.replicate_succ] using hb
        exact hs ▸ hne s (by simp)
  conv_lhs => rw [← ofRuns_runs l]
  exact key _ (separated_runs l)

/-! ### No code is shorter -/

/-- Put a run in front of runs. -/
def addRun (a : α) (n : ℕ) : List (α × ℕ) → List (α × ℕ)
  | [] => [(a, n)]
  | (b, k) :: rest => if a = b then (b, k + n) :: rest else (a, n) :: (b, k) :: rest

lemma runs_cons (a : α) (l : List α) : runs (a :: l) = addRun a 1 (runs l) := by
  rw [runs]
  rcases runs l with _ | ⟨⟨b, k⟩, rest⟩ <;> rfl

lemma addRun_addRun (a : α) (n : ℕ) (rs : List (α × ℕ)) :
    addRun a 1 (addRun a n rs) = addRun a (n + 1) rs := by
  rcases rs with _ | ⟨⟨b, k⟩, rest⟩
  · simp [addRun]
  · by_cases hab : a = b
    · simp [addRun, hab, Nat.add_assoc]
    · simp [addRun, hab]

lemma runs_replicate_append (a : α) (n : ℕ) (l : List α) :
    runs (List.replicate (n + 1) a ++ l) = addRun a (n + 1) (runs l) := by
  induction n with
  | zero => rw [List.replicate_one, List.singleton_append, runs_cons]
  | succ n ih => rw [List.replicate_succ, List.cons_append, runs_cons, ih, addRun_addRun]

/-- Quotient and remainder, when something no larger than the divisor is added. -/
lemma div_mod_add {c : ℕ} (hc : 0 < c) (n : ℕ) {k : ℕ} (hk : k ≤ c) :
    ((n + k) / c = n / c ∧ (n + k) % c = n % c + k) ∨
      ((n + k) / c = n / c + 1 ∧ (n + k) % c + c = n % c + k) := by
  have hn : n + k = c * (n / c) + (n % c + k) := by
    have h := Nat.div_add_mod n c
    omega
  have hmod := Nat.mod_lt n hc
  rcases Nat.lt_or_ge (n % c + k) c with hlt | hge
  · left
    rw [hn, Nat.mul_add_div hc, Nat.mul_add_mod, Nat.div_eq_of_lt hlt, Nat.mod_eq_of_lt hlt]
    simp
  · right
    obtain ⟨y, hy⟩ := Nat.exists_eq_add_of_le hge
    have hy' : y < c := by omega
    rw [hn, hy, Nat.mul_add_div hc, Nat.mul_add_mod, Nat.add_div_left _ hc, Nat.add_mod_left,
      Nat.div_eq_of_lt hy', Nat.mod_eq_of_lt hy']
    have hmul : (c * (n / c) + (c + y)) = (n + k) := by omega
    simp
    omega

variable {C}

/-- A run that gets longer, within one count, costs at most one more token. -/
lemma runCost_add_le {long : ℕ} (h3 : 3 ≤ long) (h4 : long ≤ 4) (a : α) (n : ℕ) {k : ℕ}
    (hk : k ≤ C.cap) : C.runCost long a (n + k) ≤ C.runCost long a n + 3 := by
  have hcap := C.cap_pos
  unfold runCost
  split
  · have hceil : n + k + C.cap - 1 = (n + C.cap - 1) + k := by omega
    have h := div_mod_add hcap (n + C.cap - 1) hk
    rw [hceil]
    omega
  · have h := div_mod_add hcap n hk
    split <;> split <;> omega

/-- A run of literals that gets longer by one costs at most one symbol more. -/
lemma runCost_succ_le {long : ℕ} (h3 : 3 ≤ long) (h4 : long ≤ 4) (hcap : 4 ≤ C.cap) {a : α}
    (ha : a ≠ C.esc) (n : ℕ) : C.runCost long a (n + 1) ≤ C.runCost long a n + 1 := by
  have h := div_mod_add C.cap_pos n (k := 1) (by omega)
  have hmod := Nat.mod_lt n C.cap_pos
  unfold runCost
  rw [if_neg ha, if_neg ha]
  split <;> split <;> omega

/-- What runs cost together. -/
def runsCost (C : EscapeCode α) (long : ℕ) (rs : List (α × ℕ)) : ℕ :=
  (rs.map fun r => C.runCost long r.1 r.2).sum

lemma runCost_zero {long : ℕ} (h : 0 < long) (a : α) : C.runCost long a 0 = 0 := by
  have hcap := C.cap_pos
  unfold runCost
  rw [Nat.zero_add, Nat.div_eq_of_lt (Nat.sub_one_lt_of_lt hcap), Nat.zero_div, Nat.zero_mod,
    if_neg (Nat.not_le.mpr h)]
  split <;> rfl

/-- A run in front costs no more than on its own behind an equal one. -/
lemma runsCost_addRun_le {long : ℕ} (h0 : 0 < long) (a : α) (n : ℕ) {d : ℕ}
    (h : ∀ k, C.runCost long a (k + n) ≤ C.runCost long a k + d) (rs : List (α × ℕ)) :
    C.runsCost long (addRun a n rs) ≤ C.runsCost long rs + d := by
  have halone := h 0
  rw [runCost_zero h0, Nat.zero_add, Nat.zero_add] at halone
  rcases rs with _ | ⟨⟨b, k⟩, rest⟩
  · simpa [addRun, runsCost] using halone
  · by_cases hab : a = b
    · subst hab
      have hk := h k
      have hadd : addRun a n ((a, k) :: rest) = (a, k + n) :: rest := if_pos rfl
      simp only [hadd, runsCost, List.map_cons, List.sum_cons]
      omega
    · simp only [addRun, if_neg hab, runsCost, List.map_cons, List.sum_cons]
      omega

/-- **No code is shorter**: whatever valid tokens stand for a list, writing them takes at least
what the greedy coder spends on the list. -/
theorem cost_expandAll_le {long : ℕ} (h3 : 3 ≤ long) (h4 : long ≤ 4) (hcap : 4 ≤ C.cap)
    {ts : List (Token α)} (hv : ∀ t ∈ ts, C.Valid t) :
    C.cost long (expandAll ts) ≤ (C.writeAll ts).length := by
  induction ts with
  | nil => simp [cost, runs]
  | cons t ts ih =>
    have ht := hv t List.mem_cons_self
    have hrest := ih fun u hu => hv u (List.mem_cons_of_mem _ hu)
    have h0 : 0 < long := by omega
    rw [writeAll_cons, expandAll_cons, List.length_append]
    cases t with
    | lit a =>
      have ha : a ≠ C.esc := ht
      have hcost : C.cost long (a :: expandAll ts) ≤ C.cost long (expandAll ts) + 1 := by
        have hadd := runsCost_addRun_le h0 a 1 (fun k => runCost_succ_le h3 h4 hcap ha k)
          (runs (expandAll ts))
        rw [← runs_cons] at hadd
        exact hadd
      have hlen : (C.write (.lit a)).length = 1 := rfl
      have hexpand : expand (.lit a) ++ expandAll ts = a :: expandAll ts := rfl
      rw [hlen, hexpand]
      omega
    | run n a =>
      obtain ⟨hpos, hn⟩ : 0 < n ∧ n ≤ C.cap := ht
      obtain ⟨m, rfl⟩ : ∃ m, n = m + 1 := ⟨n - 1, by omega⟩
      have hcost : C.cost long (List.replicate (m + 1) a ++ expandAll ts) ≤
          C.cost long (expandAll ts) + 3 := by
        have hadd := runsCost_addRun_le h0 a (m + 1) (fun k => runCost_add_le h3 h4 a k hn)
          (runs (expandAll ts))
        rw [← runs_replicate_append] at hadd
        exact hadd
      have hlen : (C.write (.run (m + 1) a)).length = 3 := rfl
      have hexpand : expand (.run (m + 1) a) ++ expandAll ts =
          List.replicate (m + 1) a ++ expandAll ts := rfl
      rw [hlen, hexpand]
      omega

end EscapeCode

end HelbreathBackend.Lib
