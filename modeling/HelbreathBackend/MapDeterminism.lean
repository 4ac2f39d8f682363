import HelbreathBackend.MapRun

/-!
A tick against the order in which the hash map of players is iterated.

Three of the systems of a tick iterate the players, and all three only send: what a tick
writes, and the state it leaves, are the same in every order. What it sends is not, once two
players are on the map: the positions follow the iteration.
-/

namespace HelbreathBackend.MapServer

open HelbreathBackend.Lib HelbreathBackend.Domain HelbreathBackend.Application

namespace Iteration

/-- The same entries the other way round. -/
def reverse (iter : Iteration) : Iteration where
  order players := (iter.order players).reverse
  complete players := by
    rw [← iter.complete players]
    exact Multiset.coe_reverse _

variable (iter iter' : Iteration) (players : Players)

lemma perm : (iter.order players).Perm (iter'.order players) :=
  Multiset.coe_eq_coe.mp ((iter.complete players).trans (iter'.complete players).symm)

lemma length_order : (iter.order players).length = players.keys.card := by
  calc (iter.order players).length
      = Multiset.card (iter.order players : Multiset (SessionId × PlayerState)) := rfl
    _ = Multiset.card players.entries := by rw [iter.complete, Multiset.card_map]
    _ = players.keys.card := (Multiset.card_map _ _).symm

lemma nodup_order : ((iter.order players).map (·.1)).Nodup := by
  have h : (((iter.order players).map (·.1) : List SessionId) : Multiset SessionId) =
      players.keys.val := by
    rw [← Multiset.map_coe, iter.complete, Multiset.map_map]
    rfl
  rw [← Multiset.coe_nodup, h]
  exact players.keys.nodup

lemma order_eq_of_card_le_one (h : players.keys.card ≤ 1) :
    iter.order players = iter'.order players := by
  have hperm := perm iter iter' players
  have hlen := length_order iter players
  rcases hl : iter.order players with _ | ⟨p, _ | ⟨q, rest⟩⟩
  · rw [hl] at hperm
    exact (List.nil_perm.mp hperm).symm
  · rw [hl] at hperm
    exact (List.perm_singleton.mp hperm.symm).symm
  · rw [hl] at hlen
    simp only [List.length_cons] at hlen
    omega

end Iteration

lemma reverse_ne_of_nodup {α : Type} {l : List α} (h : l.Nodup) (hl : 2 ≤ l.length) :
    l ≠ l.reverse := by
  intro heq
  have h0 : l[0] = l[l.length - 1] := by
    have := List.getElem_of_eq heq (show 0 < l.length by omega)
    rw [this, List.getElem_reverse]
    simp only [Nat.sub_zero]
  have hidx := (List.Nodup.getElem_inj_iff h).mp h0
  omega

namespace MapInstance

variable (m : MapInstance) (iter iter' : Iteration)

/-- However the players are iterated, the tick sends, writes and leaves the same. -/
def Deterministic : Prop := ∀ iter iter', m.processTick iter = m.processTick iter'

/-- The sessions that are on the map when the input of a tick is done: those that were there,
with those of the batch that enter and without those that log out. -/
def presentAfterInput : Finset SessionId := m.pendingCommands.foldl presence m.players.keys

lemma inputStage_keys : m.inputStage.players.keys = m.presentAfterInput := by
  have hopened : m.opened.players = m.players := by rw [opened_eq]
  have h := congrArg Outline.players (systemInput_outline m.opened m.pendingCommands)
  rw [inputStage_eq, presentAfterInput, ← hopened]
  exact h

/-! ### What does not depend on the order -/

lemma processTick_players : (m.processTick iter).players = (m.processTick iter').players := by
  obtain ⟨resolved, h⟩ := processTick_ticked m iter
  obtain ⟨resolved', h'⟩ := processTick_ticked m iter'
  refine Finmap.ext_lookup fun s => ?_
  exact congrFun (h.entries.trans h'.entries.symm) s

/-- **The writes of a tick and the state it leaves are deterministic**: but for what it has
sent, a tick gives the same instance in every order. -/
theorem processTick_agree :
    { m.processTick iter with outboundTx := [] } =
      { m.processTick iter' with outboundTx := [] } := by
  obtain ⟨resolved, h⟩ := processTick_ticked m iter
  obtain ⟨resolved', h'⟩ := processTick_ticked m iter'
  rw [h.eq, h'.eq]
  dsimp only
  rw [processTick_players m iter iter']

lemma IsResolved.unique {c : MapInstance} {resolved resolved' : List ResolvedAttack}
    (h : c.IsResolved resolved) (h' : c.IsResolved resolved') : resolved = resolved' := by
  have hinj : Function.Injective fun a : ResolvedAttack => (a.hit, a.defender, a.defeated) := by
    rintro ⟨a, d, ac, dc, dmg, x⟩ ⟨a', d', ac', dc', dmg', x'⟩ heq
    simp only [ResolvedAttack.hit, Prod.mk.injEq, Hit.mk.injEq] at heq
    obtain ⟨⟨rfl, rfl, rfl, rfl, rfl⟩, -, rfl⟩ := heq
    rfl
  have hzip : ∀ l : List ResolvedAttack, l.map (fun a => (a.hit, a.defender, a.defeated)) =
      (l.map (·.hit)).zip (l.map fun a => (a.defender, a.defeated)) := by
    intro l
    induction l with
    | nil => rfl
    | cons a l ih => rw [List.map_cons, ih]; rfl
  refine List.map_injective_iff.mpr hinj ?_
  rw [hzip, hzip, h.hits, h.falls, h'.hits, h'.falls]

/-- **What a tick sends is deterministic up to order**, but for the one event the AI sends to
whichever player it meets first. -/
theorem processTick_outbound_perm (h : m.inputStage.tickIndex % 100 ≠ 0) :
    (m.processTick iter).outboundTx.Perm (m.processTick iter').outboundTx := by
  obtain ⟨resolved, ht⟩ := processTick_ticked m iter
  obtain ⟨resolved', ht'⟩ := processTick_ticked m iter'
  have hai : ∀ (i : Iteration) (players : Players),
      aiEvents i m.inputStage.tickIndex players = [] := fun _ _ => if_neg h
  have hpos : (positions iter m.inputStage.players).Perm
      (positions iter' m.inputStage.players) := (Iteration.perm iter iter' _).map _
  have haoi : ∀ players : Players, (aoiEvents iter m.inputStage.tickIndex players).Perm
      (aoiEvents iter' m.inputStage.tickIndex players) := by
    intro players
    unfold aoiEvents
    split
    · exact (Iteration.perm iter iter' players).map _
    · exact .refl _
  rw [ht.eq, ht'.eq, ht.attacks.unique ht'.attacks, processTick_players m iter iter']
  dsimp only
  rw [hai, hai, List.append_nil, List.append_nil]
  exact ((hpos.append_left _).append_right _).append (haoi _)

/-! ### What does -/

/-- The positions that two orders send are the same only if the orders are. -/
lemma order_eq_of_processTick_eq (h : m.processTick iter = m.processTick iter') :
    (iter.order m.inputStage.players).map (·.1) = (iter'.order m.inputStage.players).map (·.1) := by
  obtain ⟨resolved, ht⟩ := processTick_ticked m iter
  obtain ⟨resolved', ht'⟩ := processTick_ticked m iter'
  have hout := congrArg MapInstance.outboundTx h
  rw [ht.eq, ht'.eq] at hout
  simp only [List.append_assoc, List.append_cancel_left_eq] at hout
  have hlen : (positions iter m.inputStage.players).length =
      (positions iter' m.inputStage.players).length := by
    rw [positions, positions, List.length_map, List.length_map, Iteration.length_order,
      Iteration.length_order]
  have hpos := (List.append_inj hout hlen).1
  have hname := congrArg (List.filterMap fun
    | OutboundEvent.position sessionId _ _ => some sessionId
    | _ => none) hpos
  simpa only [positions, List.filterMap_map, Function.comp_def, List.filterMap_eq_map'] using hname

lemma not_deterministic_of_two (h : 2 ≤ m.presentAfterInput.card) : ¬ m.Deterministic := by
  intro hdet
  rw [← inputStage_keys] at h
  have hnodup := Iteration.nodup_order default m.inputStage.players
  have hlen : 2 ≤ ((Iteration.order default m.inputStage.players).map (·.1)).length := by
    rw [List.length_map, Iteration.length_order]
    exact h
  have heq := order_eq_of_processTick_eq m default (Iteration.reverse default) (hdet _ _)
  refine reverse_ne_of_nodup hnodup hlen (heq.trans ?_)
  exact List.map_reverse

/-- **A tick is deterministic exactly when its input leaves at most one player on the map.** -/
theorem deterministic_iff : m.Deterministic ↔ m.presentAfterInput.card ≤ 1 := by
  constructor
  · intro h
    by_contra hcard
    exact not_deterministic_of_two m (by omega) h
  · intro hcard iter iter'
    rw [← inputStage_keys] at hcard
    obtain ⟨resolved, ht⟩ := processTick_ticked m iter
    obtain ⟨resolved', ht'⟩ := processTick_ticked m iter'
    -- the combat adds and removes no player
    have hkeys : (m.processTick iter').players.keys = m.inputStage.players.keys := by
      have h := congrArg Outline.players (processTick_outline m iter')
      rw [inputStage_keys]
      exact h
    have hfirst := Iteration.order_eq_of_card_le_one iter iter' m.inputStage.players hcard
    have hlast := Iteration.order_eq_of_card_le_one iter iter' (m.processTick iter').players
      (hkeys ▸ hcard)
    rw [ht.eq, ht'.eq, ht.attacks.unique ht'.attacks, processTick_players m iter iter', positions,
      positions, aiEvents, aiEvents, aoiEvents, aoiEvents, hfirst, hlast]

/-- Two players have come onto an empty map. -/
def twoEntered : MapInstance :=
  { MapInstance.new ⟨1, 16⟩ with
    tickIndex := 1
    pendingCommands := [⟨Uuid.fill 1, some (Uuid.fill 11), .enterWorld⟩,
      ⟨Uuid.fill 2, some (Uuid.fill 12), .enterWorld⟩] }

theorem twoEntered_not_deterministic : ¬ twoEntered.Deterministic := by
  have hcard : twoEntered.presentAfterInput.card = 2 := by decide
  exact not_deterministic_of_two twoEntered hcard.ge

end MapInstance

end HelbreathBackend.MapServer
