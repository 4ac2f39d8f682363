import HelbreathBackend.World
import HelbreathBackend.Lib.Transition

/-!
The player counters of the coordinator against the sessions it tracks.

The counters are kept by hand next to the session table. They stay a tally of it under every
message but one: a logout of a session that is not tracked takes a player off the map it is
routed to. One step keeps the tally exactly when it is not such a logout (or an entry beyond
what a `u64` counts), and so a run is right all along exactly when all its steps are.
-/

namespace HelbreathBackend.Counters

open HelbreathBackend.Lib HelbreathBackend.Domain HelbreathBackend.Application
open HelbreathBackend.World

/-- The counters are those of the tracked sessions, and so is the total reported. -/
def CountersMatch (c : WorldCoordinator) : Prop :=
  FMap.Tally c.playersByMap c.sessionMap ∧ c.getStats.onlinePlayers = c.sessionMap.keys.card

/-- The messages that keep the counters right in state `c`. -/
def Counted (c : WorldCoordinator) : WorldMessage → Prop
  | .routeToMap mapId sessionId _ command =>
    match command with
    | .enterWorld => sessionId ∈ c.sessionMap ∨ c.sessionMap.keys.card < u64Max
    | .logout => sessionId ∈ c.sessionMap ∨ FMap.count c.playersByMap mapId = 0
    | _ => True
  | _ => True

lemma countersMatch_iff (c : WorldCoordinator) :
    CountersMatch c ↔
      FMap.Tally c.playersByMap c.sessionMap ∧ c.sessionMap.keys.card ≤ u64Max := by
  unfold CountersMatch
  refine and_congr_right fun h => ?_
  simp only [WorldCoordinator.getStats, h.total_eq]
  constructor
  · intro he
    have := Nat.mod_lt c.sessionMap.keys.card (show 0 < u64Max + 1 by omega)
    omega
  · intro hle
    exact Nat.mod_eq_of_lt (by omega)

lemma match_new : CountersMatch WorldCoordinator.new :=
  (countersMatch_iff _).mpr ⟨FMap.tally_empty, Nat.zero_le _⟩

variable {c : WorldCoordinator}

lemma match_registerMap (h : CountersMatch c) (m : MapId) (tx : ChannelId) :
    CountersMatch (c.registerMap m tx) := by
  obtain ⟨ht, hle⟩ := (countersMatch_iff c).mp h
  refine (countersMatch_iff _).mpr ⟨fun x => ?_, hle⟩
  rw [WorldCoordinator.count_registerMap]
  exact ht x

lemma match_unregisterMap (h : CountersMatch c) (m : MapId) :
    CountersMatch (c.unregisterMap m) := by
  obtain ⟨ht, hle⟩ := (countersMatch_iff c).mp h
  refine (countersMatch_iff _).mpr ⟨fun x => ?_, ?_⟩
  · simp only [WorldCoordinator.unregisterMap, FMap.count_erase, FMap.fibre_retain_ne]
    split
    · rfl
    · exact ht x
  · refine le_trans (Finset.card_le_card fun s hs => ?_) hle
    rw [Finmap.mem_keys, Finmap.mem_iff] at hs ⊢
    obtain ⟨b, hb⟩ := hs
    rw [WorldCoordinator.unregisterMap, FMap.lookup_retain, Option.filter_eq_some_iff] at hb
    exact ⟨b, hb.1⟩

/-- Entering the world: from nowhere, from the same map, or from another one. -/
lemma match_enterWorld (h : CountersMatch c) (m : MapId) (s : SessionId) :
    CountersMatch (c.track m s .enterWorld) ↔
      s ∈ c.sessionMap ∨ c.sessionMap.keys.card < u64Max := by
  obtain ⟨ht, hle⟩ := (countersMatch_iff c).mp h
  have hcard := FMap.keys_insert_card c.sessionMap s m
  have hfib := FMap.card_fibre_insert c.sessionMap s m
  have hfle := FMap.card_fibre_le (c.sessionMap.insert s m) m
  rw [countersMatch_iff, WorldCoordinator.track_sessionMap]
  dsimp only
  rcases hs : c.sessionMap.lookup s with _ | m'
  · -- from nowhere: one more on `m`
    have hnot : s ∉ c.sessionMap := Finmap.lookup_eq_none.mp hs
    simp only [hs, Option.isSome_none, Bool.false_eq_true, if_false, reduceCtorEq] at hcard hfib
    have htrack : (c.track m s .enterWorld).playersByMap = (c.increment m).playersByMap := by
      simp [WorldCoordinator.track, hs, WorldCoordinator.increment]
    rw [htrack]
    constructor
    · rintro ⟨-, hle'⟩
      right; omega
    · rintro (hin | hlt)
      · exact absurd hin hnot
      refine ⟨fun x => ?_, by omega⟩
      have hx := hfib x
      have hm := hfib m
      rw [WorldCoordinator.count_increment, ht m, ht x]
      split
      · next hxm => subst hxm; simp only [if_true] at hx; omega
      · next hxm => rw [if_neg (Ne.symm hxm)] at hx; omega
  · have hin : s ∈ c.sessionMap := Finmap.mem_of_lookup_eq_some hs
    simp only [hs, Option.isSome_some, if_true, Option.some.injEq] at hcard hfib
    by_cases hm' : m' = m
    · -- again on the same map: nothing changes
      subst hm'
      have htrack : (c.track m' s .enterWorld).playersByMap = c.playersByMap := by
        simp [WorldCoordinator.track, hs]
      rw [htrack, FMap.insert_lookup hs]
      exact ⟨fun _ => Or.inl hin, fun _ => ⟨ht, hle⟩⟩
    · -- from another map: one less there, one more here
      have htrack : (c.track m s .enterWorld).playersByMap =
          ((c.decrement m').increment m).playersByMap := by
        simp [WorldCoordinator.track, hs, hm', WorldCoordinator.increment,
          WorldCoordinator.decrement]
      rw [htrack]
      refine ⟨fun _ => Or.inl hin, fun _ => ⟨fun x => ?_, by omega⟩⟩
      have hx := hfib x
      have hm := hfib m
      rw [if_neg hm', if_pos rfl] at hm
      rw [WorldCoordinator.count_increment, WorldCoordinator.count_decrement,
        WorldCoordinator.count_decrement, ht m, ht x, if_neg (Ne.symm hm')]
      split
      · next hxm => subst hxm; omega
      · next hxm =>
        rw [if_neg (Ne.symm hxm)] at hx
        split
        · next h' => rw [if_pos h'.symm] at hx; omega
        · next h' => rw [if_neg (Ne.symm h')] at hx; omega

/-- Logging out: of a tracked session, or of one that is nowhere. -/
lemma match_logout (h : CountersMatch c) (m : MapId) (s : SessionId) :
    CountersMatch (c.track m s .logout) ↔
      s ∈ c.sessionMap ∨ FMap.count c.playersByMap m = 0 := by
  obtain ⟨ht, hle⟩ := (countersMatch_iff c).mp h
  have hcard := FMap.keys_erase_card c.sessionMap s
  have hfib := FMap.card_fibre_erase c.sessionMap s
  rw [countersMatch_iff, WorldCoordinator.track_sessionMap]
  dsimp only
  rcases hs : c.sessionMap.lookup s with _ | m'
  · -- not tracked: the counter of `m` goes down, no fibre does
    have hnot : s ∉ c.sessionMap := Finmap.lookup_eq_none.mp hs
    simp only [hs, reduceCtorEq, if_false, Nat.add_zero] at hfib
    have htrack : (c.track m s .logout).playersByMap = (c.decrement m).playersByMap := by
      simp [WorldCoordinator.track, hs, WorldCoordinator.decrement]
    rw [htrack]
    constructor
    · rintro ⟨ht', -⟩
      right
      have hm := ht' m
      rw [WorldCoordinator.count_decrement, if_pos rfl, hfib m, ← ht m] at hm
      omega
    · rintro (hin | hzero)
      · exact absurd hin hnot
      refine ⟨fun x => ?_, by omega⟩
      rw [WorldCoordinator.count_decrement, hfib x, ← ht x]
      split
      · next hxm => subst hxm; omega
      · rfl
  · -- tracked: the counter and the fibre of its map go down together
    have hin : s ∈ c.sessionMap := Finmap.mem_of_lookup_eq_some hs
    have htrack : (c.track m s .logout).playersByMap = (c.decrement m').playersByMap := by
      simp [WorldCoordinator.track, hs, WorldCoordinator.decrement]
    rw [htrack]
    refine ⟨fun _ => Or.inl hin, fun _ => ⟨fun x => ?_, by omega⟩⟩
    have hx := hfib x
    rw [hs] at hx
    rw [WorldCoordinator.count_decrement, ht x]
    split
    · next hxm => subst hxm; simp only [if_true] at hx; omega
    · next hxm =>
      rw [if_neg fun he => hxm (Option.some.inj he).symm] at hx
      omega

/-- **One message** keeps the counters right exactly when it is counted. -/
theorem match_next (h : CountersMatch c) (msg : WorldMessage) :
    CountersMatch (c.next msg) ↔ Counted c msg := by
  cases msg with
  | registerMap m tx => exact iff_of_true (match_registerMap h m tx) trivial
  | unregisterMap m => exact iff_of_true (match_unregisterMap h m) trivial
  | routeToMap m s cid cmd =>
    cases cmd
    case enterWorld => exact match_enterWorld h m s
    case logout => exact match_logout h m s
    all_goals exact iff_of_true h trivial
  | broadcast text => exact iff_of_true h trivial
  | getStats reply => exact iff_of_true h trivial

/-- **The counters along a run**: they match the tracked sessions after every message of a
sequence if and only if no logout in it is of an untracked session on a map whose counter is
positive (and the sessions stay within a `u64`). -/
theorem counters_match_iff (msgs : List WorldMessage) :
    (∀ pre, pre <+: msgs → CountersMatch (WorldCoordinator.run pre)) ↔
      ∀ pre msg, pre ++ [msg] <+: msgs → Counted (WorldCoordinator.run pre) msg :=
  System.forall_prefix_iff match_new (fun _ msg h => match_next h msg) msgs

/-- One session enters map 1; another, which never entered, logs out there. The counter says
nobody is left, the table still has the first session. -/
theorem counter_lost_by_untracked_logout :
    let c := WorldCoordinator.run
      [.registerMap 1 0, .routeToMap 1 (.fill 1) none .enterWorld,
        .routeToMap 1 (.fill 2) none .logout]
    c.sessionMap.lookup (.fill 1) = some 1 ∧ FMap.count c.playersByMap 1 = 0 ∧
      c.getStats.onlinePlayers = 0 ∧ ¬ CountersMatch c := by
  refine ⟨by decide, by decide, by decide, fun h => ?_⟩
  exact absurd h.2 (by decide)

end HelbreathBackend.Counters
