import HelbreathBackend.MapTimers

/-!
The gauge of the players online.

Every instance of the process sets the same gauge, `METRICS.players_online_total`, to the number
of its own players, and does so when one of them enters or logs out; the manager that activates
and aborts the instances does not touch it. What the gauge says about all of them together is
right as long as there is never more than one of them with players, and none is aborted with
players in it.
-/

namespace HelbreathBackend.MapGauge

open HelbreathBackend.Lib HelbreathBackend.Domain HelbreathBackend.Application
open HelbreathBackend.MapServer HelbreathBackend.MapServer.MapInstance

/-! ### What a tick does to the gauge -/

/-- The command of somebody who comes or goes. -/
def crosses (incoming : IncomingCommand) : Bool :=
  match incoming.command with
  | .enterWorld | .logout => true
  | _ => false

lemma presence_of_not_crosses {incoming : IncomingCommand} (h : crosses incoming = false)
    (present : Finset SessionId) : presence present incoming = present := by
  obtain ⟨s, characterId, command⟩ := incoming
  cases command
  case enterWorld | logout => cases h
  all_goals rfl

lemma inputCommand_keys (m : MapInstance) (incoming : IncomingCommand) :
    (m.inputCommand incoming).players.keys = presence m.players.keys incoming := by
  have h := congrArg Outline.players (inputCommand_outline m incoming)
  dsimp only [outline] at h
  exact h

lemma inputCommand_gauge (m : MapInstance) (incoming : IncomingCommand) :
    (m.inputCommand incoming).playersOnlineTotal = m.playersOnlineTotal ++
      if crosses incoming then [(m.inputCommand incoming).players.keys.card] else [] := by
  obtain ⟨s, characterId, command⟩ := incoming
  cases command
  case move x y run =>
    unfold inputCommand
    dsimp only
    split <;> exact (List.append_nil _).symm
  case enterWorld | logout => rfl
  all_goals exact (List.append_nil _).symm

lemma systemInput_gauge (m : MapInstance) (l : List IncomingCommand) :
    ∃ sets, (m.systemInput l).playersOnlineTotal = m.playersOnlineTotal ++ sets ∧
      sets.getLast? = if l.any crosses then some (m.systemInput l).players.keys.card else none := by
  induction l using List.reverseRecOn with
  | nil => exact ⟨[], (List.append_nil _).symm, rfl⟩
  | append_singleton l incoming ih =>
    obtain ⟨sets, hsets, hlast⟩ := ih
    have hsnoc : m.systemInput (l ++ [incoming]) = (m.systemInput l).inputCommand incoming :=
      List.foldl_append
    rw [hsnoc, inputCommand_gauge, hsets, List.append_assoc, List.any_append, List.any_cons,
      List.any_nil, Bool.or_false]
    refine ⟨_, rfl, ?_⟩
    cases h : crosses incoming with
    | true => simp
    | false =>
      rw [inputCommand_keys, presence_of_not_crosses h]
      simp [hlast]

/-- **What a tick sets the gauge to**: nothing, unless somebody in its batch comes or goes, and
then the number of players it leaves. -/
lemma tick_gauge (m : MapInstance) (iter : Iteration) :
    ∃ sets, (m.tick iter).playersOnlineTotal = m.playersOnlineTotal ++ sets ∧
      sets.getLast? =
        if m.batch.any crosses then some (m.tick iter).players.keys.card else none := by
  obtain ⟨resolved, hticked⟩ := tick_ticked m iter
  obtain ⟨-, hplayers, -, hinput⟩ := opened_begun m
  obtain ⟨sets, hsets, hlast⟩ := systemInput_gauge m.begun.opened m.batch
  have hstart : m.begun.opened.playersOnlineTotal = m.playersOnlineTotal := by
    rw [opened_eq, begun_eq]
  have hkeys : (m.tick iter).players.keys = (m.begun.opened.systemInput m.batch).players.keys := by
    have hin := congrArg Outline.players (systemInput_outline m.begun.opened m.batch)
    dsimp only [outline] at hin
    rw [tick_keys, hin, hplayers, batch]
  refine ⟨sets, ?_, ?_⟩
  · rw [hticked.eq]
    dsimp only
    rw [hinput, hsets, hstart]
  · rw [hlast, hkeys]

lemma tick_keys_of_not_crosses {m : MapInstance} (h : m.batch.any crosses = false)
    (iter : Iteration) : (m.tick iter).players.keys = m.players.keys := by
  have hkeep : ∀ (l : List IncomingCommand) (present : Finset SessionId),
      l.any crosses = false → l.foldl presence present = present := by
    intro l
    induction l with
    | nil => exact fun _ _ => rfl
    | cons incoming l ih =>
      intro present hl
      rw [List.any_cons, Bool.or_eq_false_iff] at hl
      rw [List.foldl_cons, presence_of_not_crosses hl.1, ih present hl.2]
  rw [tick_keys]
  exact hkeep m.batch m.players.keys h

/-! ### The process -/

abbrev TaskId := ℕ

/-- The map tasks of the process, the table of the manager, and the gauge. -/
structure MapProcess where
  runtimes : FMap MapId TaskId
  instances : FMap TaskId MapInstance
  nextTask : TaskId
  playersOnlineTotal : ℕ

inductive Action
  | activate (mapId : MapId)
  /-- takes the handle of the map out of the table -/
  | deactivate (mapId : MapId)
  /-- ends a deactivation: the task whose handle was taken out is aborted -/
  | abort (task : TaskId)
  | incoming (task : TaskId) (command : IncomingCommand)
  | tick (task : TaskId) (iter : Iteration)

namespace MapProcess

def start : MapProcess := ⟨∅, ∅, 0, 0⟩

variable (w : MapProcess)

/-- A map that is active is left alone. -/
def activate (commandBudget : ℕ) (mapId : MapId) : MapProcess :=
  if mapId ∈ w.runtimes then w
  else
    { w with
      runtimes := w.runtimes.insert mapId w.nextTask
      instances := w.instances.insert w.nextTask (.new ⟨mapId, commandBudget⟩)
      nextTask := w.nextTask + 1 }

/-- A task whose handle is in the table is not aborted. -/
def abort (task : TaskId) : MapProcess :=
  if FMap.HasValue w.runtimes (fun t => t = task) then w
  else { w with instances := w.instances.erase task }

/-- The gauge is what the tick has set it to last. -/
def tick (task : TaskId) (iter : Iteration) : MapProcess :=
  match w.instances.lookup task with
  | some m =>
    { w with
      instances := w.instances.insert task (m.tick iter)
      playersOnlineTotal :=
        ((m.tick iter).playersOnlineTotal.drop m.playersOnlineTotal.length).getLast?.getD
          w.playersOnlineTotal }
  | none => w

def step (commandBudget : ℕ) : Action → MapProcess
  | .activate mapId => w.activate commandBudget mapId
  | .deactivate mapId => { w with runtimes := w.runtimes.erase mapId }
  | .abort task => w.abort task
  | .incoming task command =>
    { w with instances := FMap.modify w.instances task fun m => { m with rx := m.rx ++ [command] } }
  | .tick task iter => w.tick task iter

/-- The process after a run. -/
def run (commandBudget : ℕ) (as : List Action) : MapProcess :=
  as.foldl (fun w a => w.step commandBudget a) start

/-- How many players each running instance has. -/
def online : FMap TaskId ℕ := FMap.mapValues (fun m => m.players.keys.card) w.instances

/-- The gauge counts all players of the process. -/
def GaugeCounts : Prop := w.playersOnlineTotal = FMap.total w.online

instance : Decidable w.GaugeCounts := inferInstanceAs (Decidable (_ = _))

end MapProcess

/-- The action ends a tick or a deactivation. -/
def Action.completes : Action → Bool
  | .tick .. | .abort _ => true
  | _ => false

/-- What an action must not do: somebody comes or goes in a tick only while no other instance
has players, and only an instance without players is aborted. -/
def MapProcess.Harmless (w : MapProcess) : Action → Prop
  | .tick task _ => ∀ m, w.instances.lookup task = some m → m.batch.any crosses = true →
    ∀ other m', other ≠ task → w.instances.lookup other = some m' → m'.players.keys = ∅
  | .abort task => ¬ FMap.HasValue w.runtimes (fun t => t = task) →
    ∀ m, w.instances.lookup task = some m → m.players.keys = ∅
  | _ => True

/-! ### One action -/

namespace MapProcess

variable {w : MapProcess} {budget : ℕ}

/-- The tasks have numbers that were given out. -/
def Numbered (w : MapProcess) : Prop :=
  ∀ task m, w.instances.lookup task = some m → task < w.nextTask

lemma count_online (w : MapProcess) (task : TaskId) :
    FMap.count w.online task =
      ((w.instances.lookup task).map fun m => m.players.keys.card).getD 0 := by
  rw [FMap.count, online, FMap.lookup_mapValues]

lemma count_online_eq_zero {task : TaskId} :
    FMap.count w.online task = 0 ↔
      ∀ m, w.instances.lookup task = some m → m.players.keys = ∅ := by
  rw [count_online]
  rcases w.instances.lookup task with _ | m
  · exact iff_of_true rfl nofun
  · rw [Option.map_some, Option.getD_some, Finset.card_eq_zero]
    constructor
    · intro h m' hm
      obtain rfl := Option.some.inj hm
      exact h
    · exact fun h => h m rfl

lemma numbered_step (h : w.Numbered) (a : Action) : (w.step budget a).Numbered := by
  cases a with
  | activate mapId =>
    change (w.activate budget mapId).Numbered
    unfold activate
    split
    · exact h
    · intro task m hm
      dsimp only at hm ⊢
      rcases FMap.lookup_insert_cases hm with ⟨heq, -⟩ | ⟨-, hm⟩
      · exact heq ▸ Nat.lt_succ_self _
      · exact Nat.lt_succ_of_lt (h task m hm)
  | deactivate mapId => exact h
  | abort t =>
    change (w.abort t).Numbered
    unfold abort
    split
    · exact h
    · intro task m hm
      dsimp only at hm ⊢
      obtain ⟨-, hm⟩ := FMap.lookup_of_erase hm
      exact h task m hm
  | incoming t command =>
    intro task m hm
    have hm : (FMap.modify w.instances t fun m => { m with rx := m.rx ++ [command] }).lookup task =
        some m := hm
    rw [FMap.lookup_modify] at hm
    split at hm
    · next heq =>
      obtain ⟨old, hold, -⟩ := Option.map_eq_some_iff.mp hm
      exact heq ▸ h t old hold
    · exact h task m hm
  | tick t iter =>
    change (w.tick t iter).Numbered
    unfold tick
    split
    · next old hold =>
      intro task m hm
      dsimp only at hm ⊢
      rcases FMap.lookup_insert_cases hm with ⟨heq, -⟩ | ⟨-, hm⟩
      · exact heq ▸ h t old hold
      · exact h task m hm
    · exact h

lemma gaugeCounts_activate (hnum : w.Numbered) (mapId : MapId) :
    (w.activate budget mapId).GaugeCounts ↔ w.GaugeCounts := by
  unfold activate
  split
  · exact Iff.rfl
  · have hfree : FMap.count w.online w.nextTask = 0 := by
      rw [count_online_eq_zero]
      intro m hm
      exact absurd (hnum _ m hm) (lt_irrefl _)
    have htotal := FMap.total_insert w.online w.nextTask 0
    have hnew : FMap.mapValues (fun m : MapInstance => m.players.keys.card)
        (w.instances.insert w.nextTask (.new ⟨mapId, budget⟩)) = w.online.insert w.nextTask 0 :=
      FMap.mapValues_insert _ _ _ _
    unfold GaugeCounts online at *
    dsimp only
    rw [hnew]
    omega

lemma gaugeCounts_incoming (task : TaskId) (command : IncomingCommand) :
    (w.step budget (.incoming task command)).GaugeCounts ↔ w.GaugeCounts := by
  have hsame : FMap.mapValues (fun m : MapInstance => m.players.keys.card)
      (FMap.modify w.instances task fun m => { m with rx := m.rx ++ [command] }) = w.online := by
    refine Finmap.ext_lookup fun t => ?_
    rw [online, FMap.lookup_mapValues, FMap.lookup_mapValues, FMap.lookup_modify]
    split
    · next heq =>
      rw [heq, Option.map_map]
      rfl
    · rfl
  unfold GaugeCounts step online at *
  dsimp only
  rw [hsame]

/-- **Aborting** an instance is harmless exactly when it has no players. -/
lemma gaugeCounts_abort (h : w.GaugeCounts) (task : TaskId) :
    (w.abort task).GaugeCounts ↔ w.Harmless (.abort task) := by
  unfold abort Harmless
  split
  · next hv => exact iff_of_true h fun hno => absurd hv hno
  · next hv =>
    have htotal := FMap.total_erase w.online task
    have hnew : FMap.mapValues (fun m : MapInstance => m.players.keys.card)
        (w.instances.erase task) = w.online.erase task := FMap.mapValues_erase _ _ _
    have hgauge : w.playersOnlineTotal = FMap.total w.online := h
    calc ({ w with instances := w.instances.erase task } : MapProcess).GaugeCounts
        ↔ w.playersOnlineTotal = FMap.total (w.online.erase task) := by
          rw [GaugeCounts, online, hnew]
      _ ↔ FMap.count w.online task = 0 := by omega
      _ ↔ _ := by
          rw [count_online_eq_zero]
          exact ⟨fun hm _ => hm, fun hm => hm hv⟩

/-- **A tick** in which somebody comes or goes is harmless exactly when nobody is on another map. -/
lemma gaugeCounts_tick (h : w.GaugeCounts) (task : TaskId) (iter : Iteration) :
    (w.tick task iter).GaugeCounts ↔ w.Harmless (.tick task iter) := by
  have hgauge : w.playersOnlineTotal = FMap.total w.online := h
  unfold tick Harmless
  rcases hm : w.instances.lookup task with _ | m
  · refine iff_of_true h fun m hm' => ?_
    rw [hm] at hm'
    cases hm'
  obtain ⟨sets, hsets, hlast⟩ := tick_gauge m iter
  have hself : FMap.count w.online task = m.players.keys.card := by rw [count_online, hm]; rfl
  have htotal := FMap.total_insert w.online task (m.tick iter).players.keys.card
  have hothers := FMap.total_erase w.online task
  have hnew : FMap.mapValues (fun m : MapInstance => m.players.keys.card)
      (w.instances.insert task (m.tick iter)) =
        w.online.insert task (m.tick iter).players.keys.card := FMap.mapValues_insert _ _ _ _
  unfold GaugeCounts online at *
  dsimp only
  rw [hnew, hsets, List.drop_left, hlast]
  cases hcross : m.batch.any crosses with
  | false =>
    have hkeep := tick_keys_of_not_crosses hcross iter
    refine iff_of_true ?_ ?_
    · rw [hkeep] at htotal ⊢
      simp only [Bool.false_eq_true, if_false, Option.getD_none]
      omega
    · intro m' hm' hcross'
      obtain rfl := Option.some.inj (hm.symm.trans hm')
      rw [hcross] at hcross'
      cases hcross'
  | true =>
    simp only [if_true, Option.getD_some]
    have hzero : (m.tick iter).players.keys.card =
        FMap.total ((FMap.mapValues (fun m => m.players.keys.card) w.instances).insert task
          (m.tick iter).players.keys.card) ↔
        FMap.total ((FMap.mapValues (fun m => m.players.keys.card) w.instances).erase task) = 0 := by
      omega
    rw [hzero, FMap.total_eq_zero_iff]
    constructor
    · intro hall m' hm' _ other m'' hne hother
      have hcount := hall other
      rw [FMap.count_erase, if_neg hne] at hcount
      exact count_online_eq_zero.mp hcount m'' hother
    · intro hall other
      rw [FMap.count_erase]
      split
      · rfl
      · next hne =>
        exact count_online_eq_zero.mpr fun m'' hother => hall m hm hcross other m'' hne hother

/-- **One action** keeps the gauge right exactly when it is harmless. -/
lemma gaugeCounts_step (hnum : w.Numbered) (h : w.GaugeCounts) (a : Action) :
    (w.step budget a).GaugeCounts ↔ w.Harmless a := by
  cases a with
  | activate mapId => exact iff_of_true ((gaugeCounts_activate hnum mapId).mpr h) trivial
  | deactivate mapId => exact iff_of_true h trivial
  | abort task => exact gaugeCounts_abort h task
  | incoming task command => exact iff_of_true ((gaugeCounts_incoming task command).mpr h) trivial
  | tick task iter => exact gaugeCounts_tick h task iter

end MapProcess

/-! ### Runs -/

namespace MapProcess

/-- **When the gauge counts all players.** In a run, the gauge is right after every completed tick
and deactivation exactly when all its actions are harmless. -/
theorem gaugeCounts_iff_harmless (budget : ℕ) (as : List Action) :
    (∀ pre a, pre ++ [a] <+: as → a.completes = true → (run budget (pre ++ [a])).GaugeCounts) ↔
      ∀ pre a, pre ++ [a] <+: as → (run budget pre).Harmless a := by
  let Right (w : MapProcess) : Prop := w.Numbered ∧ w.GaugeCounts
  have hstart : Right start := by
    refine ⟨fun task m hm => ?_, rfl⟩
    cases hm
  have hstep : ∀ (w : MapProcess) (a : Action), Right w →
      (Right (w.step budget a) ↔ w.Harmless a) := by
    rintro w a ⟨hnum, hcounts⟩
    change (w.step budget a).Numbered ∧ (w.step budget a).GaugeCounts ↔ w.Harmless a
    rw [and_iff_right (numbered_step hnum a)]
    exact gaugeCounts_step hnum hcounts a
  have hall := System.forall_prefix_iff (I := Right) hstart hstep as
  constructor
  · intro h
    refine hall.mp fun p hp => ?_
    induction p using List.reverseRecOn with
    | nil => exact hstart
    | append_singleton p a ih =>
      have hpre : Right (run budget p) := ih ((List.prefix_append p [a]).trans hp)
      have hsnoc : (p ++ [a]).foldl (fun w a => w.step budget a) start =
          (run budget p).step budget a := List.foldl_append
      refine ⟨?_, ?_⟩
      · rw [hsnoc]
        exact numbered_step hpre.1 a
      cases hdone : a.completes with
      | true => exact h p a hp hdone
      | false =>
        rw [hsnoc, gaugeCounts_step hpre.1 hpre.2]
        cases a
        case abort | tick => cases hdone
        all_goals trivial
  · intro h pre a hp _
    exact (hall.mpr h (pre ++ [a]) hp).2

/-- Two maps, one player on each of them. -/
def twoMaps (iter : Iteration) : List Action :=
  [.activate 1, .activate 2, .incoming 0 ⟨.fill 1, none, .enterWorld⟩,
    .incoming 1 ⟨.fill 2, none, .enterWorld⟩, .tick 0 iter, .tick 1 iter]

/-- The second tick sets the gauge to 1, with two players online. -/
theorem gaugeCounts_two_maps : ¬ (run 16 (twoMaps default)).GaugeCounts := by decide +kernel

end MapProcess

end HelbreathBackend.MapGauge
