import HelbreathBackend.MapDeterminism
import HelbreathBackend.MapIsolation

/-!
Timers of an instance, and what is left over between ticks.

An interaction with a npc is answered in the tick after the one that takes it. The answer is
filed under a tick number that saturates, while the number of the tick wraps, and only what is
filed under exactly the number of a tick is taken out by it. As long as no number is used twice
nothing is left behind: every tick begins with the answers to the interactions of the tick
before it, in the order in which they were taken, and then does what it would do had there been
no interactions at all.
-/

namespace HelbreathBackend.MapServer

open HelbreathBackend.Lib HelbreathBackend.Domain HelbreathBackend.Application

namespace MapInstance

def MapAction.isTick : MapAction → Bool
  | .tick _ => true
  | .incoming _ => false

/-- The number of ticks of a run. -/
def ticks (as : List MapAction) : ℕ := as.countP (·.isTick)

/-- The answer that a command puts down for the next tick. -/
def npcAnswer (incoming : IncomingCommand) : Option OutboundEvent :=
  match incoming.command with
  | .npcInteraction npcId => some (.text incoming.sessionId ("npc_interaction:" ++ npcId.format))
  | _ => none

/-- The commands the last tick has taken, and those that wait for the next one. -/
structure Intake where
  taken : List IncomingCommand
  waiting : List IncomingCommand

def Intake.next (budget : ℕ) (q : Intake) : MapAction → Intake
  | .incoming command => { q with waiting := q.waiting ++ [command] }
  | .tick _ => ⟨q.waiting.take budget, q.waiting.drop budget⟩

/-- What a run has taken and what it has left waiting. -/
def intake (budget : ℕ) (as : List MapAction) : Intake := as.foldl (Intake.next budget) ⟨[], []⟩

lemma ticks_snoc (as : List MapAction) (a : MapAction) :
    ticks (as ++ [a]) = ticks as + if a.isTick then 1 else 0 := by
  rw [ticks, List.countP_append, List.countP_singleton, ticks]

lemma intake_snoc (budget : ℕ) (as : List MapAction) (a : MapAction) :
    intake budget (as ++ [a]) = (intake budget as).next budget a := List.foldl_append

variable (m : MapInstance)

/-- The instance with nothing scheduled and nothing sent so far, and with the commands of its
batch before it that are no interactions. -/
def withoutInteractions : MapInstance :=
  { m with
    rx := []
    outboundTx := []
    pendingCommands := m.batch.filter fun incoming => (npcAnswer incoming).isNone
    scheduled := ∅ }

/-- What is the case between two ticks of which the last was the tick `t`. -/
structure Settled (t : ℕ) : Prop where
  tickIndex : m.tickIndex.toNat = t
  pendingCommands : m.pendingCommands = []
  pendingAttacks : m.pendingAttacks = []
  pendingSkillCasts : m.pendingSkillCasts = []
  pendingInventoryChanges : m.pendingInventoryChanges = []
  scheduled : ∀ key ∈ m.scheduled.keys, key.toNat = t + 1

/-- The events `due` and nothing else are filed, under the tick after `t`. -/
def Filed (t : ℕ) (due : List OutboundEvent) : Prop :=
  ∀ key : UInt64, m.scheduled.lookup key =
    if key.toNat = t + 1 ∧ due ≠ [] then some (due.map (⟨key, ·⟩)) else none

variable {m}

lemma Filed.keys {t : ℕ} {due : List OutboundEvent} (h : m.Filed t due) :
    ∀ key ∈ m.scheduled.keys, key.toNat = t + 1 := by
  intro key hkey
  obtain ⟨events, hevents⟩ := Finmap.mem_iff.mp (Finmap.mem_keys.mp hkey)
  rw [h key] at hevents
  split at hevents
  · next hk => exact hk.1
  · cases hevents

/-! ### The tick that a number names -/

/-- A tick whose number is not used up takes out all that is filed under it. -/
lemma Filed.processScheduledEvents {t : ℕ} {due : List OutboundEvent} (h : m.Filed t due)
    (htick : m.tickIndex.toNat = t + 1) :
    m.processScheduledEvents.scheduled = ∅ ∧
      m.processScheduledEvents.outboundTx = m.outboundTx ++ due := by
  have hnow := h m.tickIndex
  have hother : ∀ key, key ≠ m.tickIndex → m.scheduled.lookup key = none := by
    intro key hne
    rw [h key, if_neg]
    rintro ⟨hkey, -⟩
    exact hne (UInt64.toNat_inj.mp (hkey.trans htick.symm))
  by_cases hdue : due = []
  · rw [if_neg fun hand => hand.2 hdue] at hnow
    have hsame : m.processScheduledEvents = m := by
      unfold MapInstance.processScheduledEvents
      rw [hnow]
    rw [hsame, hdue, List.append_nil]
    refine ⟨Finmap.ext_lookup fun key => ?_, rfl⟩
    rw [Finmap.lookup_empty]
    by_cases hkey : key = m.tickIndex
    · rw [hkey, hnow]
    · exact hother key hkey
  · rw [if_pos ⟨htick, hdue⟩] at hnow
    unfold MapInstance.processScheduledEvents
    rw [hnow]
    refine ⟨Finmap.ext_lookup fun key => ?_, ?_⟩
    · dsimp only
      rw [FMap.lookup_erase_eq, Finmap.lookup_empty]
      split
      · rfl
      · next hkey => exact hother key hkey
    · simp [Function.comp_def]

/-- What the commands of a batch put down are the answers to its interactions. -/
lemma scheduled_outputsAll (mapId : MapId) (g : SessionId → Option PlayerState)
    (l : List IncomingCommand) :
    (outputsAll IncomingCommand.sessionId (sessionStep mapId) g l).flatMap
      (fun e => e.2.scheduled) = l.filterMap npcAnswer := by
  refine outputsAll_flatMap (fun incoming entry => ?_) g l
  obtain ⟨s, characterId, command⟩ := incoming
  cases command <;> rfl

lemma toNat_nextTick (h : m.tickIndex.toNat < 2 ^ 64 - 1) :
    m.nextTick.toNat = m.tickIndex.toNat + 1 := by
  have hone : (1 : UInt64).toNat = 1 := rfl
  rw [nextTick, if_neg (by omega), UInt64.toNat_add, hone]
  omega

/-- **A tick files the answers to the interactions of its batch**, and nothing else is left. -/
lemma Filed.inputStage {t : ℕ} {due : List OutboundEvent} (h : m.Filed t due)
    (htick : m.tickIndex.toNat = t + 1) (hlt : t + 1 < 2 ^ 64 - 1) :
    m.inputStage.Filed (t + 1) (m.pendingCommands.filterMap npcAnswer) := by
  have htook := took_inputStage m
  have hempty : m.opened.scheduled = ∅ := (h.processScheduledEvents htick).1
  have hindex : m.opened.tickIndex = m.tickIndex := by
    unfold opened MapInstance.processScheduledEvents
    split <;> rfl
  have hnext : m.opened.nextTick.toNat = t + 1 + 1 := by
    rw [toNat_nextTick (by rw [hindex]; omega), hindex, htick]
  intro key
  rw [htook.scheduled, scheduled_outputsAll, scheduleAll_lookup, hempty, Finmap.lookup_empty,
    Finmap.lookup_empty, Option.getD_none, List.nil_append]
  have hkey : key = m.opened.nextTick ↔ key.toNat = t + 1 + 1 := by
    rw [← hnext, UInt64.toNat_inj]
  by_cases hk : key.toNat = t + 1 + 1
  · rw [hkey.mpr hk]
    simp only [hnext, true_and]
  · rw [if_neg fun hand => hk (hkey.mp hand.1), if_neg fun hand => hk hand.1]

/-! ### What a tick does beside its timers -/

/-- The instances agree in everything that the systems after the input work on and send. -/
structure SameFight (c c' : MapInstance) : Prop where
  config : c'.config = c.config
  tickIndex : c'.tickIndex = c.tickIndex
  entries : c'.entry = c.entry
  pendingAttacks : c'.pendingAttacks = c.pendingAttacks
  pendingSkillCasts : c'.pendingSkillCasts = c.pendingSkillCasts

lemma SameFight.eq {c c' : MapInstance} (h : SameFight c c') :
    c' = { c with
      rx := c'.rx
      outboundTx := c'.outboundTx
      persistTx := c'.persistTx
      playersOnlineTotal := c'.playersOnlineTotal
      pendingCommands := c'.pendingCommands
      scheduled := c'.scheduled
      pendingInventoryChanges := c'.pendingInventoryChanges } := by
  have hplayers : c'.players = c.players := Finmap.ext_lookup fun s => congrFun h.entries s
  rw [← hplayers, ← h.config, ← h.tickIndex, ← h.pendingAttacks, ← h.pendingSkillCasts]

lemma SameFight.ticked {iter : Iteration} {c c' r r' : MapInstance}
    {resolved resolved' : List ResolvedAttack} (h : SameFight c c') (hr : Ticked iter c r resolved)
    (hr' : Ticked iter c' r' resolved') :
    ∃ events, r.outboundTx = c.outboundTx ++ events ∧ r'.outboundTx = c'.outboundTx ++ events := by
  have hattacks : c.IsResolved resolved' := by
    have hattacks' := hr'.attacks
    rw [h.eq] at hattacks'
    exact ⟨hattacks'.hits, hattacks'.falls⟩
  obtain rfl := hr.attacks.unique hattacks
  have hsurvived : c'.survived = c.survived := by
    rw [h.eq]
    rfl
  have hplayers : r'.players = r.players := Finmap.ext_lookup fun s =>
    congrFun ((hr'.entries.trans hsurvived).trans hr.entries.symm) s
  have hcombat : c'.combatEvents resolved = c.combatEvents resolved := by
    rw [h.eq]
    rfl
  have hstart : c'.players = c.players := Finmap.ext_lookup fun s => congrFun h.entries s
  rw [hr.eq, hr'.eq]
  dsimp only
  rw [hcombat, hplayers, hstart, h.tickIndex]
  simp only [List.append_assoc]
  exact ⟨_, rfl, rfl⟩

lemma sessionStep_interaction {incoming : IncomingCommand}
    (h : (npcAnswer incoming).isNone = false) (mapId : MapId) (entry : Option PlayerState) :
    (sessionStep mapId entry incoming).1 = entry ∧
      ∃ events, (sessionStep mapId entry incoming).2 = { scheduled := events } := by
  obtain ⟨s, characterId, command⟩ := incoming
  cases command
  case npcInteraction npcId => exact ⟨rfl, _, rfl⟩
  all_goals cases h

lemma inputStage_filter {b b' : MapInstance} (hconfig : b'.config = b.config)
    (htick : b'.tickIndex = b.tickIndex) (hplayers : b'.players = b.players)
    (hattacks : b'.pendingAttacks = b.pendingAttacks)
    (hcasts : b'.pendingSkillCasts = b.pendingSkillCasts)
    (hcommands : b'.pendingCommands =
      b.pendingCommands.filter fun incoming => (npcAnswer incoming).isNone) :
    SameFight b.inputStage b'.inputStage ∧
      ∃ events, b.inputStage.outboundTx = b.processScheduledEvents.outboundTx ++ events ∧
        b'.inputStage.outboundTx = b'.processScheduledEvents.outboundTx ++ events := by
  have htook := took_inputStage b
  have htook' := took_inputStage b'
  have hopened : ∀ b : MapInstance, b.opened.config = b.config ∧
      b.opened.tickIndex = b.tickIndex ∧ b.opened.pendingAttacks = b.pendingAttacks ∧
      b.opened.pendingSkillCasts = b.pendingSkillCasts := by
    intro b
    unfold opened MapInstance.processScheduledEvents
    split <;> exact ⟨rfl, rfl, rfl, rfl⟩
  have hentry : b'.entry = b.entry := by
    funext s
    rw [entry, entry, hplayers]
  rw [hcommands, hconfig, hentry] at htook'
  have hleft : ∀ {γ : Type} (f : SessionId × InputEffect → List γ),
      (∀ s events, f (s, { scheduled := events }) = []) →
      (outputsAll IncomingCommand.sessionId (sessionStep b.config.mapId) b.entry
        (b.pendingCommands.filter fun incoming => (npcAnswer incoming).isNone)).flatMap f =
      (outputsAll IncomingCommand.sessionId (sessionStep b.config.mapId) b.entry
        b.pendingCommands).flatMap f := by
    intro γ f hf
    refine outputsAll_flatMap_filter (fun incoming hin entry => ?_) _ _
    obtain ⟨hstate, events, hout⟩ := sessionStep_interaction hin b.config.mapId entry
    exact ⟨hstate, by rw [hout, hf]⟩
  refine ⟨⟨?_, ?_, ?_, ?_, ?_⟩, _, htook.outboundTx, ?_⟩
  · rw [htook'.config, htook.config, (hopened b').1, (hopened b).1, hconfig]
  · rw [htook'.tickIndex, htook.tickIndex, (hopened b').2.1, (hopened b).2.1, htick]
  · rw [htook'.entries, htook.entries]
    exact finalAll_filter (fun incoming hin entry =>
      (sessionStep_interaction hin b.config.mapId entry).1) _ _
  · rw [htook'.pendingAttacks, htook.pendingAttacks, (hopened b').2.2.1, (hopened b).2.2.1,
      hattacks, hleft _ fun _ _ => rfl]
  · rw [htook'.pendingSkillCasts, htook.pendingSkillCasts, (hopened b').2.2.2,
      (hopened b).2.2.2, hcasts, hleft _ fun _ _ => rfl]
  · rw [htook'.outboundTx, hleft _ fun _ _ => rfl]
    rfl

/-- **A tick sends what is due, and then what it would send had there been no interactions.** -/
theorem Filed.tick_sends {t : ℕ} {due : List OutboundEvent} (h : m.Filed t due)
    (hindex : m.tickIndex.toNat = t) (hlt : t < 2 ^ 64 - 1) (iter : Iteration) :
    (m.tick iter).outboundTx =
      m.outboundTx ++ due ++ (m.withoutInteractions.tick iter).outboundTx := by
  have hnow : m.begun.tickIndex.toNat = t + 1 := by
    have hone : (1 : UInt64).toNat = 1 := rfl
    rw [begun_eq]
    dsimp only
    rw [UInt64.toNat_add, hone]
    omega
  have hfiled : m.begun.Filed t due := by rwa [begun_eq]
  have hbegun : m.begun.outboundTx = m.outboundTx := by rw [begun_eq]
  have hbegun' : m.withoutInteractions.begun.processScheduledEvents.outboundTx = [] := by
    rw [begun_eq]
    rfl
  obtain ⟨hsame, inputs, hinputs, hinputs'⟩ : SameFight m.begun.inputStage
      m.withoutInteractions.begun.inputStage ∧ ∃ events,
      m.begun.inputStage.outboundTx = m.begun.processScheduledEvents.outboundTx ++ events ∧
      m.withoutInteractions.begun.inputStage.outboundTx =
        m.withoutInteractions.begun.processScheduledEvents.outboundTx ++ events := by
    refine inputStage_filter ?_ ?_ ?_ ?_ ?_ ?_
    all_goals rw [begun_eq, begun_eq]
    any_goals rfl
    simp [withoutInteractions, batch]
  obtain ⟨resolved, hticked⟩ := tick_ticked m iter
  obtain ⟨resolved', hticked'⟩ := tick_ticked m.withoutInteractions iter
  obtain ⟨events, hevents, hevents'⟩ := hsame.ticked hticked hticked'
  have hleft : (m.tick iter).outboundTx = m.begun.inputStage.outboundTx ++ events := hevents
  have hright : (m.withoutInteractions.tick iter).outboundTx =
      m.withoutInteractions.begun.inputStage.outboundTx ++ events := hevents'
  rw [hleft, hright, hinputs, hinputs', hbegun', (hfiled.processScheduledEvents hnow).2, hbegun]
  simp only [List.nil_append, List.append_assoc]

/-! ### What a tick sends -/

/-- What is sent at once for a command. -/
def inputReply (incoming : IncomingCommand) : Option OutboundEvent :=
  match incoming.command with
  | .chat message => some (.text incoming.sessionId message)
  | .whisper toCharacter message =>
    some (.text incoming.sessionId ("(whisper->" ++ toCharacter ++ ") " ++ message))
  | .guildChat message => some (.text incoming.sessionId ("[guild] " ++ message))
  | .heartbeat => some (.text incoming.sessionId "heartbeat_ack")
  | _ => none

lemma outbound_outputsAll (mapId : MapId) (g : SessionId → Option PlayerState)
    (l : List IncomingCommand) :
    (outputsAll IncomingCommand.sessionId (sessionStep mapId) g l).flatMap
      (fun e => e.2.outbound) = l.filterMap inputReply := by
  refine outputsAll_flatMap (fun incoming entry => ?_) g l
  obtain ⟨s, characterId, command⟩ := incoming
  cases command <;> rfl

lemma opened_begun (m : MapInstance) :
    m.begun.opened.config = m.config ∧ m.begun.opened.players = m.players ∧
      m.begun.opened.persistTx = m.persistTx ∧
      m.begun.inputStage = m.begun.opened.systemInput m.batch := by
  refine ⟨?_, ?_, ?_, ?_⟩
  · rw [opened_eq, begun_eq]
  · rw [opened_eq, begun_eq]
  · rw [opened_eq, begun_eq]
  · rw [inputStage_eq, begun_pendingCommands]

/-- Whatever is scheduled is an answer to an interaction. -/
def Answers (m : MapInstance) : Prop :=
  ∀ key events, m.scheduled.lookup key = some events →
    ∀ e ∈ events, ∃ incoming, npcAnswer incoming = some e.event

lemma Answers.opened (h : m.Answers) : m.opened.Answers := by
  intro key events hevents
  unfold MapInstance.opened processScheduledEvents at hevents
  split at hevents
  · dsimp only at hevents
    obtain ⟨-, hevents⟩ := FMap.lookup_of_erase hevents
    exact h key events hevents
  · exact h key events hevents

lemma Answers.inputStage (h : m.Answers) : m.inputStage.Answers := by
  intro key events hevents e he
  rw [(took_inputStage m).scheduled, scheduled_outputsAll] at hevents
  rcases mem_scheduleAll hevents he with hnew | ⟨old, hold, hmem⟩
  · obtain ⟨incoming, -, hanswer⟩ := List.mem_filterMap.mp hnew
    exact ⟨incoming, hanswer⟩
  · exact h.opened key old hold e hmem

lemma answers_of_reached {config : MapConfig} (h : (mapSystem config).Reached m) : m.Answers := by
  refine h.invariant Answers ?_ ?_
  · rintro _ rfl key events hevents
    cases hevents
  · intro m a m' hm _ hstep
    cases a with
    | incoming command =>
      obtain rfl := Option.some.inj hstep
      exact hm
    | tick iter =>
      obtain rfl := Option.some.inj hstep
      obtain ⟨resolved, hticked⟩ := tick_ticked m iter
      have hbegun : m.begun.Answers := by rwa [begun_eq]
      have hafter : (m.tick iter).scheduled = m.begun.inputStage.scheduled := by
        rw [hticked.eq]
      rw [Answers, hafter]
      exact hbegun.inputStage

/-- **What a tick sends**: answers to interactions, the replies to the commands of its batch,
and what the systems after the input send. -/
theorem tick_sends {config : MapConfig} (h : (mapSystem config).Reached m) (iter : Iteration) :
    let c := m.begun.inputStage
    ∃ due resolved, (∀ e ∈ due, ∃ incoming, npcAnswer incoming = some e) ∧ c.IsResolved resolved ∧
      (m.tick iter).outboundTx = m.outboundTx ++ (due ++ m.batch.filterMap inputReply ++
        positions iter c.players ++ c.combatEvents resolved ++
        aiEvents iter c.tickIndex (m.tick iter).players ++
        aoiEvents iter c.tickIndex (m.tick iter).players) := by
  intro c
  obtain ⟨resolved, hticked⟩ := tick_ticked m iter
  have hinput := (took_inputStage m.begun).outboundTx
  rw [outbound_outputsAll, begun_pendingCommands] at hinput
  have hdue : ∃ due, (∀ e ∈ due, ∃ incoming, npcAnswer incoming = some e) ∧
      m.begun.opened.outboundTx = m.outboundTx ++ due := by
    have hanswers := answers_of_reached h
    have hbegun : m.begun.Answers := by rwa [begun_eq]
    have hout : m.begun.outboundTx = m.outboundTx := by rw [begun_eq]
    unfold opened processScheduledEvents
    split
    · next events hevents =>
      refine ⟨events.map (·.event), fun e he => ?_, by rw [← hout]⟩
      obtain ⟨scheduled, hscheduled, rfl⟩ := List.mem_map.mp he
      exact hbegun _ events hevents scheduled hscheduled
    · exact ⟨[], fun e he => absurd he List.not_mem_nil, by rw [hout, List.append_nil]⟩
  obtain ⟨due, hanswers, hopened⟩ := hdue
  refine ⟨due, resolved, hanswers, hticked.attacks, ?_⟩
  rw [hticked.eq]
  dsimp only
  rw [hinput, hopened]
  simp only [List.append_assoc]
  rfl

/-! ### Runs -/

/-- What a run of few ticks leaves waiting, and what its last tick has put down. -/
structure Timed (budget : ℕ) (as : List MapAction) (m : MapInstance) : Prop where
  rx : m.rx = (intake budget as).waiting
  pendingCommands : m.pendingCommands = []
  tickIndex : m.tickIndex.toNat = ticks as
  filed : m.Filed (ticks as) ((intake budget as).taken.filterMap npcAnswer)

lemma Timed.tick {as : List MapAction} (h : Timed m.config.commandBudget as m)
    (hlt : ticks as + 1 < 2 ^ 64 - 1) (iter : Iteration) :
    Timed m.config.commandBudget (as ++ [.tick iter]) (m.tick iter) := by
  obtain ⟨resolved, hticked⟩ := tick_ticked m iter
  have hrx := tick_rx m iter
  have hone : (1 : UInt64).toNat = 1 := rfl
  have hindex := h.tickIndex
  have hnow : m.begun.tickIndex.toNat = ticks as + 1 := by
    rw [begun_eq]
    dsimp only
    rw [UInt64.toNat_add, hone]
    omega
  have hopened : m.begun.opened.tickIndex = m.begun.tickIndex := by rw [opened_eq]
  have hcount : ticks (as ++ [.tick iter]) = ticks as + 1 := ticks_snoc as _
  have hbegun : m.begun.pendingCommands = (intake m.config.commandBudget (as ++ [.tick iter])).taken
      := by
    rw [begun_eq, intake_snoc, h.rx, h.pendingCommands]
    rfl
  have hfiled : m.begun.Filed (ticks as)
      ((intake m.config.commandBudget as).taken.filterMap npcAnswer) := by
    rw [begun_eq]
    exact h.filed
  refine ⟨?_, tick_pendingCommands m iter, ?_, ?_⟩
  · rw [intake_snoc, Intake.next, ← h.rx]
    exact hrx
  · rw [hticked.eq, hcount]
    dsimp only
    rw [(took_inputStage m.begun).tickIndex, hopened, hnow]
  · rw [hcount, ← hbegun, hticked.eq]
    exact hfiled.inputStage hnow hlt

lemma timed_of_run {config : MapConfig} {as : List MapAction} (h : (mapSystem config).Run as m)
    (hfew : ticks as < 2 ^ 64 - 1) : Timed config.commandBudget as m := by
  refine h.invariant (fun as m => ticks as < 2 ^ 64 - 1 → Timed config.commandBudget as m)
    config_of_reached ?_ ?_ hfew
  · rintro _ rfl -
    exact ⟨rfl, rfl, rfl, fun key => (if_neg fun hand => hand.2 rfl).symm⟩
  · intro as m a m' hconfig _ hm hstep hfew
    cases a with
    | incoming command =>
      obtain rfl := Option.some.inj hstep
      have hcount : ticks (as ++ [.incoming command]) = ticks as := ticks_snoc as _
      rw [hcount] at hfew
      obtain ⟨hrx, hpending, hindex, hfiled⟩ := hm hfew
      refine ⟨?_, hpending, by rw [hcount]; exact hindex, ?_⟩
      · rw [intake_snoc, Intake.next, ← hrx]
      · rw [hcount, intake_snoc]
        exact hfiled
    | tick iter =>
      obtain rfl := Option.some.inj hstep
      have hcount : ticks (as ++ [.tick iter]) = ticks as + 1 := ticks_snoc as _
      rw [hcount] at hfew
      have hm := hm (by omega)
      rw [← hconfig] at hm ⊢
      exact hm.tick hfew iter

/-- **Between ticks nothing is pending, and timers fire exactly once.** After a run of fewer than
`2 ^ 64 - 1` ticks nothing is pending, and whatever is scheduled is scheduled for the next tick.
The next tick sends one answer to each interaction that the last tick has taken, in the order in
which it has taken them, and after them exactly what it would send with nothing scheduled and
with the interactions left out of its own batch. -/
theorem timers_exactly_once {config : MapConfig} {as : List MapAction}
    (h : (mapSystem config).Run as m) (hfew : ticks as < 2 ^ 64 - 1) :
    m.Settled (ticks as) ∧
    ∀ iter, (intake config.commandBudget (as ++ [.tick iter])).taken = m.batch ∧
      (m.tick iter).outboundTx =
        m.outboundTx ++ (intake config.commandBudget as).taken.filterMap npcAnswer ++
          (m.withoutInteractions.tick iter).outboundTx := by
  have hsound := sound_of_reached h.reached
  have htimed := timed_of_run h hfew
  have hconfig : m.config = config := config_of_reached h.reached
  refine ⟨⟨htimed.tickIndex, htimed.pendingCommands, hsound.pendingAttacks,
    hsound.pendingSkillCasts, hsound.pendingInventoryChanges, htimed.filed.keys⟩, fun iter =>
    ⟨?_, htimed.filed.tick_sends htimed.tickIndex hfew iter⟩⟩
  rw [intake_snoc, batch, htimed.pendingCommands, htimed.rx, hconfig]
  rfl

/-- A session has talked to a npc in the first tick. -/
theorem timers_exactly_once_talk :
    ∃ m rest, (mapSystem ⟨1, 16⟩).Run
        [.incoming ⟨.fill 1, none, .npcInteraction (.fill 9)⟩, .tick default] m ∧
      (m.tick default).outboundTx = m.outboundTx ++
        [.text (.fill 1) ("npc_interaction:" ++ (Uuid.fill 9).format)] ++ rest := by
  have h0 : (mapSystem ⟨1, 16⟩).Run [] (.new ⟨1, 16⟩) := .init rfl
  have h1 := h0.step (a := .incoming ⟨.fill 1, none, .npcInteraction (.fill 9)⟩) rfl
  have h2 := h1.step (a := .tick default) rfl
  exact ⟨_, _, h2, ((timers_exactly_once h2 (by decide)).2 default).2⟩

end MapInstance

end HelbreathBackend.MapServer
