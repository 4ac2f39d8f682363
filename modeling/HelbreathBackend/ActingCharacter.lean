import HelbreathBackend.MapOrder

/-!
The characters that positions and inventory changes are saved for.

Every command names the character of its session. The instance saves for the character that
the entry of the session has, and the entry has it from the last `EnterWorld`. A move without
an entry is dropped, but an item that is picked up, dropped or used without one is saved for
the session itself, whatever character the command names.
-/

namespace HelbreathBackend.ActingCharacter

open HelbreathBackend.Lib HelbreathBackend.Domain HelbreathBackend.Application
open HelbreathBackend.MapServer HelbreathBackend.MapServer.MapInstance

/-! ### What is saved for a session -/

/-- The character of a position or an inventory change. -/
def savedFor : PersistOp → Option CharacterId
  | .saveCharacterPosition characterId .. | .saveInventoryChange characterId .. => some characterId
  | .saveCombatLog .. => none

/-- What a tick emits because of the commands of its batch, each with its session. -/
def emittedBy (m : MapInstance) (commands : List IncomingCommand) :
    List (SessionId × PersistOp) :=
  positionTrace m commands ++ inventoryTrace m commands

/-- An instance with what it has processed and emitted so far. -/
structure Recorded where
  mapInstance : MapInstance
  /-- history: the commands of all batches -/
  processed : List IncomingCommand
  /-- history: the positions and inventory changes, each with the session of its command -/
  emitted : List (SessionId × PersistOp)

def Recorded.tick (r : Recorded) (iter : Iteration) : Recorded where
  mapInstance := r.mapInstance.tick iter
  processed := r.processed ++ r.mapInstance.begun.pendingCommands
  emitted := r.emitted ++ emittedBy r.mapInstance.begun r.mapInstance.begun.pendingCommands

def system (config : MapConfig) : System Recorded MapAction where
  init r := r = ⟨.new config, [], []⟩
  step
    | r, .incoming command =>
      some { r with mapInstance.rx := r.mapInstance.rx ++ [command] }
    | r, .tick iter => some (r.tick iter)

/-- The command changes the inventory. -/
def changesInventory : ClientCommand → Bool
  | .pickupItem _ | .dropItem .. | .useItem _ => true
  | _ => false

/-- The session has entered the instance, and has not logged out since. -/
def Entered (s : SessionId) : List IncomingCommand → Prop :=
  Since (fun _ cmd => cmd.sessionId = s ∧ cmd.command = .enterWorld)
    fun cmd => ¬ (cmd.sessionId = s ∧ cmd.command = .logout)

variable (owner : SessionId → CharacterId)

/-- A change of inventory comes from a session that has entered. The identifier of the session
may happen to be the one of its character. -/
def Known (pre : List IncomingCommand) (cmd : IncomingCommand) : Prop :=
  changesInventory cmd.command = true →
    owner cmd.sessionId = cmd.sessionId ∨ Entered cmd.sessionId pre

/-- An operation is saved for the character of its session. -/
def Named (x : SessionId × PersistOp) : Prop := savedFor x.2 = some (owner x.1)

/-! ### One command -/

/-- The character of the entry of a session after one of its commands. -/
def nextId (id : Option CharacterId) (cmd : IncomingCommand) : Option CharacterId :=
  match cmd.command with
  | .enterWorld => some (cmd.characterId.getD cmd.sessionId)
  | .logout => none
  | _ => id

variable {owner} {m : MapInstance} {pre : List IncomingCommand} {cmd : IncomingCommand}
  {mapId : MapId} {entry : Option PlayerState}

lemma sessionStep_id (mapId : MapId) (entry : Option PlayerState) (cmd : IncomingCommand) :
    (sessionStep mapId entry cmd).1.map (·.characterId) =
      nextId (entry.map (·.characterId)) cmd := by
  obtain ⟨s, characterId, command⟩ := cmd
  cases command with
  | move x y run =>
    simp only [sessionStep, nextId, Option.map_map]
    rfl
  | _ => rfl

lemma savedFor_persist {op : PersistOp} (h : op ∈ (sessionStep mapId entry cmd).2.persist) :
    ∃ player, entry = some player ∧ savedFor op = some player.characterId := by
  obtain ⟨s, characterId, command⟩ := cmd
  cases command with
  | move x y run =>
    obtain ⟨player, hplayer, rfl⟩ := Option.map_eq_some_iff.mp (Option.mem_toList.mp h)
    exact ⟨player, hplayer, rfl⟩
  | _ => exact absurd h List.not_mem_nil

/-- An inventory change is asked for by the commands that make one, and for the character of the
entry or else for the session. -/
lemma inventory_sessionStep (mapId : MapId) (entry : Option PlayerState) (cmd : IncomingCommand) :
    (changesInventory cmd.command = false ∧ (sessionStep mapId entry cmd).2.inventory = []) ∨
      (changesInventory cmd.command = true ∧ ∃ reason, (sessionStep mapId entry cmd).2.inventory =
        [((entry.map (·.characterId)).getD cmd.sessionId, reason)]) := by
  obtain ⟨s, characterId, command⟩ := cmd
  cases command with
  | pickupItem | dropItem | useItem => exact .inr ⟨rfl, _, rfl⟩
  | _ => exact .inl ⟨rfl, rfl⟩

/-- The entries are those of the sessions that have entered, for their characters. -/
def Placed (owner : SessionId → CharacterId) (m : MapInstance) (pre : List IncomingCommand) :
    Prop :=
  ∀ s, (Entered s pre → m.ids s = some (owner s)) ∧ (¬ Entered s pre → m.ids s = none)

lemma entered_snoc {s : SessionId} : Entered s (pre ++ [cmd]) ↔
    (cmd.sessionId = s ∧ cmd.command = .enterWorld) ∨
      Entered s pre ∧ ¬ (cmd.sessionId = s ∧ cmd.command = .logout) := since_snoc

lemma ids_inputCommand (m : MapInstance) (cmd : IncomingCommand) :
    (m.inputCommand cmd).ids =
      Function.update m.ids cmd.sessionId (nextId (m.ids cmd.sessionId) cmd) := by
  have hone := took_inputCommand m cmd
  funext s
  rw [ids, hone.entries, Function.update_apply, Function.update_apply]
  split
  · exact sessionStep_id m.config.mapId (m.entry cmd.sessionId) cmd
  · rfl

lemma Placed.inputCommand (h : Placed owner m pre)
    (hcmd : cmd.characterId = some (owner cmd.sessionId)) :
    Placed owner (m.inputCommand cmd) (pre ++ [cmd]) := by
  intro s
  rw [ids_inputCommand, entered_snoc, Function.update_apply]
  by_cases hs : s = cmd.sessionId
  · subst hs
    rw [if_pos rfl, nextId]
    split
    · next hc => simp [hc, hcmd]
    · next hc => simp [hc]
    · next henter hlogout =>
      have henter : cmd.command ≠ .enterWorld := henter
      have hlogout : cmd.command ≠ .logout := hlogout
      simpa [henter, hlogout] using h cmd.sessionId
  · rw [if_neg hs]
    simpa [Ne.symm hs] using h s

/-- **One command** emits what is saved for the character of its session exactly if it is known. -/
lemma named_command (h : Placed owner m pre) (mapId : MapId) :
    ((∀ op ∈ (sessionStep mapId (m.entry cmd.sessionId) cmd).2.persist,
        Named owner (cmd.sessionId, op)) ∧
      ∀ change ∈ (sessionStep mapId (m.entry cmd.sessionId) cmd).2.inventory,
        Named owner (cmd.sessionId, .saveInventoryChange change.1 mapId change.2)) ↔
      Known owner pre cmd := by
  have hplaced := h cmd.sessionId
  have hpersist : ∀ op ∈ (sessionStep mapId (m.entry cmd.sessionId) cmd).2.persist,
      Named owner (cmd.sessionId, op) := by
    intro op hop
    obtain ⟨player, hplayer, hsaved⟩ := savedFor_persist hop
    have hid : m.ids cmd.sessionId = some player.characterId := by rw [ids, hplayer]; rfl
    by_cases hentered : Entered cmd.sessionId pre
    · rw [Named, hsaved, ← hid, hplaced.1 hentered]
    · rw [hplaced.2 hentered] at hid
      cases hid
  rcases inventory_sessionStep mapId (m.entry cmd.sessionId) cmd with
    ⟨hno, hinv⟩ | ⟨hyes, reason, hinv⟩
  · rw [hinv]
    refine iff_of_true ⟨hpersist, fun _ hmem => absurd hmem List.not_mem_nil⟩ fun hyes => ?_
    rw [hno] at hyes
    cases hyes
  · rw [hinv, Known, forall_prop_of_true hyes]
    constructor
    · rintro ⟨-, hnamed⟩
      have hone : (m.ids cmd.sessionId).getD cmd.sessionId = owner cmd.sessionId :=
        Option.some.inj (hnamed _ List.mem_cons_self)
      refine or_iff_not_imp_right.mpr fun hentered => ?_
      rw [hplaced.2 hentered] at hone
      exact hone.symm
    · intro hknown
      refine ⟨hpersist, fun change hmem => ?_⟩
      obtain rfl := List.mem_singleton.mp hmem
      have hone : (m.ids cmd.sessionId).getD cmd.sessionId = owner cmd.sessionId := by
        by_cases hentered : Entered cmd.sessionId pre
        · rw [hplaced.1 hentered]
          rfl
        · rw [hplaced.2 hentered]
          exact (hknown.resolve_right hentered).symm
      exact congrArg some hone

/-! ### A batch, and a run -/

lemma emittedBy_cons (cmd : IncomingCommand) (rest : List IncomingCommand)
    {P : SessionId × PersistOp → Prop} :
    (∀ x ∈ emittedBy m (cmd :: rest), P x) ↔
      ((∀ op ∈ (sessionStep m.config.mapId (m.entry cmd.sessionId) cmd).2.persist,
          P (cmd.sessionId, op)) ∧
        ∀ change ∈ (sessionStep m.config.mapId (m.entry cmd.sessionId) cmd).2.inventory,
          P (cmd.sessionId, .saveInventoryChange change.1 m.config.mapId change.2)) ∧
      ∀ x ∈ emittedBy (m.inputCommand cmd) rest, P x := by
  have hone := took_inputCommand m cmd
  simp only [emittedBy, positionTrace, inventoryTrace, hone.persistTx,
    hone.pendingInventoryChanges, List.drop_left, List.flatMap_singleton, List.forall_mem_append,
    List.forall_mem_map]
  tauto

/-- **The commands of a batch**, one after the other. -/
theorem named_batch (h : Placed owner m pre) {commands : List IncomingCommand}
    (howner : ∀ cmd ∈ commands, cmd.characterId = some (owner cmd.sessionId)) :
    ((∀ x ∈ emittedBy m commands, Named owner x) ↔
      Along (fun mid cmd => Known owner (pre ++ mid) cmd) commands) ∧
    Placed owner (m.systemInput commands) (pre ++ commands) := by
  induction commands generalizing m pre with
  | nil =>
    refine ⟨iff_of_true (fun _ hx => absurd hx List.not_mem_nil) along_nil, ?_⟩
    rwa [List.append_nil]
  | cons cmd rest ih =>
    have hnext := h.inputCommand (howner cmd List.mem_cons_self)
    obtain ⟨hiff, hplaced⟩ := ih hnext fun c hc => howner c (List.mem_cons_of_mem _ hc)
    rw [emittedBy_cons, named_command h, hiff, along_cons, List.append_nil]
    refine ⟨?_, ?_⟩
    · simp only [List.append_assoc, List.cons_append, List.nil_append]
    · rwa [List.append_assoc] at hplaced

lemma ids_tick (m : MapInstance) (iter : Iteration) :
    (m.tick iter).ids = (m.begun.systemInput m.begun.pendingCommands).ids := by
  obtain ⟨resolved, hticked⟩ := tick_ticked m iter
  have htook := took_inputStage m.begun
  have hinput := took_systemInput m.begun m.begun.pendingCommands
  funext s
  have hsurvived := congrArg (Option.map Prod.fst) (survived_eq m.begun.inputStage s)
  rw [Option.map_map, Option.map_map] at hsurvived
  rw [ids, ids, hticked.entries, hinput.entries, ← htook.entries]
  exact hsurvived

lemma Placed.congr {m' : MapInstance} (h : Placed owner m pre) (hids : m'.ids = m.ids) :
    Placed owner m' pre := by
  intro s
  rw [hids]
  exact h s

lemma begun_ids (m : MapInstance) : m.begun.ids = m.ids := by
  rw [begun_eq]
  rfl

variable {config : MapConfig} {r : Recorded}

lemma instance_reached (h : (system config).Reached r) :
    (mapSystem config).Reached r.mapInstance := by
  refine h.projected (·.mapInstance) ?_ ?_
  · rintro r rfl
    rfl
  · intro r a r' hst
    cases a with
    | incoming command =>
      obtain rfl := Option.some.inj hst
      exact .inr ⟨.incoming command, rfl⟩
    | tick iter =>
      obtain rfl := Option.some.inj hst
      exact .inr ⟨.tick iter, rfl⟩

lemma savedFor_positionTrace (m : MapInstance) (commands : List IncomingCommand) :
    ∀ x ∈ positionTrace m commands, (savedFor x.2).isSome = true := by
  induction commands generalizing m with
  | nil => exact fun _ hx => absurd hx List.not_mem_nil
  | cons cmd rest ih =>
    have hone := took_inputCommand m cmd
    intro x hx
    rw [positionTrace, hone.persistTx, List.drop_left, List.flatMap_singleton] at hx
    rcases List.mem_append.mp hx with hx | hx
    · obtain ⟨op, hop, rfl⟩ := List.mem_map.mp hx
      obtain ⟨player, -, hsaved⟩ := savedFor_persist hop
      rw [hsaved]
      rfl
    · exact ih _ x hx

lemma savedFor_inventoryTrace (m : MapInstance) (commands : List IncomingCommand) :
    ∀ x ∈ inventoryTrace m commands, (savedFor x.2).isSome = true := by
  induction commands generalizing m with
  | nil => exact fun _ hx => absurd hx List.not_mem_nil
  | cons cmd rest ih =>
    intro x hx
    rcases List.mem_append.mp hx with hx | hx
    · obtain ⟨change, -, rfl⟩ := List.mem_map.mp hx
      rfl
    · exact ih _ x hx

/-- The positions and inventory changes of an instance. -/
def saved (m : MapInstance) : List PersistOp := m.persistTx.filter fun op => (savedFor op).isSome

lemma saved_tick {m : MapInstance} (hm : m.pendingInventoryChanges = []) (iter : Iteration) :
    saved (m.tick iter) =
      saved m ++ (emittedBy m.begun m.begun.pendingCommands).map Prod.snd := by
  obtain ⟨logs, hlogs, hpersist⟩ := written_processTick m.begun iter m.begun.pendingCommands
  have hrun : m.tick iter = m.begun.processTick iter := rfl
  have hbegun : m.begun.persistTx = m.persistTx ∧ m.begun.inventoryOps = [] := by
    rw [begun_eq]
    exact ⟨rfl, by rw [inventoryOps]; exact congrArg (List.map _) hm⟩
  have hall : ∀ l : List (SessionId × PersistOp), (∀ x ∈ l, (savedFor x.2).isSome = true) →
      (l.map Prod.snd).filter (fun op => (savedFor op).isSome) = l.map Prod.snd := by
    intro l hl
    refine List.filter_eq_self.mpr fun op hop => ?_
    obtain ⟨x, hx, rfl⟩ := List.mem_map.mp hop
    exact hl x hx
  have hnone : logs.filter (fun op => (savedFor op).isSome) = [] := by
    refine List.filter_eq_nil_iff.mpr fun op hop => ?_
    have hlog := hlogs op hop
    cases op with
    | saveCombatLog => simp [savedFor]
    | saveCharacterPosition | saveInventoryChange => cases hlog
  rw [saved, hrun, hpersist, hbegun.1, hbegun.2]
  simp only [List.filter_append, List.nil_append, hall _ (savedFor_positionTrace _ _),
    hall _ (savedFor_inventoryTrace _ _), hnone, emittedBy, List.map_append,
    List.append_assoc]
  rfl

/-- Everything that is saved is saved because of a command. -/
theorem saved_eq (h : (system config).Reached r) :
    saved r.mapInstance = r.emitted.map Prod.snd := by
  refine h.invariant_of (fun r => saved r.mapInstance = r.emitted.map Prod.snd)
    (fun hr => (sound_of_reached (instance_reached hr)).pendingInventoryChanges) ?_ ?_
  · rintro r rfl
    rfl
  · intro r a r' hpending _ hr _ hst
    cases a with
    | incoming command =>
      obtain rfl := Option.some.inj hst
      exact hr
    | tick iter =>
      obtain rfl := Option.some.inj hst
      unfold Recorded.tick
      dsimp only
      rw [saved_tick hpending, hr, List.map_append]

/-- **Saved for the acting character.** When the commands of every session name one character, all
that an instance saves because of a session is saved for its character exactly if every command
that changes the inventory comes from a session that has entered this instance. -/
theorem named_iff (h : (system config).Reached r)
    (howner : ∀ cmd ∈ r.processed, cmd.characterId = some (owner cmd.sessionId)) :
    saved r.mapInstance = r.emitted.map Prod.snd ∧
      ((∀ x ∈ r.emitted, Named owner x) ↔ Along (Known owner) r.processed) := by
  refine ⟨saved_eq h, ?_⟩
  suffices hkey : (∀ cmd ∈ r.processed, cmd.characterId = some (owner cmd.sessionId)) →
      ((∀ x ∈ r.emitted, Named owner x) ↔ Along (Known owner) r.processed) ∧
        Placed owner r.mapInstance r.processed from (hkey howner).1
  refine h.invariant (fun r => (∀ cmd ∈ r.processed, cmd.characterId = some (owner cmd.sessionId)) →
    ((∀ x ∈ r.emitted, Named owner x) ↔ Along (Known owner) r.processed) ∧
      Placed owner r.mapInstance r.processed) ?_ ?_
  · rintro r rfl -
    refine ⟨iff_of_true (fun _ hx => absurd hx List.not_mem_nil) along_nil, fun s => ?_⟩
    exact ⟨fun hentered => absurd hentered not_since_nil, fun _ => rfl⟩
  · intro r a r' ih _ hst howner
    cases a with
    | incoming command =>
      obtain rfl := Option.some.inj hst
      obtain ⟨hiff, hplaced⟩ := ih howner
      exact ⟨hiff, hplaced.congr rfl⟩
    | tick iter =>
      obtain rfl := Option.some.inj hst
      have howned := List.forall_mem_append.mp howner
      obtain ⟨hiff, hplaced⟩ := ih howned.1
      have hbegun := hplaced.congr (begun_ids r.mapInstance)
      obtain ⟨hbatch, hafter⟩ := named_batch hbegun howned.2
      refine ⟨?_, hafter.congr (ids_tick r.mapInstance iter)⟩
      unfold Recorded.tick
      dsimp only
      rw [List.forall_mem_append, hiff, hbatch, along_append]

/-- A session enters the map and picks something up. -/
theorem named_iff_entered :
    ∃ r, (system ⟨1, 16⟩).Reached r ∧
      r.emitted = [(.fill 7, .saveInventoryChange (.fill 5) 1 "pickup_item")] ∧
      saved r.mapInstance = r.emitted.map Prod.snd ∧
      ((∀ x ∈ r.emitted, Named (fun _ => .fill 5) x) ↔
        Along (Known fun _ => .fill 5) r.processed) := by
  obtain ⟨r, hr, hp⟩ := (system ⟨1, 16⟩).exists_reachedBy (fun _ _ => True) rfl
    [.incoming ⟨.fill 7, some (.fill 5), .enterWorld⟩,
      .incoming ⟨.fill 7, some (.fill 5), .pickupItem (.fill 9)⟩, .tick default]
    (fun r => (∀ cmd ∈ r.processed, cmd.characterId = some (.fill 5)) ∧
      r.emitted = [(.fill 7, .saveInventoryChange (.fill 5) 1 "pickup_item")]) (by decide +kernel)
  obtain ⟨howner, hemitted⟩ := of_decide_eq_true hp
  exact ⟨r, hr, hemitted, named_iff hr howner⟩

/-- An item picked up before the session has entered is saved for the session. -/
theorem pickup_saved_for_session :
    ∃ r, (system ⟨1, 16⟩).Reached r ∧
      (∀ cmd ∈ r.processed ++ r.mapInstance.rx, cmd.characterId = some (.fill 5)) ∧
      r.mapInstance.persistTx = [.saveInventoryChange (.fill 7) 1 "pickup_item"] ∧
      ∃ x ∈ r.emitted, ¬ Named (fun _ => .fill 5) x := by
  obtain ⟨r, hr, hp⟩ := (system ⟨1, 16⟩).exists_reachedBy (fun _ _ => True) rfl
    [.incoming ⟨.fill 7, some (.fill 5), .pickupItem (.fill 9)⟩, .tick default]
    (fun r => (∀ cmd ∈ r.processed ++ r.mapInstance.rx, cmd.characterId = some (.fill 5)) ∧
      r.mapInstance.persistTx = [.saveInventoryChange (.fill 7) 1 "pickup_item"] ∧
      r.emitted = [(.fill 7, .saveInventoryChange (.fill 7) 1 "pickup_item")]) (by decide +kernel)
  obtain ⟨howner, hpersist, hemitted⟩ := of_decide_eq_true hp
  refine ⟨r, hr, howner, hpersist, ⟨.fill 7, .saveInventoryChange (.fill 7) 1 "pickup_item"⟩, ?_, ?_⟩
  · rw [hemitted]
    exact List.mem_singleton_self _
  · unfold Named
    decide

end HelbreathBackend.ActingCharacter
