import HelbreathBackend.AdminLogin

/-!
The audit log of the administration service.

Every handler here ends with the writing of its row, and nothing it does before touches the log
or the administrators. So whether there is a row afterwards depends on that one statement, whose
failure is ignored: on the foreign key of the principal and on the length of the target.
-/

namespace HelbreathBackend.AdminApi

open HelbreathBackend.Lib HelbreathBackend.Domain HelbreathBackend.Infrastructure
open HelbreathBackend.Application (trim)

/-! ### The requests that are audited -/

inductive AdminRequest
  | managedServicesStatus
  | managedServiceControl (service action : String)
  | managedServiceLogs (service : String) (lines : Option UInt32)
  | searchAccounts (text : Option String) (limit : Option Int64)
  | blockAccount (accountId : AccountId)
  | unblockAccount (accountId : AccountId)
  | resetAccountPassword (accountId : AccountId)
  | accountSanctions (accountId : AccountId)
  | searchCharacters (text : Option String) (limit : Option Int64)
  | moveCharacter (characterId : CharacterId) (mapId : MapId) (x y : Int32)
  | disconnectCharacter (characterId : CharacterId)
  | characterInventory (characterId : CharacterId)
  | listMaps
  | activateMap (mapId : MapId)
  | deactivateMap (mapId : MapId)
  | restartMapInstance (mapId : MapId)
  | broadcast (message : String)
  | toggleEvent (eventCode : String) (enabled : Bool)
  | moderationMute (req : ModerationActionRequest)
  | moderationJail (req : ModerationActionRequest)
  | moderationBan (req : ModerationActionRequest)

namespace AdminRequest

def serve (auth : Option HeaderValue) : AdminRequest → Api Json
  | managedServicesStatus => AdminApi.managedServicesStatus auth
  | managedServiceControl service action => AdminApi.managedServiceControl auth service action
  | managedServiceLogs service lines => AdminApi.managedServiceLogs auth service lines
  | searchAccounts text limit => AdminApi.searchAccounts auth text limit
  | blockAccount accountId => AdminApi.blockAccount auth accountId
  | unblockAccount accountId => AdminApi.unblockAccount auth accountId
  | resetAccountPassword accountId => AdminApi.resetAccountPassword auth accountId
  | accountSanctions accountId => AdminApi.accountSanctions auth accountId
  | searchCharacters text limit => AdminApi.searchCharacters auth text limit
  | moveCharacter characterId mapId x y => moveCharacterHandler auth characterId mapId x y
  | disconnectCharacter characterId => AdminApi.disconnectCharacter auth characterId
  | characterInventory characterId => AdminApi.characterInventory auth characterId
  | listMaps => AdminApi.listMaps auth
  | activateMap mapId => AdminApi.activateMap auth mapId
  | deactivateMap mapId => AdminApi.deactivateMap auth mapId
  | restartMapInstance mapId => AdminApi.restartMapInstance auth mapId
  | broadcast message => AdminApi.broadcast auth message
  | toggleEvent eventCode enabled => AdminApi.toggleEvent auth eventCode enabled
  | moderationMute req => AdminApi.moderationMute auth req
  | moderationJail req => AdminApi.moderationJail auth req
  | moderationBan req => AdminApi.moderationBan auth req

def permission : AdminRequest → Permission
  | managedServicesStatus => .metricsRead
  | managedServiceControl .. => .worldWrite
  | managedServiceLogs .. => .auditRead
  | searchAccounts .. | accountSanctions _ => .accountsRead
  | blockAccount _ | unblockAccount _ => .accountsBan
  | resetAccountPassword _ => .accountsWrite
  | searchCharacters .. | characterInventory _ => .charactersRead
  | moveCharacter .. => .charactersWrite
  | disconnectCharacter _ => .charactersDisconnect
  | listMaps => .worldRead
  | activateMap _ | deactivateMap _ | restartMapInstance _ | toggleEvent .. => .worldWrite
  | broadcast _ => .broadcastSend
  | moderationMute _ | moderationJail _ | moderationBan _ => .moderationWrite

/-- The type of the action. -/
def actionType : AdminRequest → String
  | managedServicesStatus => "services.status.list"
  | managedServiceControl .. => "services.control"
  | managedServiceLogs .. => "services.logs.read"
  | searchAccounts .. => "accounts.search"
  | blockAccount _ => "accounts.block"
  | unblockAccount _ => "accounts.unblock"
  | resetAccountPassword _ => "accounts.password_reset.requested"
  | accountSanctions _ => "accounts.sanctions.list"
  | searchCharacters .. => "characters.search"
  | moveCharacter .. => "characters.move"
  | disconnectCharacter _ => "characters.disconnect"
  | characterInventory _ => "characters.inventory.inspect"
  | listMaps => "world.maps.list"
  | activateMap _ => "world.map.activate"
  | deactivateMap _ => "world.map.deactivate"
  | restartMapInstance _ => "world.map.restart"
  | broadcast _ => "world.broadcast"
  | toggleEvent .. => "world.event.toggle"
  | moderationMute _ => "moderation.mute"
  | moderationJail _ => "moderation.jail"
  | moderationBan _ => "moderation.ban"

def targetType : AdminRequest → String
  | managedServicesStatus => "services"
  | managedServiceControl .. | managedServiceLogs .. => "service"
  | searchAccounts .. => "accounts"
  | blockAccount _ | unblockAccount _ | resetAccountPassword _ | accountSanctions _ => "account"
  | searchCharacters .. => "characters"
  | moveCharacter .. | disconnectCharacter _ | characterInventory _ => "character"
  | listMaps | broadcast _ => "world"
  | activateMap _ | deactivateMap _ | restartMapInstance _ => "map"
  | toggleEvent .. => "event"
  | moderationMute _ | moderationJail _ | moderationBan _ => "moderation"

/-- The target, as the handler passes it to the log. -/
def target : AdminRequest → String
  | managedServicesStatus | broadcast _ => "all"
  | managedServiceControl service _ | managedServiceLogs service _ => service
  | searchAccounts text _ | searchCharacters text _ => text.getD ""
  | blockAccount id | unblockAccount id | resetAccountPassword id | accountSanctions id
  | moveCharacter id _ _ _ | disconnectCharacter id | characterInventory id => id.format
  | listMaps => "maps"
  | activateMap mapId | deactivateMap mapId | restartMapInstance mapId => toString mapId
  | toggleEvent eventCode _ => eventCode
  | moderationMute req | moderationJail req | moderationBan req => moderationTarget req

end AdminRequest

/-! ### What comes before the row -/

/-- The log and the administrators are the same, and the database is as reachable. -/
structure Same (b b' : Backend) : Prop where
  users : b'.db.adminUsers = b.db.adminUsers
  logs : b'.db.adminAuditLogs = b.db.adminAuditLogs
  reachable : b.dbFates = [] → b'.dbFates = []

lemma same_refl (b : Backend) : Same b b := ⟨rfl, rfl, id⟩

lemma same_trans (b₁ b₂ b₃ : Backend) (h : Same b₁ b₂) (h' : Same b₂ b₃) : Same b₁ b₃ :=
  ⟨h'.users.trans h.users, h'.logs.trans h.logs, fun hb => h'.reachable (h.reachable hb)⟩

/-- Sequencing of handlers that leave the log alone. -/
lemma same_bind {α β ε : Type} {h : Handler Outside Backend ε α}
    {k : α → Handler Outside Backend ε β}
    (hh : Handler.Keeps Same h) (hk : ∀ a, Handler.Keeps Same (k a)) :
    Handler.Keeps Same (h >>= k) := hh.bind same_trans hk

lemma same_statement {α : Type} {f : Database → Except DbError (α × Database)}
    (hf : ∀ db a db', f db = .ok (a, db') →
      db'.adminUsers = db.adminUsers ∧ db'.adminAuditLogs = db.adminAuditLogs) :
    Handler.Keeps Same (statement f) := by
  have htail (b : Backend) : b.dbFates = [] → b.dbFates.tail = [] := fun h => by rw [h]; rfl
  exact keeps_statement (fun b => ⟨rfl, rfl, htail b⟩) fun b a db hrun =>
    ⟨(hf _ _ _ hrun).1, (hf _ _ _ hrun).2, htail b⟩

lemma same_query {α : Type} (f : Database → α) : Handler.Keeps Same (query f) :=
  same_statement fun _ _ _ h => by cases h; exact ⟨rfl, rfl⟩

lemma same_orDbError {α : Type} {h : Repo α} (hh : Handler.Keeps Same h) :
    Handler.Keeps Same (orDbError h) := hh.mapError _

lemma same_authenticate (auth : Option HeaderValue) (permission : Permission) :
    Handler.Keeps Same (authenticate auth permission) := by
  intro o b
  obtain ⟨s, hs⟩ := authenticate_sessions auth permission o b
  rw [hs]
  exact ⟨rfl, rfl, id⟩

lemma same_setAccountStatus (accountId : AccountId) (status : AccountStatus) :
    Handler.Keeps Same (setAccountStatus accountId status) :=
  same_statement fun _ _ _ h => by cases h; exact ⟨rfl, rfl⟩

/-- A statement that answers nothing, and may be refused. -/
lemma same_write {f : Outside → Database → Except DbError Database}
    (hf : ∀ o db db', f o db = .ok db' →
      db'.adminUsers = db.adminUsers ∧ db'.adminAuditLogs = db.adminAuditLogs) :
    Handler.Keeps Same (Handler.given >>= fun o =>
      statement fun db => (f o db).map fun db => ((), db)) := by
  exact same_bind (Handler.keeps_given same_refl) fun o => same_statement fun db a db' h =>
    hf o db _ (of_map_answer h).2

lemma same_createSanction (input : CreateSanctionInput) :
    Handler.Keeps Same (createSanction input) := by
  refine same_write fun o db db' h => ?_
  obtain ⟨_, _, -, -, rfl⟩ := Database.of_createSanction h
  exact ⟨rfl, rfl⟩

lemma same_moveCharacter (characterId : CharacterId) (mapId : MapId) (x y : Int32) :
    Handler.Keeps Same (moveCharacter characterId mapId x y) := by
  refine same_write fun o db db' h => ?_
  simp only [Database.moveCharacter] at h
  split at h
  · cases h
  · cases h
    exact ⟨rfl, rfl⟩

lemma same_activateMapRow (mapId : MapId) : Handler.Keeps Same (activateMapRow mapId) := by
  unfold activateMapRow
  refine same_bind (Handler.keeps_given same_refl) fun o => same_bind (same_query _) fun e => ?_
  split
  · refine same_statement fun db a db' h => ?_
    simp only [Database.activateInstance] at h
    split at h
    · cases h
      exact ⟨rfl, rfl⟩
    · split at h
      · cases h
      · split at h
        · cases h
          exact ⟨rfl, rfl⟩
        · cases h
  · exact Handler.keeps_pure same_refl _

lemma same_deactivateMapRow (mapId : MapId) : Handler.Keeps Same (deactivateMapRow mapId) := by
  unfold deactivateMapRow
  refine same_bind (Handler.keeps_given same_refl) fun o => same_bind (same_query _) fun e => ?_
  split
  · exact same_statement fun _ _ _ h => by cases h; exact ⟨rfl, rfl⟩
  · exact Handler.keeps_pure same_refl _

lemma same_invokeWorldMapControl (mapId : MapId) (action : MapControl) :
    Handler.Keeps Same (invokeWorldMapControl mapId action) := by
  intro o b
  unfold invokeWorldMapControl
  split <;> exact ⟨rfl, rfl, id⟩

/-! ### Handlers that end with their row -/

variable {principal : AdminPrincipal} {actionType targetType target : String} {α : Type}

/-- When the handler returns, the last thing it has done is to write its row, and it has left the
log alone before. -/
def WritesAudit (principal : AdminPrincipal) (actionType targetType target : String)
    (h : Api α) : Prop :=
  ∀ o b r b', h o b = (.ok r, b') → ∃ b₁ payload, Same b b₁ ∧
    auditAction principal actionType targetType target payload none o b₁ = (.ok (), b')

lemma writesAudit_audit (payload : Json) (a : α) :
    WritesAudit principal actionType targetType target
      (auditAction principal actionType targetType target payload none >>= fun _ => pure a) := by
  intro o b r b' h
  obtain ⟨_, b₁, haudit, hret⟩ := Handler.bind_eq_ok_iff.mp h
  obtain ⟨_, rfl⟩ := Handler.pure_eq_ok_iff.mp hret
  exact ⟨b, payload, same_refl b, haudit⟩

lemma writesAudit_fail (err : ApiError) :
    WritesAudit principal actionType targetType target (apiFail err : Api α) :=
  fun _ _ _ _ h => absurd h Handler.fail_ne_ok

lemma WritesAudit.bind {β : Type} {h : Api β} {k : β → Api α} (hh : Handler.Keeps Same h)
    (hk : ∀ o s a t, h o s = (.ok a, t) →
      WritesAudit principal actionType targetType target (k a)) :
    WritesAudit principal actionType targetType target (h >>= k) := by
  intro o b r b' hrun
  obtain ⟨a, b₁, hfirst, hrest⟩ := Handler.bind_eq_ok_iff.mp hrun
  obtain ⟨b₂, payload, hsame, haudit⟩ := hk o b a b₁ hfirst o b₁ r b' hrest
  refine ⟨b₂, payload, same_trans _ _ _ ?_ hsame, haudit⟩
  have hfirst' := hh o b
  rwa [hfirst] at hfirst'

lemma writesAudit_given {k : Outside → Api α}
    (hk : ∀ o, WritesAudit principal actionType targetType target (k o)) :
    WritesAudit principal actionType targetType target (Handler.given >>= k) :=
  .bind (Handler.keeps_given same_refl) fun _ _ o _ _ => hk o

/-- A handler that authenticates, and then works up to its row. -/
def Audited (auth : Option HeaderValue) (permission : Permission)
    (actionType targetType target : String) (h : Api α) : Prop :=
  ∀ o b r b', h o b = (.ok r, b') → ∃ principal b₀ b₁ payload,
    authenticate auth permission o b = (.ok principal, b₀) ∧ Same b b₁ ∧
      auditAction principal actionType targetType target payload none o b₁ = (.ok (), b')

variable {auth : Option HeaderValue} {permission : Permission}

lemma audited_of_writes {k : AdminPrincipal → Api α}
    (hk : ∀ principal, WritesAudit principal actionType targetType target (k principal)) :
    Audited auth permission actionType targetType target
      (authenticate auth permission >>= k) := by
  intro o b r b' h
  obtain ⟨principal, b₀, hauth, hrest⟩ := Handler.bind_eq_ok_iff.mp h
  obtain ⟨b₁, payload, hsame, haudit⟩ := hk principal o b₀ r b' hrest
  refine ⟨principal, b₀, b₁, payload, hauth, same_trans _ _ _ ?_ hsame, haudit⟩
  have hfirst := same_authenticate auth permission o b
  rwa [hauth] at hfirst

lemma writesAudit_find {service : String} {k : ManagedServiceDef → Api α}
    {defs : List ManagedServiceDef} {err : Failure}
    (hk : ∀ svc, WritesAudit principal actionType targetType svc.key (k svc)) :
    WritesAudit principal actionType targetType service
      (Handler.ofOption err (defs.find? fun svc => svc.key == service) >>= k) := by
  refine .bind (Handler.keeps_ofOption same_refl _ _) fun o s svc t h => ?_
  have hkey := List.find?_some (Handler.ofOption_eq_ok_iff.mp h).1
  rw [← beq_iff_eq.mp hkey]
  exact hk svc

lemma audited_moderationAction (auth : Option HeaderValue) (req : ModerationActionRequest)
    (action : String) :
    Audited auth .moderationWrite s!"moderation.{action}" "moderation" (moderationTarget req)
      (moderationAction auth req action) := by
  refine audited_of_writes fun p => ?_
  split
  · exact writesAudit_fail _
  · refine writesAudit_given fun o =>
      .bind (Handler.keeps_ofOption same_refl _ _) fun _ _ endsAt _ _ => ?_
    exact .bind (same_orDbError (same_createSanction _)) fun _ _ _ _ _ => writesAudit_audit _ _

/-- What the handlers of maps do after the registry has answered. -/
lemma writesAudit_persisted {persisted : Bool} {mapId : MapId} {action : MapControl}
    {err : ApiError} {h : Api α} (hh : WritesAudit principal actionType targetType target h) :
    WritesAudit principal actionType targetType target
      (if ¬ persisted = true then
        Handler.ignore (invokeWorldMapControl mapId action) >>= fun _ => apiFail err
      else h) := by
  split
  · exact .bind (same_invokeWorldMapControl _ _).ignore fun _ _ _ _ _ => writesAudit_fail _
  · exact hh

/-- **Every handler ends with its row.** -/
theorem audited_serve (auth : Option HeaderValue) (req : AdminRequest) :
    Audited auth req.permission req.actionType req.targetType req.target (req.serve auth) := by
  cases req with
  | managedServicesStatus =>
    exact audited_of_writes fun p => writesAudit_given fun o => writesAudit_audit _ _
  | managedServiceControl service action =>
    refine audited_of_writes fun p => writesAudit_given fun o => writesAudit_find fun svc => ?_
    refine .bind (Handler.keeps_ofOption same_refl _ _) fun _ _ parsed _ _ => ?_
    exact .bind (Handler.keeps_ofExcept same_refl _) fun _ _ _ _ _ => writesAudit_audit _ _
  | managedServiceLogs service lines =>
    exact audited_of_writes fun p => writesAudit_given fun o => writesAudit_find fun svc =>
      writesAudit_audit _ _
  | searchAccounts text limit =>
    exact audited_of_writes fun p => writesAudit_given fun o =>
      .bind (same_orDbError (same_query _)) fun _ _ _ _ _ => writesAudit_audit _ _
  | blockAccount accountId | unblockAccount accountId =>
    exact audited_of_writes fun p =>
      .bind (same_orDbError (same_setAccountStatus _ _)) fun _ _ _ _ _ => writesAudit_audit _ _
  | resetAccountPassword accountId =>
    exact audited_of_writes fun p => writesAudit_given fun o => writesAudit_audit _ _
  | accountSanctions accountId =>
    exact audited_of_writes fun p => writesAudit_given fun o =>
      .bind (same_orDbError (same_query _)) fun _ _ _ _ _ => writesAudit_audit _ _
  | searchCharacters text limit =>
    exact audited_of_writes fun p => writesAudit_given fun o =>
      .bind (same_orDbError (same_query _)) fun _ _ _ _ _ => writesAudit_audit _ _
  | moveCharacter characterId mapId x y =>
    exact audited_of_writes fun p =>
      .bind (same_orDbError (same_moveCharacter _ _ _ _)) fun _ _ _ _ _ => writesAudit_audit _ _
  | disconnectCharacter characterId => exact audited_of_writes fun p => writesAudit_audit _ _
  | characterInventory characterId =>
    exact audited_of_writes fun p => writesAudit_given fun o =>
      .bind (same_orDbError (same_query _)) fun _ _ _ _ _ => writesAudit_audit _ _
  | listMaps =>
    exact audited_of_writes fun p => writesAudit_given fun o =>
      .bind (same_orDbError (same_query _)) fun _ _ _ _ _ =>
        .bind (same_orDbError (same_query _)) fun _ _ _ _ _ => writesAudit_audit _ _
  | activateMap mapId =>
    exact audited_of_writes fun p =>
      .bind (same_invokeWorldMapControl _ _) fun _ _ wire _ _ =>
        .bind (same_orDbError (same_activateMapRow _)) fun _ _ persisted _ _ =>
          writesAudit_persisted (writesAudit_audit _ _)
  | deactivateMap mapId =>
    exact audited_of_writes fun p =>
      .bind (same_invokeWorldMapControl _ _) fun _ _ wire _ _ =>
        .bind (same_orDbError (same_deactivateMapRow _)) fun _ _ persisted _ _ =>
          writesAudit_persisted (writesAudit_audit _ _)
  | restartMapInstance mapId =>
    exact audited_of_writes fun p =>
      .bind (same_invokeWorldMapControl _ _) fun _ _ stopped _ _ =>
        .bind (same_invokeWorldMapControl _ _) fun _ _ started _ _ =>
          .bind (same_orDbError (same_activateMapRow _)) fun _ _ persisted _ _ =>
            writesAudit_persisted (writesAudit_audit _ _)
  | broadcast message =>
    intro o b r b' h
    simp only [AdminRequest.serve, broadcast] at h
    split at h
    · exact absurd h Handler.fail_ne_ok
    · refine audited_of_writes (fun p => writesAudit_given fun o =>
        .bind (Handler.keeps_ofExcept same_refl _) fun _ _ status _ _ => ?_) o b r b' h
      split
      · exact writesAudit_fail _
      · exact writesAudit_audit _ _
  | toggleEvent eventCode enabled => exact audited_of_writes fun p => writesAudit_audit _ _
  | moderationMute req => exact audited_moderationAction auth req "mute"
  | moderationJail req => exact audited_moderationAction auth req "jail"
  | moderationBan req => exact audited_moderationAction auth req "ban"

/-! ### The row -/

/-- A new row says that the administrator did this to the target. -/
def HasNewRow (db db' : Database) (adminUserId : Uuid) (actionType target : String) : Prop :=
  ∃ row ∈ db'.adminAuditLogs.rows, row ∉ db.adminAuditLogs.rows ∧
    row.adminUserId = some adminUserId ∧ row.actionType = actionType ∧ row.targetId = target

/-- **Whether the statement leaves a row**, where the type of the action and all that is not the
target fit their columns. -/
theorem hasNewRow_insertAdminAudit_iff {db : Database} {inet : String → Option String} {now : Time}
    {newId adminUserId : Uuid} {payload : Json} {request : String}
    (hnew : ∀ row ∈ db.adminAuditLogs.rows, row.id ≠ newId) (haction : actionType.length ≤ 64)
    (htype : targetType.length ≤ 64) (hrequest : request.length ≤ 64) :
    HasNewRow db ((db.insertAdminAudit inet now newId ⟨adminUserId, actionType, targetType, target,
        payload, some request, none⟩).toOption.getD db) adminUserId actionType target ↔
      (∃ u ∈ db.adminUsers.rows, u.id = adminUserId) ∧ target.length ≤ 128 := by
  have hnone : ¬ HasNewRow db db adminUserId actionType target := by
    rintro ⟨row, hrow, hno, -⟩
    exact hno hrow
  rcases hcut : fitLength 128 target with err | cut
  · -- the target is refused
    have hlong : ¬ target.length ≤ 128 := fun hle => by
      rw [fitLength_of_le hle] at hcut
      cases hcut
    have hrun : db.insertAdminAudit inet now newId ⟨adminUserId, actionType, targetType, target,
        payload, some request, none⟩ = .error err := by
      simp [Database.insertAdminAudit, Database.auditRow, fitLength_of_le haction,
        fitLength_of_le htype, hcut, bind, Except.bind]
    rw [hrun]
    exact iff_of_false hnone fun h => hlong h.2
  -- the row is written, if its administrator is there
  obtain ⟨logs, hins⟩ : ∃ logs, db.adminAuditLogs.insert ⟨newId, some adminUserId, actionType,
      targetType, cut, some request, payload, none, now⟩ = some logs :=
    Option.isSome_iff_exists.mp (Table.insert_isSome_iff.mpr fun row hrow he => hnew row hrow he)
  have hrows := (Table.insert_eq_some_iff.mp hins).2
  have hrun : db.insertAdminAudit inet now newId ⟨adminUserId, actionType, targetType, target,
      payload, some request, none⟩ =
        if ¬ ∃ u ∈ db.adminUsers.rows, u.id = adminUserId then .error .foreignKeyViolation
        else .ok { db with adminAuditLogs := logs } := by
    simp [Database.insertAdminAudit, Database.auditRow, fitLength_of_le haction, fitLength_of_le htype,
      fitLength_of_le hrequest, hcut, hins, bind, Except.bind, Except.map]
  rw [hrun]
  by_cases huser : ∃ u ∈ db.adminUsers.rows, u.id = adminUserId
  · rw [if_neg (not_not.mpr huser)]
    constructor
    · rintro ⟨row, hrow, hno, -, -, rfl⟩
      refine ⟨huser, ?_⟩
      have hrow' : row ∈ logs.rows := hrow
      rw [hrows, List.mem_append, List.mem_singleton] at hrow'
      rcases hrow' with hrow' | rfl
      · exact absurd hrow' hno
      · exact length_le_of_fitLength hcut
    · rintro ⟨-, hle⟩
      rw [fitLength_of_le hle] at hcut
      cases hcut
      refine ⟨⟨newId, some adminUserId, actionType, targetType, target, some request, payload, none,
        now⟩, ?_, fun hold => hnew _ hold rfl, rfl, rfl, rfl⟩
      show _ ∈ logs.rows
      rw [hrows]
      exact List.mem_append_right _ (List.mem_singleton_self _)
  · rw [if_pos huser]
    exact iff_of_false hnone fun h => huser h.1

/-- The database after a statement that arrives, whether it is refused or not. -/
lemma db_statement {β : Type} {f : Database → Except DbError (β × Database)} {o : Outside}
    {b : Backend} (hreach : b.dbFates = []) :
    (statement f o b).2.db = ((f b.db).toOption.map Prod.snd).getD b.db := by
  unfold statement
  rw [hreach]
  rcases f b.db with err | ⟨a, db⟩ <;> rfl

lemma auditAction_apply {o : Outside} {b b' : Backend} {payload : Json} (hreach : b.dbFates = [])
    (h : auditAction principal actionType targetType target payload none o b = (.ok (), b')) :
    b'.db = ((b.db.insertAdminAudit o.inet o.now o.auditId ⟨principal.adminUserId, actionType,
      targetType, target, payload, some o.correlationId.format, none⟩).toOption.getD b.db) := by
  obtain rfl : ((statement fun db => (db.insertAdminAudit o.inet o.now o.auditId
      ⟨principal.adminUserId, actionType, targetType, target, payload,
        some o.correlationId.format, none⟩).map fun db => ((), db)) o b).2 = b' :=
    congrArg Prod.snd h
  rw [db_statement hreach]
  rcases b.db.insertAdminAudit o.inet o.now o.auditId ⟨principal.adminUserId, actionType,
    targetType, target, payload, some o.correlationId.format, none⟩ with err | db <;> rfl

/-- Every name of an action, and every kind of target, fits its column. -/
lemma length_actionType_le (req : AdminRequest) : req.actionType.length ≤ 64 := by
  cases req <;> simp only [AdminRequest.actionType] <;> decide +kernel

lemma length_targetType_le (req : AdminRequest) : req.targetType.length ≤ 64 := by
  cases req <;> simp only [AdminRequest.targetType] <;> decide +kernel

/-- **Rows of the audit log**: a request that is answered leaves its row exactly when its principal
is a stored administrator and the target has at most 128 characters. -/
theorem audit_row_iff (req : AdminRequest) (auth : Option HeaderValue) (o : Outside)
    (b b' : Backend) (r : Json) (principal : AdminPrincipal) (b₀ : Backend)
    (hreach : b.dbFates = []) (hnew : ∀ row ∈ b.db.adminAuditLogs.rows, row.id ≠ o.auditId)
    (hauth : authenticate auth req.permission o b = (.ok principal, b₀))
    (hserve : req.serve auth o b = (.ok r, b')) :
    HasNewRow b.db b'.db principal.adminUserId req.actionType req.target ↔
      (∃ u ∈ b.db.adminUsers.rows, u.id = principal.adminUserId) ∧ req.target.length ≤ 128 := by
  obtain ⟨p, b₀', b₁, payload, hauth', hsame, haudit⟩ := audited_serve auth req o b r b' hserve
  obtain rfl : p = principal := by
    rw [hauth] at hauth'
    cases hauth'
    rfl
  have hdb := auditAction_apply (hsame.reachable hreach) haudit
  have haction := length_actionType_le req
  have htype := length_targetType_le req
  have hrequest : o.correlationId.format.length ≤ 64 := by rw [Uuid.length_format]; decide
  have hnew' : ∀ row ∈ b₁.db.adminAuditLogs.rows, row.id ≠ o.auditId := by
    rw [hsame.logs]
    exact hnew
  have hrow : HasNewRow b₁.db b'.db p.adminUserId req.actionType req.target ↔
      (∃ u ∈ b₁.db.adminUsers.rows, u.id = p.adminUserId) ∧ req.target.length ≤ 128 := by
    rw [hdb]
    exact hasNewRow_insertAdminAudit_iff hnew' haction htype hrequest
  rw [hsame.users] at hrow
  rw [← hrow, HasNewRow, HasNewRow, hsame.logs]

/-! ### What meets the condition -/

/-- **The principals**: the session of a login is one of a stored administrator exactly when the
lookup has found one. -/
theorem adminLogin_stored_iff {o : Outside} {b b' : Backend} {req : AdminLoginRequest} {r : Json}
    (hfresh : ∀ u ∈ b.db.adminUsers.rows, u.id ≠ o.principalId)
    (h : adminLogin req o b = (.ok r, b')) :
    ∃ session, b'.sessions.lookup o.token.format = some session ∧
      ((∃ u ∈ b'.db.adminUsers.rows, u.id = session.principal.adminUserId) ↔
        (adminRow b.db (trim req.email)).isSome) := by
  obtain ⟨-, record, b₁, principal, expiresAt, hfind, hp, -, rfl, -⟩ := adminLogin_eq_ok_iff.mp h
  refine ⟨⟨principal, expiresAt⟩, Finmap.lookup_insert _, ?_⟩
  obtain ⟨-, ⟨hnone, rfl, rfl⟩ | ⟨u, hu, -, rfl, rfl⟩⟩ := findAdminForLogin_eq_ok_iff.mp hfind
  · obtain ⟨_, hr, -⟩ | ⟨-, -, rfl⟩ := loginPrincipal_eq_ok_iff.mp hp
    · cases hr
    · refine iff_of_false ?_ (by rw [hnone]; exact Bool.false_ne_true)
      rintro ⟨u, hu, hid⟩
      exact hfresh u hu hid
  · obtain ⟨record, hr, -, rfl⟩ | ⟨hr, -⟩ := loginPrincipal_eq_ok_iff.mp hp
    · cases hr
      exact iff_of_true ⟨u, (of_adminRow hu).1, rfl⟩ (by rw [hu]; rfl)
    · cases hr

/-- The requests whose target is any text. -/
def AdminRequest.freeTarget : AdminRequest → Bool
  | searchAccounts .. | searchCharacters .. | toggleEvent .. => true
  | _ => false

lemma length_repr_le {n : ℕ} (h : n ≤ 2 ^ 31) : n.repr.length ≤ 127 :=
  (Nat.length_repr_le_iff (by decide)).mpr (lt_of_le_of_lt h (by decide))

lemma length_toString_le (n : Int32) : (toString n).length ≤ 128 := by
  have hlt := n.toInt_lt
  have hge := n.le_toInt
  show (toString n.toInt).length ≤ 128
  rcases hn : n.toInt with m | m
  · rw [hn] at hlt
    have hm := length_repr_le (n := m) (by simp at hlt; omega)
    show m.repr.length ≤ 128
    omega
  · rw [hn] at hge
    have hm := length_repr_le (n := m + 1) (by omega)
    show ("-" ++ (m + 1).repr).length ≤ 128
    rw [String.length_append]
    have h1 : "-".length = 1 := rfl
    omega

lemma length_key_le {settings : Settings} {svc : ManagedServiceDef}
    (h : svc ∈ managedServiceDefs settings) : svc.key.length ≤ 128 := by
  simp only [managedServiceDefs, List.mem_cons, List.not_mem_nil, or_false] at h
  rcases h with rfl | rfl | rfl | rfl | rfl | rfl | rfl <;> dsimp only <;> decide

lemma length_moderationTarget_le (req : ModerationActionRequest) :
    (moderationTarget req).length ≤ 128 := by
  unfold moderationTarget
  rcases req.characterId with _ | id
  · rcases req.accountId with _ | id
    · decide
    · show id.format.length ≤ 128
      rw [Uuid.length_format]
      decide
  · show id.format.length ≤ 128
    rw [Uuid.length_format]
    decide

/-- **The targets**: all others fit their column. -/
theorem length_target_le {req : AdminRequest} {auth : Option HeaderValue} {o : Outside}
    {b b' : Backend} {r : Json} (hserve : req.serve auth o b = (.ok r, b'))
    (hfree : req.freeTarget = false) : req.target.length ≤ 128 := by
  cases req with
  | searchAccounts text limit | searchCharacters text limit | toggleEvent eventCode enabled =>
    cases hfree
  | managedServicesStatus | listMaps => decide
  | broadcast message =>
    show "all".length ≤ 128
    decide
  | blockAccount id | unblockAccount id | resetAccountPassword id | accountSanctions id
  | moveCharacter id mapId x y | disconnectCharacter id | characterInventory id =>
    show id.format.length ≤ 128
    rw [Uuid.length_format]
    decide
  | activateMap mapId | deactivateMap mapId | restartMapInstance mapId =>
    exact length_toString_le mapId
  | moderationMute req | moderationJail req | moderationBan req =>
    exact length_moderationTarget_le req
  | managedServiceControl service action | managedServiceLogs service lines =>
    obtain ⟨p, b₁, -, hrest⟩ := Handler.bind_eq_ok_iff.mp hserve
    obtain ⟨o', b₂, ho, hrest⟩ := Handler.bind_eq_ok_iff.mp hrest
    obtain ⟨svc, b₃, hsvc, -⟩ := Handler.bind_eq_ok_iff.mp hrest
    have hfind := (Handler.ofOption_eq_ok_iff.mp hsvc).1
    have hkey := List.find?_some hfind
    show service.length ≤ 128
    rw [← beq_iff_eq.mp hkey]
    exact length_key_le (List.mem_of_find?_eq_some hfind)

/-- A stored administrator toggles an event. -/
theorem audit_row_iff_toggle :
    let principal : AdminPrincipal := ⟨.fill 20, "gm@localhost", [.gm]⟩
    let b : Backend := { Backend.fixture with
      db := { Database.fixture with
        adminUsers := ⟨[⟨.fill 20, "gm@localhost", "$argon2id$s3cret", "active"⟩],
          List.pairwise_singleton _ _⟩ }
      sessions := (∅ : FMap String AdminSession).insert "token" ⟨principal, 100⟩ }
    let req : AdminRequest := .toggleEvent "double_exp" true
    HasNewRow b.db (req.serve (some (.text "Bearer token")) Outside.fixture b).2.db (.fill 20)
      "world.event.toggle" "double_exp" := by
  intro principal b req
  have hauth : (authenticate (some (.text "Bearer token")) .worldWrite Outside.fixture
      b).1.toOption = some principal := by decide +kernel
  have hserve : (req.serve (some (.text "Bearer token")) Outside.fixture b).1.toOption.isSome := by
    decide +kernel
  rcases ha : authenticate (some (.text "Bearer token")) .worldWrite Outside.fixture b with ⟨p, b₀⟩
  rcases hs : req.serve (some (.text "Bearer token")) Outside.fixture b with ⟨r, b'⟩
  rw [ha] at hauth
  rw [hs] at hserve
  rcases p with e | p <;> cases hauth
  rcases r with e | r
  · cases hserve
  · exact (audit_row_iff req _ _ b b' r principal b₀ rfl (fun _ h => by cases h) ha hs).mpr
      ⟨⟨_, List.mem_singleton_self _, rfl⟩, by decide⟩

/-- Whoever logs in with the bootstrap credential can block an account without a trace. -/
theorem bootstrap_leaves_no_row :
    let b := (adminLogin ⟨"admin@localhost", "change_me_now"⟩ Outside.fixture Backend.fixture).2
    let auth := some (HeaderValue.text ("Bearer " ++ (Uuid.fill 11).format))
    let served := (AdminRequest.blockAccount (.fill 1)).serve auth Outside.fixture b
    served.1.toOption.isSome ∧ (served.2.db.accounts.rows.map (·.status)) = ["banned"] ∧
      served.2.db.adminAuditLogs.rows.length = 0 := by
  decide +kernel

end HelbreathBackend.AdminApi
