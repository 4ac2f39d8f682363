import HelbreathBackend.GatewayAndWorld
import HelbreathBackend.Infrastructure
import HelbreathBackend.Lib.Records
import Mathlib.Tactic.IntervalCases

/-!
The body of a routed command.

The gateway writes a `WorldRouteEnvelope` and the world service reads a `RouteEnvelope`: two
declarations in two crates, which have to agree on every name. Both are given here as what
`serde` derives for them, the one as a writer and the other as a reader of JSON values. The text
between the two is the matter of `serde_json`: it reads the value that it wrote.
-/

namespace HelbreathBackend.WireFormat

open HelbreathBackend.Lib HelbreathBackend.Domain HelbreathBackend.Application
open HelbreathBackend.World HelbreathBackend.Gateway
open HelbreathBackend.GatewayAndWorld
open HelbreathBackend.Infrastructure (Json)

/-! ### Values -/

def ofI32 (n : Int32) : Json := .num n.toInt

def i32? : Json → Option Int32
  | .num n => if -2 ^ 31 ≤ n ∧ n < 2 ^ 31 then some (Int32.ofInt n) else none
  | _ => none

def bool? : Json → Option Bool
  | .bool b => some b
  | _ => none

def string? : Json → Option String
  | .str text => some text
  | _ => none

def ofUuid (u : Uuid) : Json := .str u.format

def uuid? (parseStr : String → Option Uuid) : Json → Option Uuid
  | .str text => parseStr text
  | _ => none

def ofOption {α : Type} (write : α → Json) : Option α → Json
  | some a => write a
  | none => .null

def option? {α : Type} (read : Json → Option α) : Json → Option (Option α)
  | .null => some none
  | v => (read v).map some

lemma i32?_ofI32 (n : Int32) : i32? (ofI32 n) = some n := by
  have h : -2 ^ 31 ≤ n.toInt ∧ n.toInt < 2 ^ 31 := ⟨n.le_toInt, n.toInt_lt⟩
  rw [ofI32, i32?, if_pos h, Int32.ofInt_toInt]

lemma uuid?_ofUuid {parseStr : String → Option Uuid}
    (hparse : ∀ u : Uuid, parseStr u.format = some u) (u : Uuid) :
    uuid? parseStr (ofUuid u) = some u := hparse u

lemma option?_ofOption {parseStr : String → Option Uuid}
    (hparse : ∀ u : Uuid, parseStr u.format = some u) (o : Option Uuid) :
    option? (uuid? parseStr) (ofOption ofUuid o) = some o := by
  cases o with
  | none => rfl
  | some u => exact congrArg (Option.map some) (uuid?_ofUuid hparse u)

/-- `rename_all = "snake_case"`, on the name of a variant. -/
def snakeCase (variant : String) : String :=
  match variant.toList with
  | [] => ""
  | c :: cs => String.ofList
    (c.toLower :: cs.flatMap fun ch => if ch.isUpper then ['_', ch.toLower] else [ch.toLower])

/-! ### What the gateway writes -/

/-- A variant under `tag = "type"`. -/
def tagged (variant : String) (fields : Fields Json) : Fields Json :=
  ("type", .str (snakeCase variant)) :: fields

/-- `Serialize` of `WorldRouteCommandRequest`. -/
def requestFields : WorldRouteCommandRequest → Fields Json
  | .heartbeat => tagged "Heartbeat" []
  | .enterWorld => tagged "EnterWorld" []
  | .move x y run => tagged "Move" [("x", ofI32 x), ("y", ofI32 y), ("run", .bool run)]
  | .attack targetId => tagged "Attack" [("target_id", ofUuid targetId)]
  | .castSkill skillId targetId =>
    tagged "CastSkill" [("skill_id", ofI32 skillId), ("target_id", ofOption ofUuid targetId)]
  | .pickupItem entityId => tagged "PickupItem" [("entity_id", ofUuid entityId)]
  | .dropItem slot quantity =>
    tagged "DropItem" [("slot", ofI32 slot), ("quantity", ofI32 quantity)]
  | .useItem slot => tagged "UseItem" [("slot", ofI32 slot)]
  | .npcInteraction npcId => tagged "NpcInteraction" [("npc_id", ofUuid npcId)]
  | .chat message => tagged "Chat" [("message", .str message)]
  | .whisper toCharacter message =>
    tagged "Whisper" [("to_character", .str toCharacter), ("message", .str message)]
  | .guildChat message => tagged "GuildChat" [("message", .str message)]
  | .logout => tagged "Logout" []

/-- `Serialize` of `WorldRouteEnvelope`; the command is flattened. -/
def envelopeJson (e : WorldRouteEnvelope) : Json :=
  .obj ([("session_id", ofUuid e.sessionId), ("character_id", ofOption ofUuid e.characterId)] ++
    requestFields e.command)

/-! ### What the world service reads -/

inductive RouteCommandRequest
  | heartbeat
  | enterWorld
  | chat (message : String)
  | move (x y : Int32) (run : Bool)
  | attack (targetId : Uuid)
  | castSkill (skillId : Int32) (targetId : Option Uuid)
  | pickupItem (entityId : Uuid)
  | dropItem (slot quantity : Int32)
  | useItem (slot : Int32)
  | npcInteraction (npcId : Uuid)
  | whisper (toCharacter message : String)
  | guildChat (message : String)
  | logout
  deriving DecidableEq

structure RouteEnvelope where
  sessionId : SessionId
  characterId : Option CharacterId
  command : RouteCommandRequest
  deriving DecidableEq

section

variable (parseStr : String → Option Uuid)

/-- The variants of `RouteCommandRequest` with their fields. An option may be missing. -/
def variants : Fields.Variants Json RouteCommandRequest :=
  [("Heartbeat", fun _ => some .heartbeat),
   ("EnterWorld", fun _ => some .enterWorld),
   ("Chat", fun fs => do pure (.chat (← fs.required string? "message"))),
   ("Move", fun fs => do
      pure (.move (← fs.required i32? "x") (← fs.required i32? "y") (← fs.required bool? "run"))),
   ("Attack", fun fs => do pure (.attack (← fs.required (uuid? parseStr) "target_id"))),
   ("CastSkill", fun fs => do
      pure (.castSkill (← fs.required i32? "skill_id")
        (← fs.defaulted (option? (uuid? parseStr)) none "target_id"))),
   ("PickupItem", fun fs => do pure (.pickupItem (← fs.required (uuid? parseStr) "entity_id"))),
   ("DropItem", fun fs => do
      pure (.dropItem (← fs.required i32? "slot") (← fs.required i32? "quantity"))),
   ("UseItem", fun fs => do pure (.useItem (← fs.required i32? "slot"))),
   ("NpcInteraction", fun fs => do
      pure (.npcInteraction (← fs.required (uuid? parseStr) "npc_id"))),
   ("Whisper", fun fs => do
      pure (.whisper (← fs.required string? "to_character") (← fs.required string? "message"))),
   ("GuildChat", fun fs => do pure (.guildChat (← fs.required string? "message"))),
   ("Logout", fun _ => some .logout)]

/-- The variants under the names they have on the wire. -/
def renamed : Fields.Variants Json RouteCommandRequest :=
  (variants parseStr).map fun v => (snakeCase v.1, v.2)

/-- `Deserialize` of `RouteCommandRequest`. -/
def request? (fs : Fields Json) : Option RouteCommandRequest :=
  fs.readTagged "type" string? (renamed parseStr)

/-- `Deserialize` of `RouteEnvelope`; the command is flattened. -/
def envelope? : Json → Option RouteEnvelope
  | .obj fs => do
    let sessionId ← Fields.required (uuid? parseStr) "session_id" fs
    let characterId ← Fields.defaulted (option? (uuid? parseStr)) none "character_id" fs
    let command ← request? parseStr (Fields.rest ["session_id", "character_id"] fs)
    pure ⟨sessionId, characterId, command⟩
  | _ => none

end

/-- The match of `route_command`. -/
def clientCommand : RouteCommandRequest → ClientCommand
  | .heartbeat => .heartbeat
  | .enterWorld => .enterWorld
  | .chat message => .chat message
  | .move x y run => .move x y run
  | .attack targetId => .attack targetId
  | .castSkill skillId targetId => .castSkill skillId targetId
  | .pickupItem entityId => .pickupItem entityId
  | .dropItem slot quantity => .dropItem slot quantity
  | .useItem slot => .useItem slot
  | .npcInteraction npcId => .npcInteraction npcId
  | .whisper toCharacter message => .whisper toCharacter message
  | .guildChat message => .guildChat message
  | .logout => .logout

/-- What `route_command` hands to `route_to_map`. -/
def routeCommand (mapId : MapId) (req : RouteEnvelope) : WorldMessage :=
  .routeToMap mapId req.sessionId req.characterId (clientCommand req.command)

/-! ### Names do not collide -/

def variantNames : List String :=
  ["Heartbeat", "EnterWorld", "Chat", "Move", "Attack", "CastSkill", "PickupItem", "DropItem",
    "UseItem", "NpcInteraction", "Whisper", "GuildChat", "Logout"]

lemma nodup_renamed (parseStr : String → Option Uuid) :
    ((renamed parseStr).map Prod.fst).Nodup := by
  have h : (renamed parseStr).map Prod.fst = variantNames.map snakeCase := by
    simp [renamed, variants, variantNames]
  rw [h]
  decide +kernel

/-- The names of a request on the wire: no two are the same, and none is one of the envelope. -/
lemma nodup_requestFields (request : WorldRouteCommandRequest) :
    (requestFields request).names.Nodup ∧
      ∀ n ∈ (requestFields request).names, n ∉ ["session_id", "character_id"] := by
  cases request <;>
    simp [requestFields, tagged, Fields.names]

lemma request?_tagged {parseStr : String → Option Uuid} {variant : String}
    {read : Fields Json → Option RouteCommandRequest} {fs : Fields Json}
    (hmem : (variant, read) ∈ variants parseStr) (hnd : (tagged variant fs).names.Nodup) :
    request? parseStr (tagged variant fs) = read fs := by
  have hrenamed : (snakeCase variant, read) ∈ renamed parseStr :=
    List.mem_map.mpr ⟨(variant, read), hmem, rfl⟩
  exact Fields.readTagged_tagged (nodup_renamed parseStr) hrenamed rfl hnd

/-- **A request is read as what it was written for.** -/
theorem request?_requestFields {parseStr : String → Option Uuid}
    (hparse : ∀ u : Uuid, parseStr u.format = some u) (request : WorldRouteCommandRequest) :
    (request? parseStr (requestFields request)).map clientCommand =
      some (GatewayAndWorld.routeCommand request) := by
  have hnd := (nodup_requestFields request).1
  have huuid := uuid?_ofUuid hparse
  have hoption := option?_ofOption hparse
  have hstring : ∀ text, string? (.str text) = some text := fun _ => rfl
  cases request with
  | heartbeat | enterWorld | logout =>
    rw [requestFields, request?_tagged (by simp [variants]; rfl) hnd]
    rfl
  | move x y run =>
    rw [requestFields, request?_tagged (by simp [variants]; rfl) hnd]
    simp [Fields.required, Fields.field, Fields.under, i32?_ofI32, bool?]
    rfl
  | castSkill skillId targetId =>
    rw [requestFields, request?_tagged (by simp [variants]; rfl) hnd]
    simp [Fields.required, Fields.defaulted, Fields.field, Fields.under, i32?_ofI32, hoption]
    rfl
  | dropItem slot quantity =>
    rw [requestFields, request?_tagged (by simp [variants]; rfl) hnd]
    simp [Fields.required, Fields.field, Fields.under, i32?_ofI32]
    rfl
  | useItem slot =>
    rw [requestFields, request?_tagged (by simp [variants]; rfl) hnd]
    simp [Fields.required, Fields.field, Fields.under, i32?_ofI32]
    rfl
  | attack u | pickupItem u | npcInteraction u =>
    rw [requestFields, request?_tagged (by simp [variants]; rfl) hnd]
    simp [Fields.required, Fields.field, Fields.under, huuid]
    rfl
  | chat message | guildChat message =>
    rw [requestFields, request?_tagged (by simp [variants]; rfl) hnd]
    simp [Fields.required, Fields.field, Fields.under, hstring]
    rfl
  | whisper toCharacter message =>
    rw [requestFields, request?_tagged (by simp [variants]; rfl) hnd]
    simp [Fields.required, Fields.field, Fields.under, hstring]
    rfl

/-- **An envelope is read as what it was written for.** -/
theorem envelope?_envelopeJson {parseStr : String → Option Uuid}
    (hparse : ∀ u : Uuid, parseStr u.format = some u) (mapId : MapId) (e : WorldRouteEnvelope) :
    (envelope? parseStr (envelopeJson e)).map (routeCommand mapId) =
      some (.routeToMap mapId e.sessionId e.characterId
        (GatewayAndWorld.routeCommand e.command)) := by
  obtain ⟨hnd, hdisj⟩ := nodup_requestFields e.command
  obtain ⟨request, hrequest, hcommand⟩ :=
    Option.map_eq_some_iff.mp (request?_requestFields hparse e.command)
  let outer : Fields Json :=
    [("session_id", ofUuid e.sessionId), ("character_id", ofOption ofUuid e.characterId)]
  have hall : (Fields.names (outer ++ requestFields e.command)).Nodup := by
    rw [Fields.names, List.map_append]
    refine List.Nodup.append (by simp [outer]) hnd fun n hn hn' => hdisj n hn' ?_
    simpa [outer] using hn
  have hsession : Fields.required (uuid? parseStr) "session_id"
      (outer ++ requestFields e.command) = some e.sessionId :=
    Fields.required_of_mem hall (List.mem_append_left _ List.mem_cons_self)
      (uuid?_ofUuid hparse e.sessionId)
  have hcharacter : Fields.defaulted (option? (uuid? parseStr)) none "character_id"
      (outer ++ requestFields e.command) = some e.characterId :=
    Fields.defaulted_of_mem hall
      (List.mem_append_left _ (List.mem_cons_of_mem _ List.mem_cons_self))
      (option?_ofOption hparse e.characterId)
  have hrest : Fields.rest ["session_id", "character_id"] (outer ++ requestFields e.command) =
      requestFields e.command := Fields.rest_append (fun _ hn => hn) hdisj
  have hread : envelope? parseStr (envelopeJson e) =
      some ⟨e.sessionId, e.characterId, request⟩ := by
    change (Fields.required _ _ _).bind _ = _
    rw [hsession, Option.bind_some]
    change (Fields.defaulted _ _ _ _).bind _ = _
    rw [hcharacter, Option.bind_some, hrest, hrequest]
    rfl
  rw [hread, ← hcommand]
  rfl

/-- Serving a request puts into the inbox what is read from its body. -/
theorem routed_worldRoute {parseStr : String → Option Uuid}
    (hparse : ∀ u : Uuid, parseStr u.format = some u) (mapId : MapId) (e : WorldRouteEnvelope) :
    routed (.worldRoute mapId e) =
      ((envelope? parseStr (envelopeJson e)).map (routeCommand mapId)).toList := by
  rw [envelope?_envelopeJson hparse]
  rfl

/-! ### What the router sends -/

/-- The request that `route_client_command` makes of a command. -/
def requestOf : ClientCommand → Option WorldRouteCommandRequest
  | .enterWorld => some .enterWorld
  | .move x y run => some (.move x y run)
  | .attack targetId => some (.attack targetId)
  | .castSkill skillId targetId => some (.castSkill skillId targetId)
  | .pickupItem entityId => some (.pickupItem entityId)
  | .dropItem slot quantity => some (.dropItem slot quantity)
  | .useItem slot => some (.useItem slot)
  | .npcInteraction npcId => some (.npcInteraction npcId)
  | .chat message => some (.chat message)
  | .whisper toCharacter message => some (.whisper toCharacter message)
  | .guildChat message => some (.guildChat message)
  | .heartbeat => some .heartbeat
  | .logout => some .logout
  | .login _ | .characterList | .characterCreate _ | .characterDelete _ | .characterSelect _ =>
    none

/-- The commands that are not for the authentication service alone. -/
def gameplay : ClientCommand → Bool
  | .login _ | .characterList | .characterCreate _ | .characterDelete _ | .characterSelect _ =>
    false
  | _ => true

lemma routeCommand_requestOf {command : ClientCommand} {request : WorldRouteCommandRequest}
    (h : requestOf command = some request) : GatewayAndWorld.routeCommand request = command := by
  cases command <;> cases h <;> rfl

lemma isSome_requestOf (command : ClientCommand) :
    (requestOf command).isSome = gameplay command := by
  cases command <;> rfl

/-- What the router sends to the world for a command of a session is the request made of it. -/
def Sends (s : SessionId) (command : ClientCommand) (q : BackendRequest) : Prop :=
  ∀ m e, q = .worldRoute m e → e.sessionId = s ∧ requestOf command = some e.command

section

open Router

variable {s : SessionId} {m : MapId} {P : BackendRequest → Prop}

lemma asks_post {α : Type} {q : BackendRequest} {next : HttpReply → Router α} (h : P q)
    (hnext : ∀ r, (next r).Asks P) : (post q >>= next).Asks P :=
  ⟨h, hnext⟩

lemma asks_updateIf {accepted : Bool} {f : SessionRuntime → SessionRuntime} :
    (if accepted then updateSession s f else pure () : Router Unit).Asks P := by
  cases accepted with
  | false => trivial
  | true => exact fun _ => trivial

lemma asks_routeWorldCommand {request : WorldRouteCommandRequest}
    (h : ∀ c, P (.worldRoute m ⟨s, c, request⟩)) : (routeWorldCommand s m request).Asks P :=
  fun _ => ⟨h _, fun _ => trivial⟩

lemma asks_routePlay {request : WorldRouteCommandRequest}
    (h : ∀ c, P (.worldRoute m ⟨s, c, request⟩)) : (routePlay s m request).Asks P := by
  intro σ
  change Task.Asks P (if _ then _ else _)
  split
  · exact Task.Asks.bind (asks_routeWorldCommand h) fun _ => trivial
  · trivial

lemma asks_whenAuthenticated {route : Router Unit} (h : route.Asks P) :
    (whenAuthenticated s route).Asks P := by
  intro σ
  change Task.Asks P (if _ then _ else _)
  split
  · exact h
  · trivial

/-- What holds of whatever the router posts for a command: the requests to the world and those for
a new character are made of the command. -/
lemma asks_routeClientCommand_of {hint : Option MapId} {command : ClientCommand}
    (hworld : ∀ {request : WorldRouteCommandRequest} {m : MapId}, requestOf command = some request →
      ∀ c, P (.worldRoute m ⟨s, c, request⟩))
    (hcreate : ∀ payload, command = .characterCreate payload →
      (routeAuthCharacterCreate s payload).Asks P)
    (hother : ∀ q, (∀ m e, q ≠ .worldRoute m e) → (∀ req, q ≠ .authCharacterCreate req) → P q) :
    (routeClientCommand s hint command).Asks P := by
  have hmap : (resolveMapId s hint).Asks P := by
    cases hint with
    | none => exact fun _ => trivial
    | some m => trivial
  refine Task.Asks.bind hmap fun m => ?_
  cases command with
  | login payload =>
    intro σ
    refine asks_post (hother _ (fun _ _ h => by cases h) fun _ h => by cases h) fun r => ?_
    split
    · exact asks_updateIf
    · trivial
  | characterList =>
    refine asks_whenAuthenticated (asks_post ?_ fun _ => trivial)
    exact hother _ (fun _ _ h => by cases h) fun _ h => by cases h
  | characterCreate payload => exact asks_whenAuthenticated (hcreate payload rfl)
  | characterDelete c =>
    refine asks_whenAuthenticated (asks_post ?_ fun r => ?_)
    · exact hother _ (fun _ _ h => by cases h) fun _ h => by cases h
    · split
      · exact asks_updateIf
      · trivial
  | characterSelect c =>
    refine asks_whenAuthenticated (asks_post ?_ fun r => ?_)
    · exact hother _ (fun _ _ h => by cases h) fun _ h => by cases h
    · split
      · exact asks_updateIf
      · trivial
  | enterWorld =>
    intro σ
    change Task.Asks _ (if _ then _ else _)
    split
    · refine Task.Asks.bind (asks_routeWorldCommand (hworld rfl)) fun entered => ?_
      cases entered with
      | true => exact fun _ => trivial
      | false => trivial
    · trivial
  | heartbeat => exact Task.Asks.bind (asks_routeWorldCommand (hworld rfl)) fun _ => trivial
  | logout =>
    refine Task.Asks.bind (asks_routeWorldCommand (hworld rfl)) fun _ => ?_
    exact asks_post (hother _ (fun _ _ h => by cases h) fun _ h => by cases h) fun _ _ => trivial
  | move | attack | castSkill | pickupItem | dropItem | useItem | npcInteraction | chat | whisper
  | guildChat => exact asks_routePlay (hworld rfl)

theorem asks_routeClientCommand (s : SessionId) (hint : Option MapId) (command : ClientCommand) :
    (routeClientCommand s hint command).Asks (Sends s command) := by
  refine asks_routeClientCommand_of ?_ (fun _ _ => ⟨nofun, fun _ => trivial⟩) ?_
  · intro request m hreq c m' e he
    obtain ⟨-, rfl⟩ := BackendRequest.worldRoute.inj he
    exact ⟨rfl, hreq⟩
  · intro q hq _ m e he
    exact absurd he (hq m e)

/-- A session that is in the world. -/
def playing : Sessions :=
  Finmap.singleton (.fill 7) ⟨"10.0.0.7", some (.fill 1), some (.fill 5), some 1, true⟩

/-- The commands that the router forwards to the world are those of play. -/
theorem forwarded_iff (command : ClientCommand) :
    (∃ s hint, ¬ (routeClientCommand s hint command).Asks fun q => ∀ m e, q ≠ .worldRoute m e) ↔
      gameplay command = true := by
  constructor
  · rintro ⟨s, hint, hsends⟩
    rw [← isSome_requestOf]
    by_contra hnone
    refine hsends ((asks_routeClientCommand s hint command).mono fun q hq m e he => ?_)
    rw [(hq m e he).2] at hnone
    exact hnone rfl
  · intro hg
    refine ⟨.fill 7, some 1, fun h => ?_⟩
    cases command with
    | login | characterList | characterCreate | characterDelete | characterSelect => cases hg
    | heartbeat | logout => exact (h playing).1 _ _ rfl
    | enterWorld => exact (h playing playing).1 _ _ rfl
    | move | attack | castSkill | pickupItem | dropItem | useItem | npcInteraction | chat
    | whisper | guildChat => exact (h playing playing).1 _ _ rfl

end

/-- **Both services mean the same command.** Whatever the router sends to the world for a command
is read there as that command of the session, with the character that was sent; and so is the
request made of any command of play, for any session and character. -/
theorem same_command {parseStr : String → Option Uuid}
    (hparse : ∀ u : Uuid, parseStr u.format = some u) (command : ClientCommand) :
    (∀ s hint, (Router.routeClientCommand s hint command).Asks fun q =>
      ∀ m e, q = .worldRoute m e → (envelope? parseStr (envelopeJson e)).map (routeCommand m) =
        some (.routeToMap m s e.characterId command)) ∧
      (gameplay command = true → ∃ request, requestOf command = some request ∧ ∀ m s c,
        (envelope? parseStr (envelopeJson ⟨s, c, request⟩)).map (routeCommand m) =
          some (.routeToMap m s c command)) := by
  have hread : ∀ {request : WorldRouteCommandRequest}, requestOf command = some request →
      ∀ m s c, (envelope? parseStr (envelopeJson ⟨s, c, request⟩)).map (routeCommand m) =
        some (.routeToMap m s c command) := by
    intro request hreq m s c
    rw [envelope?_envelopeJson hparse, routeCommand_requestOf hreq]
  constructor
  · intro s hint
    refine (asks_routeClientCommand s hint command).mono fun q hq m e he => ?_
    obtain ⟨rfl, hreq⟩ := hq m e he
    exact hread hreq m e.sessionId e.characterId
  · intro hg
    rw [← isSome_requestOf] at hg
    obtain ⟨request, hreq⟩ := Option.isSome_iff_exists.mp hg
    exact ⟨request, hreq, hread hreq⟩

/-! ### The hyphenated form -/

def hexDigit? (c : Char) : Option ℕ := (List.range 16).find? fun n => Nat.digitChar n == c

def hexBytes? : List Char → Option (List UInt8)
  | [] => some []
  | hi :: lo :: cs => do
    let hi ← hexDigit? hi
    let lo ← hexDigit? lo
    let bs ← hexBytes? cs
    pure (UInt8.ofNat (16 * hi + lo) :: bs)
  | _ => none

/-- Reads an identifier from its digits, wherever the hyphens stand. -/
def parseHyphenated (text : String) : Option Uuid := do
  let bs ← hexBytes? (text.toList.filter (· ≠ '-'))
  if h : bs.length = 16 then pure ⟨bs, h⟩ else none

lemma hexDigit?_digitChar {n : ℕ} (h : n < 16) : hexDigit? (Nat.digitChar n) = some n := by
  interval_cases n <;> rfl

lemma digitChar_ne_hyphen {n : ℕ} (h : n < 16) : Nat.digitChar n ≠ '-' := by
  interval_cases n <;> decide

def hexChars (bs : List UInt8) : List Char :=
  bs.flatMap fun b => [Nat.digitChar (b.toNat / 16), Nat.digitChar (b.toNat % 16)]

lemma hexBytes?_hexChars (bs : List UInt8) : hexBytes? (hexChars bs) = some bs := by
  induction bs with
  | nil => rfl
  | cons b bs ih =>
    have hlt := b.toNat_lt
    have hhi := hexDigit?_digitChar (show b.toNat / 16 < 16 by omega)
    have hlo := hexDigit?_digitChar (show b.toNat % 16 < 16 by omega)
    have hb : UInt8.ofNat (16 * (b.toNat / 16) + b.toNat % 16) = b := by
      rw [Nat.div_add_mod, UInt8.ofNat_toNat]
    change (hexDigit? _).bind _ = _
    rw [hhi, Option.bind_some]
    change (hexDigit? _).bind _ = _
    rw [hlo, Option.bind_some]
    change (hexBytes? (hexChars bs)).bind _ = _
    rw [ih, Option.bind_some, hb]
    rfl

lemma filter_hexChars (bs : List UInt8) : (hexChars bs).filter (· ≠ '-') = hexChars bs := by
  refine List.filter_eq_self.mpr fun c hc => decide_eq_true ?_
  obtain ⟨b, -, hb⟩ := List.mem_flatMap.mp hc
  have hlt := b.toNat_lt
  rcases List.mem_pair.mp hb with rfl | rfl
  · exact digitChar_ne_hyphen (by omega)
  · exact digitChar_ne_hyphen (by omega)

/-- Without the hyphens the parts of the text are the digits of all bytes. -/
lemma filter_format (u : Uuid) : u.format.toList.filter (· ≠ '-') = hexChars u.bytes := by
  have hformat : u.format.toList = List.intercalate ['-'] [hexChars ((u.bytes.drop 0).take 4),
      hexChars ((u.bytes.drop 4).take 2), hexChars ((u.bytes.drop 6).take 2),
      hexChars ((u.bytes.drop 8).take 2), hexChars ((u.bytes.drop 10).take 6)] :=
    String.toList_ofList
  have hbytes : u.bytes = (u.bytes.drop 0).take 4 ++ ((u.bytes.drop 4).take 2 ++
      ((u.bytes.drop 6).take 2 ++ ((u.bytes.drop 8).take 2 ++ (u.bytes.drop 10).take 6))) := by
    have hadd : ∀ i n : ℕ, u.bytes.drop i = (u.bytes.drop i).take n ++ u.bytes.drop (i + n) := by
      intro i n
      rw [← List.drop_drop, List.take_append_drop]
    have hlast : (u.bytes.drop 10).take 6 = u.bytes.drop 10 :=
      List.take_of_length_le (by rw [List.length_drop, u.length_eq])
    rw [hlast, ← hadd 8 2, ← hadd 6 2, ← hadd 4 2, ← hadd 0 4]
    rfl
  have happend : ∀ as bs, hexChars (as ++ bs) = hexChars as ++ hexChars bs :=
    fun as bs => List.flatMap_append
  rw [hformat]
  conv_rhs => rw [hbytes]
  have hfilter := filter_hexChars
  simp only [ne_eq, decide_not] at hfilter
  simp [List.intercalate, happend, hfilter]

theorem parseHyphenated_format (u : Uuid) : parseHyphenated u.format = some u := by
  rw [parseHyphenated, filter_format, hexBytes?_hexChars]
  exact dif_pos u.length_eq

theorem same_command_skill : gameplay (.castSkill (-3) none) = true ∧
    ∃ request, requestOf (.castSkill (-3) none) = some request ∧ ∀ m s c,
      (envelope? parseHyphenated (envelopeJson ⟨s, c, request⟩)).map (routeCommand m) =
        some (.routeToMap m s c (.castSkill (-3) none)) :=
  ⟨rfl, (same_command parseHyphenated_format (.castSkill (-3) none)).2 rfl⟩

end HelbreathBackend.WireFormat
