import HelbreathBackend.Application
import HelbreathBackend.Lib.FiniteMap

/-!
The world coordinator: one task that owns the routing table of the maps and the counters of
the players on them, and handles one message at a time.

A sender is the identifier of the channel it belongs to. Handling a message changes the
coordinator and may send: a command into the channel of a map, or the statistics to whoever
asked for them.
-/

namespace HelbreathBackend.World

open HelbreathBackend.Lib HelbreathBackend.Domain HelbreathBackend.Application

abbrev ChannelId := ℕ
abbrev ReplyId := ℕ

structure RoutedCommand where
  sessionId : SessionId
  characterId : Option CharacterId
  command : ClientCommand
  deriving DecidableEq

inductive WorldMessage
  | registerMap (mapId : MapId) (tx : ChannelId)
  | unregisterMap (mapId : MapId)
  | routeToMap (mapId : MapId) (sessionId : SessionId) (characterId : Option CharacterId)
      (command : ClientCommand)
  | broadcast (message : String)
  | getStats (reply : ReplyId)
  deriving DecidableEq

/-- The vector of the source lists the entries of a hash map; what it says is the map. -/
structure WorldStats where
  onlinePlayers : ℕ
  playersByMap : FMap MapId ℕ

/-- The counters are `u64`. -/
def u64Max : ℕ := 2 ^ 64 - 1

structure WorldCoordinator where
  mapSenders : FMap MapId ChannelId
  playersByMap : FMap MapId ℕ
  sessionMap : FMap SessionId MapId

def WorldCoordinator.new : WorldCoordinator := ⟨∅, ∅, ∅⟩

/-- What handling a message sends. -/
inductive Effect
  | forward (tx : ChannelId) (cmd : RoutedCommand)
  | reply (replyTo : ReplyId) (stats : WorldStats)

namespace WorldCoordinator

variable (c : WorldCoordinator)

/-- `entry(map).or_insert(0)`, then `saturating_sub(1)`. -/
def decrement (mapId : MapId) : WorldCoordinator :=
  { c with playersByMap := c.playersByMap.insert mapId (FMap.count c.playersByMap mapId - 1) }

/-- `entry(map).or_insert(0)`, then `saturating_add(1)`. -/
def increment (mapId : MapId) : WorldCoordinator :=
  { c with
    playersByMap :=
      c.playersByMap.insert mapId (min (FMap.count c.playersByMap mapId + 1) u64Max) }

def registerMap (mapId : MapId) (tx : ChannelId) : WorldCoordinator :=
  { c with
    mapSenders := c.mapSenders.insert mapId tx
    playersByMap := c.playersByMap.insert mapId (FMap.count c.playersByMap mapId) }

def unregisterMap (mapId : MapId) : WorldCoordinator where
  mapSenders := c.mapSenders.erase mapId
  playersByMap := c.playersByMap.erase mapId
  sessionMap := FMap.retain (fun _ currentMap => currentMap != mapId) c.sessionMap

/-- The bookkeeping of `RouteToMap`, before the command is forwarded. -/
def track (mapId : MapId) (sessionId : SessionId) : ClientCommand → WorldCoordinator
  | .enterWorld =>
    let prev := c.sessionMap.lookup sessionId
    let c := { c with sessionMap := c.sessionMap.insert sessionId mapId }
    if prev = some mapId then c
    else
      match prev with
      | some prevMap => (c.decrement prevMap).increment mapId
      | none => c.increment mapId
  | .logout =>
    let map := (c.sessionMap.lookup sessionId).getD mapId
    { c with sessionMap := c.sessionMap.erase sessionId }.decrement map
  | _ => c

def getStats : WorldStats where
  onlinePlayers := FMap.total c.playersByMap % (u64Max + 1)
  playersByMap := c.playersByMap

/-- One round of the loop of `WorldCoordinator::run`. -/
def handle : WorldMessage → WorldCoordinator × Option Effect
  | .registerMap mapId tx => (c.registerMap mapId tx, none)
  | .unregisterMap mapId => (c.unregisterMap mapId, none)
  | .routeToMap mapId sessionId characterId command =>
    let c := c.track mapId sessionId command
    (c, (c.mapSenders.lookup mapId).map fun tx => .forward tx ⟨sessionId, characterId, command⟩)
  | .broadcast _ => (c, none)
  | .getStats reply => (c, some (.reply reply c.getStats))

def next (msg : WorldMessage) : WorldCoordinator := (c.handle msg).1

/-- The coordinator after a sequence of messages. -/
def run (msgs : List WorldMessage) : WorldCoordinator := msgs.foldl next new

/-! ### What a message does to each table -/

lemma count_decrement (m x : MapId) :
    FMap.count (c.decrement m).playersByMap x =
      FMap.count c.playersByMap x - if x = m then 1 else 0 := by
  rw [decrement, FMap.count_insert]
  split
  · next h => subst h; rfl
  · rfl

lemma count_increment (m x : MapId) :
    FMap.count (c.increment m).playersByMap x =
      if x = m then min (FMap.count c.playersByMap m + 1) u64Max
      else FMap.count c.playersByMap x := by
  rw [increment, FMap.count_insert]

lemma count_registerMap (m x : MapId) (tx : ChannelId) :
    FMap.count (c.registerMap m tx).playersByMap x = FMap.count c.playersByMap x := by
  rw [registerMap, FMap.count_insert]
  split
  · next h => rw [h]
  · rfl

lemma track_mapSenders (m : MapId) (s : SessionId) (cmd : ClientCommand) :
    (c.track m s cmd).mapSenders = c.mapSenders := by
  cases cmd
  case enterWorld =>
    simp only [track]
    split
    · rfl
    · split <;> rfl
  all_goals rfl

/-- Where a session is tracked after a routed command. -/
lemma track_sessionMap (m : MapId) (s : SessionId) (cmd : ClientCommand) :
    (c.track m s cmd).sessionMap =
      match cmd with
      | .enterWorld => c.sessionMap.insert s m
      | .logout => c.sessionMap.erase s
      | _ => c.sessionMap := by
  cases cmd
  case enterWorld =>
    simp only [track]
    split
    · rfl
    · split <;> rfl
  all_goals rfl

/-- The sender of a map after a message, given the one before. -/
def senderAfter (msg : WorldMessage) (x : MapId) (old : Option ChannelId) : Option ChannelId :=
  match msg with
  | .registerMap m tx => if x = m then some tx else old
  | .unregisterMap m => if x = m then none else old
  | _ => old

lemma next_mapSenders (msg : WorldMessage) (x : MapId) :
    (c.next msg).mapSenders.lookup x = senderAfter msg x (c.mapSenders.lookup x) := by
  cases msg with
  | registerMap m tx => exact FMap.lookup_insert_eq _ _ _ _
  | unregisterMap m => exact FMap.lookup_erase_eq _ _ _
  | routeToMap m s cid cmd => exact congrArg (·.lookup x) (c.track_mapSenders m s cmd)
  | broadcast message => rfl
  | getStats reply => rfl

end WorldCoordinator

end HelbreathBackend.World
