import ArrasNode.Router.UuidMap

/-! Per-session routing data and the router's table of it (`SessionNodeMap`,
`SessionRoutingData`, `RoutingTable`). The JSON routing object is taken already parsed into the
list of its `nodes` entries. A `SessionRoutingData` is shared through `shared_ptr`/`weak_ptr`;
records live in a store, and a record expires once its last strong owner lets go, which the
table itself does not decide. -/
namespace Arras4.Node

structure NodeInfo where
  nodeId : Uuid
  hostname : String
  ip : String
  port : Nat
deriving DecidableEq, Repr

/-- One member of the routing object's `nodes` section: its key and fields, `entry` only when it
is a JSON boolean. -/
structure NodeEntry where
  nodeId : Uuid
  host : String
  ip : String
  tcp : Nat
  entry : Option Bool
deriving DecidableEq, Repr

/-- `KeyError` thrown by `SessionNodeMap::getNodeInfo`:
"Failed to find node id <id> in SessionNodeMap". -/
structure KeyError where
  nodeId : Uuid
deriving DecidableEq, Repr

/-- `SessionNodeMap`: the entry node and the host information of every node of a session. -/
structure SessionNodeMap where
  entryNodeId : Uuid
  map : UuidMap NodeInfo

namespace SessionNodeMap

def NodeEntry.info (entry : NodeEntry) : NodeInfo :=
  ⟨entry.nodeId, entry.host, entry.ip, entry.tcp % 65536⟩

/-- The constructor's loop over `nodes`: the last member marked `"entry": true` is the entry
node; a map without one keeps the null id. -/
def create (nodes : List NodeEntry) : SessionNodeMap :=
  nodes.foldl (fun nodeMap entry =>
    { map := nodeMap.map.insert entry.nodeId (NodeEntry.info entry)
      entryNodeId := if entry.entry = some true then entry.nodeId else nodeMap.entryNodeId })
    ⟨Uuid.null, []⟩

/-- `SessionNodeMap::update`: adds nodes not yet present, never changes the entry node. -/
def update (nodeMap : SessionNodeMap) (nodes : List NodeEntry) : SessionNodeMap :=
  { nodeMap with
    map := nodes.foldl (fun map entry => map.insertNew entry.nodeId (NodeEntry.info entry))
      nodeMap.map }

def getEntryNodeId (nodeMap : SessionNodeMap) : Uuid := nodeMap.entryNodeId

/-- `SessionNodeMap::getNodeInfo`, which throws for an unknown node. -/
def getNodeInfo (nodeMap : SessionNodeMap) (nodeId : Uuid) : Except KeyError NodeInfo :=
  match nodeMap.map.find nodeId with
  | some info => .ok info
  | none => .error ⟨nodeId⟩

def findNodeInfo (nodeMap : SessionNodeMap) (nodeId : Uuid) : Option NodeInfo :=
  nodeMap.map.find nodeId

def Contains (nodeMap : SessionNodeMap) (nodeId : Uuid) : Prop :=
  (nodeMap.map.find nodeId).isSome

instance (nodeMap : SessionNodeMap) (nodeId : Uuid) : Decidable (nodeMap.Contains nodeId) :=
  inferInstanceAs (Decidable (_ = true))

theorem getNodeInfo_of_contains {nodeMap : SessionNodeMap} {nodeId : Uuid}
    (contains : nodeMap.Contains nodeId) : ∃ info, nodeMap.getNodeInfo nodeId = .ok info := by
  unfold Contains at contains
  unfold getNodeInfo
  cases found : nodeMap.map.find nodeId with
  | none => simp [found] at contains
  | some info => exact ⟨info, rfl⟩

@[simp] theorem update_entryNodeId (nodeMap : SessionNodeMap) (nodes : List NodeEntry) :
    (nodeMap.update nodes).entryNodeId = nodeMap.entryNodeId := rfl

end SessionNodeMap

/-- `SessionRoutingData`, with whether `mClientAddresser` exists: the constructor builds it exactly on
the entry node. Its rules are not modelled. -/
structure SessionRoutingData where
  sessionId : Uuid
  nodeId : Uuid
  nodeMap : SessionNodeMap
  clientAddresser : Bool
  addresser_on_entry : clientAddresser = decide (nodeId = nodeMap.entryNodeId)

namespace SessionRoutingData

def create (sessionId nodeId : Uuid) (nodes : List NodeEntry) : SessionRoutingData :=
  let nodeMap := SessionNodeMap.create nodes
  ⟨sessionId, nodeId, nodeMap, decide (nodeId = nodeMap.entryNodeId), rfl⟩

def updateNodeMap (data : SessionRoutingData) (nodes : List NodeEntry) : SessionRoutingData :=
  ⟨data.sessionId, data.nodeId, data.nodeMap.update nodes, data.clientAddresser,
    data.addresser_on_entry⟩

def isEntryNode (data : SessionRoutingData) : Bool := data.clientAddresser

theorem isEntryNode_eq_decide (data : SessionRoutingData) :
    data.isEntryNode = decide (data.nodeId = data.nodeMap.getEntryNodeId) := by
  simp [isEntryNode, data.addresser_on_entry, SessionNodeMap.getEntryNodeId]

end SessionRoutingData

/-- A routing-data record and whether it has expired (no `shared_ptr` owns it any more). -/
structure RoutingRecord where
  data : SessionRoutingData
  expired : Bool

/-- `RoutingTable`: the record store, `mRoutingDataWeak` and `mRoutingData`, the last two
mapping a session id to a record number. -/
structure RoutingTable where
  records : List RoutingRecord
  weak : UuidMap Nat
  strong : UuidMap Nat

namespace RoutingTable

def empty : RoutingTable := ⟨[], [], []⟩

def lock (table : RoutingTable) (record : Nat) : Option SessionRoutingData :=
  match table.records[record]? with
  | some r => if r.expired then none else some r.data
  | none => none

def sessionRoutingData (table : RoutingTable) (sessionId : Uuid) : Option SessionRoutingData :=
  (table.weak.find sessionId).bind table.lock

/-- `RoutingTable::addSessionRoutingData`: both maps use `insert`, which keeps an existing entry. -/
def addSessionRoutingData (table : RoutingTable) (sessionId : Uuid) (data : SessionRoutingData) :
    RoutingTable :=
  let record := table.records.length
  { records := table.records ++ [⟨data, false⟩]
    weak := table.weak.insertNew sessionId record
    strong := table.strong.insertNew sessionId record }

def releaseSessionRoutingData (table : RoutingTable) (sessionId : Uuid) : RoutingTable :=
  { table with strong := table.strong.erase sessionId }

def deleteSessionRoutingData (table : RoutingTable) (sessionId : Uuid) : RoutingTable :=
  { table with strong := table.strong.erase sessionId, weak := table.weak.erase sessionId }

/-- `RoutingTable::findNodeInfo`: the first live session, in session-id order, whose node map
knows the node. -/
def findNodeInfo (table : RoutingTable) (nodeId : Uuid) : Option NodeInfo :=
  table.weak.findSome? fun entry => (table.lock entry.2).bind (·.nodeMap.findNodeInfo nodeId)

end RoutingTable

end Arras4.Node
