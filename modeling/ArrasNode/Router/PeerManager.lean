import ArrasNode.Router.RoutingData

/-! The router state shared by its threads (`ThreadedNodeRouter`, `PeerManager`) and the
operations on it, each one step under the lock the source takes. Endpoint objects are numbered
in creation order; a table holds the number, as the source holds a `shared_ptr`. The send queue
of an endpoint is the list of every envelope pushed on it. Listener tables are left out: nothing
outside `PeerManager` tracks a listener. -/
namespace Arras4.Node

inductive PeerType
  | none | client | node | ipc | listener | service
deriving DecidableEq, Repr

/-- The parts of a `RemoteEndpoint` the router's shared state reads and writes; `queue` is every
envelope pushed on `mMessageQueue`, oldest first. -/
structure RemoteEndpoint where
  peerType : PeerType
  uuid : Uuid
  sessionId : Uuid
  queue : List Envelope
  flaggedForDestruction : Bool
deriving Repr

/-- `PeerManager`: clients by session id, nodes by node id, computations by computation id, and
the envelopes stashed for clients that have not connected. -/
structure PeerManager where
  clients : UuidMap Nat
  nodes : UuidMap Nat
  ipc : UuidMap Nat
  pendingEnvelopes : UuidMap (List Envelope)

/-- What routing logs as an error instead of delivering: no IPC endpoint for a local
computation. -/
inductive RouteError
  | computationNotFound (sessionId computationId : Uuid)
deriving DecidableEq, Repr

/-- The state `ThreadedNodeRouter` shares between the router's threads. -/
structure ThreadedNodeRouter where
  nodeId : Uuid
  routingTable : RoutingTable
  peerManager : PeerManager
  endpoints : List RemoteEndpoint
  endpointsToDelete : List Nat
  errors : List RouteError

namespace ThreadedNodeRouter

variable (router : ThreadedNodeRouter)

def init (nodeId : Uuid) : ThreadedNodeRouter :=
  ⟨nodeId, RoutingTable.empty, ⟨[], [], [], []⟩, [], [], []⟩

/-- The send queue of an endpoint; empty for a number no endpoint has. -/
def queueOf (endpoint : Nat) : List Envelope :=
  (router.endpoints[endpoint]?.map RemoteEndpoint.queue).getD []

/-- Constructing a `RemoteEndpoint`: the new object gets the next number. -/
def newEndpoint (peerType : PeerType) (uuid sessionId : Uuid) :
    ThreadedNodeRouter × Nat :=
  ({ router with endpoints := router.endpoints ++ [⟨peerType, uuid, sessionId, [], false⟩] },
    router.endpoints.length)

def queueEnvelope (endpoint : Nat) (envelope : Envelope) : ThreadedNodeRouter :=
  { router with
    endpoints := router.endpoints.modify
      (fun ep => { ep with queue := ep.queue ++ [envelope] }) endpoint }

def findClientPeer (sessionId : Uuid) : Option Nat :=
  router.peerManager.clients.find sessionId

def findNodePeer (nodeId : Uuid) : Option Nat :=
  router.peerManager.nodes.find nodeId

def findIpcPeer (computationId : Uuid) : Option Nat :=
  router.peerManager.ipc.find computationId

def findNodeInfo (nodeId : Uuid) : Option NodeInfo :=
  router.routingTable.findNodeInfo nodeId

def sessionRoutingData (sessionId : Uuid) : Option SessionRoutingData :=
  router.routingTable.sessionRoutingData sessionId

/-- `ThreadedNodeRouter::addSessionRoutingData`: routing data for this node, built from the
routing object's nodes. -/
def addSessionRoutingData (sessionId : Uuid) (nodes : List NodeEntry) : ThreadedNodeRouter :=
  let data := SessionRoutingData.create sessionId router.nodeId nodes
  { router with routingTable := router.routingTable.addSessionRoutingData sessionId data }

/-- `NodeRouter::putSessionRoutingData`: keeps the routing data the router already holds for
the session. -/
def putSessionRoutingData (sessionId : Uuid) (nodes : List NodeEntry) : ThreadedNodeRouter :=
  match router.sessionRoutingData sessionId with
  | some _ => router
  | none => router.addSessionRoutingData sessionId nodes

def deleteSessionRoutingData (sessionId : Uuid) : ThreadedNodeRouter :=
  { router with routingTable := router.routingTable.deleteSessionRoutingData sessionId }

def trackNode (nodeId : Uuid) (endpoint : Nat) : ThreadedNodeRouter :=
  { router with peerManager := { router.peerManager with
      nodes := router.peerManager.nodes.insert nodeId endpoint } }

def trackIpc (computationId : Uuid) (endpoint : Nat) : ThreadedNodeRouter :=
  { router with peerManager := { router.peerManager with
      ipc := router.peerManager.ipc.insert computationId endpoint } }

/-- `PeerManager::trackClient`: tracks the client, then copies every envelope stashed for its
session into its queue. The stash itself is left in place (`operator[]` creates it empty). -/
def trackClient (sessionId : Uuid) (endpoint : Nat) : ThreadedNodeRouter :=
  let msgs := (router.peerManager.pendingEnvelopes.find sessionId).getD []
  let tracked : ThreadedNodeRouter := { router with peerManager := { router.peerManager with
    clients := router.peerManager.clients.insert sessionId endpoint
    pendingEnvelopes := router.peerManager.pendingEnvelopes.insertNew sessionId [] } }
  msgs.foldl (fun r msg => r.queueEnvelope endpoint msg) tracked

/-- `PeerManager::stashEnvelope`: checks again for the client under the lock, and either queues
to it or stashes. -/
def stashEnvelope (sessionId : Uuid) (envelope : Envelope) : ThreadedNodeRouter :=
  match router.findClientPeer sessionId with
  | some client => router.queueEnvelope client envelope
  | none => { router with peerManager := { router.peerManager with
      pendingEnvelopes := router.peerManager.pendingEnvelopes.push sessionId envelope } }

def clearStashedEnvelopes (sessionId : Uuid) : ThreadedNodeRouter :=
  { router with peerManager := { router.peerManager with
      pendingEnvelopes := router.peerManager.pendingEnvelopes.erase sessionId } }

/-- What `PeerManager` holds stashed for a session's client. -/
def stashed (sessionId : Uuid) : List Envelope :=
  (router.peerManager.pendingEnvelopes.find sessionId).getD []

/-- Every tracked peer is an endpoint object that exists, as a tracked `shared_ptr` always is; one
endpoint is the peer of one node, and a node peer is neither a client nor an IPC endpoint. -/
structure Valid : Prop where
  clients : ∀ k endpoint, router.findClientPeer k = some endpoint → endpoint < router.endpoints.length
  nodes : ∀ k endpoint, router.findNodePeer k = some endpoint → endpoint < router.endpoints.length
  ipc : ∀ k endpoint, router.findIpcPeer k = some endpoint → endpoint < router.endpoints.length
  nodesDistinct : ∀ k k' endpoint, router.findNodePeer k = some endpoint →
    router.findNodePeer k' = some endpoint → k = k'
  clientsNotNodes : ∀ k k' endpoint, router.findClientPeer k = some endpoint →
    router.findNodePeer k' ≠ some endpoint
  ipcNotNodes : ∀ k k' endpoint, router.findIpcPeer k = some endpoint →
    router.findNodePeer k' ≠ some endpoint

section Lemmas

variable {router}

theorem init_valid (nodeId : Uuid) : (init nodeId).Valid :=
  ⟨by simp [init, findClientPeer], by simp [init, findNodePeer], by simp [init, findIpcPeer],
    by simp [init, findNodePeer], by simp [init, findNodePeer], by simp [init, findNodePeer]⟩

theorem Valid.of_peers {router' : ThreadedNodeRouter} (valid : router.Valid)
    (peers : router'.peerManager = router.peerManager)
    (length : router'.endpoints.length = router.endpoints.length) : router'.Valid := by
  have client : router'.findClientPeer = router.findClientPeer := by
    funext k
    simp [findClientPeer, peers]
  have node : router'.findNodePeer = router.findNodePeer := by
    funext k
    simp [findNodePeer, peers]
  have ipc : router'.findIpcPeer = router.findIpcPeer := by
    funext k
    simp [findIpcPeer, peers]
  refine ⟨fun k h found => ?_, fun k h found => ?_, fun k h found => ?_, ?_, ?_, ?_⟩
  · exact length ▸ valid.clients k h (client ▸ found)
  · exact length ▸ valid.nodes k h (node ▸ found)
  · exact length ▸ valid.ipc k h (ipc ▸ found)
  · exact node ▸ valid.nodesDistinct
  · exact client ▸ node ▸ valid.clientsNotNodes
  · exact ipc ▸ node ▸ valid.ipcNotNodes

@[simp] theorem queueEnvelope_peerManager (endpoint : Nat) (envelope : Envelope) :
    (router.queueEnvelope endpoint envelope).peerManager = router.peerManager := rfl

@[simp] theorem queueEnvelope_nodeId (endpoint : Nat) (envelope : Envelope) :
    (router.queueEnvelope endpoint envelope).nodeId = router.nodeId := rfl

@[simp] theorem queueEnvelope_routingTable (endpoint : Nat) (envelope : Envelope) :
    (router.queueEnvelope endpoint envelope).routingTable = router.routingTable := rfl

@[simp] theorem queueEnvelope_errors (endpoint : Nat) (envelope : Envelope) :
    (router.queueEnvelope endpoint envelope).errors = router.errors := rfl

@[simp] theorem queueEnvelope_length (endpoint : Nat) (envelope : Envelope) :
    (router.queueEnvelope endpoint envelope).endpoints.length = router.endpoints.length := by
  simp [queueEnvelope]

@[simp] theorem queueEnvelope_findNodePeer (endpoint : Nat) (envelope : Envelope) :
    (router.queueEnvelope endpoint envelope).findNodePeer = router.findNodePeer := rfl

@[simp] theorem newEndpoint_findNodePeer (peerType : PeerType) (uuid sessionId : Uuid) :
    (router.newEndpoint peerType uuid sessionId).1.findNodePeer = router.findNodePeer := rfl

theorem queueOf_queueEnvelope (endpoint : Nat) (envelope : Envelope) (h : Nat) :
    (router.queueEnvelope endpoint envelope).queueOf h =
      router.queueOf h ++ if h = endpoint ∧ endpoint < router.endpoints.length then [envelope] else [] := by
  unfold queueOf queueEnvelope
  by_cases same : h = endpoint
  · subst same
    by_cases bound : h < router.endpoints.length
    · simp [List.getElem?_eq_getElem bound, bound]
    · simp [List.getElem?_eq_none (Nat.le_of_not_lt bound), bound]
  · simp [List.getElem?_modify_ne _ _ (Ne.symm same), same]

theorem queueOf_of_le {h : Nat} (low : router.endpoints.length ≤ h) : router.queueOf h = [] := by
  simp [queueOf, List.getElem?_eq_none low]

theorem queueOf_queueEnvelope_of_lt {endpoint : Nat} (bound : endpoint < router.endpoints.length)
    (envelope : Envelope) (h : Nat) :
    (router.queueEnvelope endpoint envelope).queueOf h =
      router.queueOf h ++ if h = endpoint then [envelope] else [] := by
  simp [queueOf_queueEnvelope, bound]

@[simp] theorem newEndpoint_peerManager (peerType : PeerType) (uuid sessionId : Uuid) :
    (router.newEndpoint peerType uuid sessionId).1.peerManager = router.peerManager := rfl

@[simp] theorem newEndpoint_errors (peerType : PeerType) (uuid sessionId : Uuid) :
    (router.newEndpoint peerType uuid sessionId).1.errors = router.errors := rfl

@[simp] theorem newEndpoint_id (peerType : PeerType) (uuid sessionId : Uuid) :
    (router.newEndpoint peerType uuid sessionId).2 = router.endpoints.length := rfl

@[simp] theorem newEndpoint_length (peerType : PeerType) (uuid sessionId : Uuid) :
    (router.newEndpoint peerType uuid sessionId).1.endpoints.length = router.endpoints.length + 1 := by
  simp [newEndpoint]

theorem queueOf_newEndpoint (peerType : PeerType) (uuid sessionId : Uuid) (h : Nat) :
    (router.newEndpoint peerType uuid sessionId).1.queueOf h =
      if h = router.endpoints.length then [] else router.queueOf h := by
  unfold queueOf newEndpoint
  rcases Nat.lt_trichotomy h router.endpoints.length with below | same | above
  · simp [List.getElem?_append_left below, Nat.ne_of_lt below]
  · subst same
    simp
  · have beyond : (router.endpoints ++ [(⟨peerType, uuid, sessionId, [], false⟩ : RemoteEndpoint)]).length ≤ h := by
      simp only [List.length_append, List.length_singleton]
      omega
    simp [List.getElem?_eq_none (Nat.le_of_lt above), Nat.ne_of_gt above, List.getElem?_eq_none beyond]

@[simp] theorem trackNode_endpoints (nodeId : Uuid) (endpoint : Nat) :
    (router.trackNode nodeId endpoint).endpoints = router.endpoints := rfl

@[simp] theorem trackNode_errors (nodeId : Uuid) (endpoint : Nat) :
    (router.trackNode nodeId endpoint).errors = router.errors := rfl

theorem queueOf_trackNode (nodeId : Uuid) (endpoint : Nat) :
    (router.trackNode nodeId endpoint).queueOf = router.queueOf := rfl

theorem findNodePeer_trackNode (nodeId : Uuid) (endpoint : Nat) (k : Uuid) :
    (router.trackNode nodeId endpoint).findNodePeer k =
      if k = nodeId then some endpoint else router.findNodePeer k := by
  simp [trackNode, findNodePeer]

end Lemmas

end ThreadedNodeRouter

/-- `PeerManager::eraseIfFound`: drops the first entry holding the endpoint, returning its key. -/
def PeerManager.eraseIfFound : UuidMap Nat → Nat → Option (Uuid × UuidMap Nat)
  | [], _ => none
  | (k, v) :: rest, needle =>
    if v = needle then some (k, rest)
    else (eraseIfFound rest needle).map fun (key, rest') => (key, (k, v) :: rest')

namespace ThreadedNodeRouter

variable (router : ThreadedNodeRouter)

/-- `PeerManager::destroyPeer`: untracks the endpoint from the first table holding it. -/
def untrackPeer (endpoint : Nat) : ThreadedNodeRouter × PeerType :=
  let pm := router.peerManager
  match PeerManager.eraseIfFound pm.clients endpoint with
  | some (_, clients) => ({ router with peerManager := { pm with clients := clients } }, .client)
  | none =>
    match PeerManager.eraseIfFound pm.nodes endpoint with
    | some (_, nodes) => ({ router with peerManager := { pm with nodes := nodes } }, .node)
    | none =>
      match PeerManager.eraseIfFound pm.ipc endpoint with
      | some (_, ipc) => ({ router with peerManager := { pm with ipc := ipc } }, .ipc)
      | none => (router, .none)

/-- `RemoteEndpoint::flagForDestruction`: queues the endpoint for the next sweep, once. -/
def flagForDestruction (endpoint : Nat) : ThreadedNodeRouter :=
  match router.endpoints[endpoint]? with
  | some ep =>
    if ep.flaggedForDestruction then router
    else { router with
      endpoints := router.endpoints.set endpoint { ep with flaggedForDestruction := true }
      endpointsToDelete := router.endpointsToDelete ++ [endpoint] }
  | none => router

/-- `ThreadedNodeRouter::destroyEndpoints`: untracks every endpoint queued for destruction. -/
def destroyEndpoints : ThreadedNodeRouter :=
  (router.endpointsToDelete.foldl (fun r endpoint => (r.untrackPeer endpoint).1) router) |>
    fun r => { r with endpointsToDelete := [] }

end ThreadedNodeRouter

end Arras4.Node
