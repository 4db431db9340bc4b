import ArrasNode.Router.Activity

/-! Two nodes connecting to each other: the node connect filter (NodeRouter.cc),
`sendThreadWithConnect` and `setPeer` (RemoteEndpoint.cc). Each node is a `RouterActivity` with,
for each endpoint, `mPeer` and the progress of its send thread. The connect filter holds
`mNodeConnectionMutex` throughout, so it is one step. -/
namespace Arras4.Node

/-- What is written on a socket: the dialling node's registration record, then envelopes. -/
inductive Frame
  | registration (nodeId : Uuid)
  | envelope (envelope : Envelope)
deriving DecidableEq, Repr

inductive Side
  | first
  | second
deriving DecidableEq, Repr

def Side.other : Side → Side
  | .first => .second
  | .second => .first

/-- A connection one node dialled to the other: whether `connect` and the registration send
succeeded, everything written on it by either end (oldest first), and whether the other node's
listen server has accepted it without its connect filters having handled it yet. -/
structure Socket where
  dialer : Side
  connected : Bool
  frames : List Frame
  pending : Bool
deriving DecidableEq, Repr

/-- An endpoint's `mPeer` by socket number, whether its send thread is still dialling in
`sendThreadWithConnect`, and how many of its queued envelopes it has written. -/
structure Link where
  peer : Option Nat
  dialing : Bool
  sent : Nat
deriving DecidableEq, Repr

/-- One node: its router with `routeMessage`'s endpoint not yet tracked, and the link of each of
its endpoints, by number. -/
structure NodeSide where
  activity : RouterActivity
  links : List Link

namespace NodeSide

variable (node : NodeSide)

abbrev router : ThreadedNodeRouter := node.activity.router

def withRouter (router : ThreadedNodeRouter) : NodeSide :=
  { node with activity := { node.activity with router := router } }

/-- `routeMessage` finds no endpoint for `remote` under `mNodeConnectionMutex` and calls
`createNodeRemoteEndpoint`. Routing gets here only for a session whose node map has the node, so
the router's table has its info. -/
def createNodeRemoteEndpoint (remote : Uuid) : Option NodeSide :=
  if (node.router.findNodeInfo remote).isSome then
    (node.activity.step (.createNodeRemoteEndpoint remote)).map fun activity =>
      ⟨activity, node.links ++ [⟨none, true, 0⟩]⟩
  else none

/-- `mUUID < mThreadedNodeRouter.mNodeId` in `sendThreadWithConnect`: endpoint `h` is for a node
with a lesser id, so this node keeps the socket it dials. -/
def isHigher (h : Nat) : Bool :=
  match node.router.endpoints[h]? with
  | some ep => decide (ep.uuid < node.router.nodeId)
  | none => false

/-- A node endpoint for `remote` that the connect filter constructs and tracks. -/
def trackNew (remote : Uuid) (link : Link) : NodeSide :=
  let (created, ep) := node.router.newEndpoint .node remote Uuid.null
  ⟨{ node.activity with router := created.trackNode remote ep }, node.links ++ [link]⟩

/-- `RemoteEndpoint::setPeer`: a node endpoint takes the socket as `mPeer`. -/
def setPeer (endpoint socket : Nat) : NodeSide :=
  match node.router.endpoints[endpoint]? with
  | some ep =>
    if ep.peerType = .node then
      { node with links := node.links.modify (fun link => { link with peer := some socket }) endpoint }
    else node
  | none => node

/-- The node connect filter for a connection whose registration record names node `r`. With no
endpoint for `r`: from a lesser node, refuse and dial back (only when some session's node map has
`r`; otherwise the connection is dropped as unexpected); from a greater node, a new endpoint with
the socket as its peer. With an endpoint: from a lesser node, refuse; from a greater node,
`setPeer`. -/
def nodeConnectFilter (socket : Nat) (r : Uuid) : NodeSide :=
  match node.router.findNodePeer r with
  | none =>
    if r < node.router.nodeId then
      match node.router.findNodeInfo r with
      | some _ => node.trackNew r ⟨none, true, 0⟩
      | none => node
    else node.trackNew r ⟨some socket, false, 0⟩
  | some endpoint => if r < node.router.nodeId then node else node.setPeer endpoint socket

end NodeSide

/-- The two nodes and the sockets between them, by number. -/
structure NodePair where
  first : NodeSide
  second : NodeSide
  sockets : List Socket

/-- One step of one node's threads: `routeMessage` to the other node creating its endpoint,
tracking it, or queueing an envelope on it; a send thread dialling, writing its next envelope on
`mPeer`, or losing its socket; the accept thread running the connect filters; a `SessionRoutingData`
Initialize or Delete. -/
inductive NodeAction
  | createNodeRemoteEndpoint
  | trackNode
  | queueEnvelope (envelope : Envelope)
  | connect (endpoint : Nat) (connected : Bool)
  | send (endpoint : Nat)
  | disconnect (endpoint : Nat)
  | accept (socket : Nat)
  | destroyEndpoints
  | putSessionRoutingData (sessionId : Uuid) (nodes : List NodeEntry)
  | deleteSessionRoutingData (sessionId : Uuid)
deriving DecidableEq, Repr

namespace NodePair

variable (pair : NodePair)

def node : Side → NodeSide
  | .first => pair.first
  | .second => pair.second

def update : Side → NodeSide → List Socket → NodePair
  | .first, node, sockets => ⟨node, pair.second, sockets⟩
  | .second, node, sockets => ⟨pair.first, node, sockets⟩

def init (a b : Uuid) : NodePair := ⟨⟨RouterActivity.init a, []⟩, ⟨RouterActivity.init b, []⟩, []⟩

/-- The send thread of endpoint `h` of node `n` in `sendThreadWithConnect`: a new socket, carrying
the registration record when `connect` and the send succeed; on failure the endpoint flags
itself. When the endpoint's node id is below this node's (`mUUID < mNodeId`) the socket becomes
`mPeer`; otherwise the thread goes on waiting for `setPeer`. -/
def connect (n : Side) (h : Nat) (connected : Bool) : NodePair :=
  let node := pair.node n
  let socket := pair.sockets.length
  let router := if connected then node.router else node.router.flagForDestruction h
  let links := node.links.modify (fun link =>
    { link with dialing := false, peer := if node.isHigher h then some socket else link.peer }) h
  pair.update n { node.withRouter router with links := links }
    (pair.sockets ++ [if connected then ⟨n, true, [.registration node.router.nodeId], true⟩
      else ⟨n, false, [], false⟩])

/-- The send thread of endpoint `h` of node `n` writes its next queued envelope on `mPeer`. A
write on a socket that never connected throws, and the thread disconnects instead. -/
def send (n : Side) (h : Nat) : Option NodePair :=
  let node := pair.node n
  match node.links[h]? with
  | some ⟨some s, false, sent⟩ =>
    match (node.router.queueOf h)[sent]?, pair.sockets[s]? with
    | some envelope, some socket =>
      if socket.connected then
        some (pair.update n { node with links := node.links.set h ⟨some s, false, sent + 1⟩ }
          (pair.sockets.set s { socket with frames := socket.frames ++ [.envelope envelope] }))
      else none
    | _, _ => none
  | _ => none

/-- The accept thread of node `n` takes socket `s`, dialled by the other node, under
`mNodeConnectionMutex`, and reads its registration record; a connection without one is dropped. -/
def accept (n : Side) (s : Nat) : Option NodePair :=
  let node := pair.node n
  match pair.sockets[s]? with
  | some socket =>
    if socket.pending ∧ socket.dialer = n.other ∧ node.activity.creating = none then
      let sockets := pair.sockets.set s { socket with pending := false }
      match socket.frames with
      | .registration r :: _ => some (pair.update n (node.nodeConnectFilter s r) sockets)
      | _ => some (pair.update n node sockets)
    else none
  | none => none

def step (n : Side) : NodeAction → Option NodePair
  | .createNodeRemoteEndpoint =>
    ((pair.node n).createNodeRemoteEndpoint (pair.node n.other).router.nodeId).map
      fun node => pair.update n node pair.sockets
  | .trackNode =>
    ((pair.node n).activity.step .trackNode).map
      fun activity => pair.update n { pair.node n with activity := activity } pair.sockets
  | .queueEnvelope envelope =>
    ((pair.node n).router.findNodePeer (pair.node n.other).router.nodeId).map fun h =>
      pair.update n ((pair.node n).withRouter ((pair.node n).router.queueEnvelope h envelope))
        pair.sockets
  | .connect h connected =>
    match (pair.node n).links[h]? with
    | some link => if link.dialing then some (pair.connect n h connected) else none
    | none => none
  | .send h => pair.send n h
  | .disconnect h =>
    match (pair.node n).links[h]? with
    | some ⟨some _, false, _⟩ =>
      some (pair.update n ((pair.node n).withRouter ((pair.node n).router.flagForDestruction h))
        pair.sockets)
    | _ => none
  | .accept s => pair.accept n s
  | .destroyEndpoints =>
    some (pair.update n ((pair.node n).withRouter (pair.node n).router.destroyEndpoints) pair.sockets)
  | .putSessionRoutingData sessionId nodes =>
    some (pair.update n ((pair.node n).withRouter
      ((pair.node n).router.putSessionRoutingData sessionId nodes)) pair.sockets)
  | .deleteSessionRoutingData sessionId =>
    some (pair.update n ((pair.node n).withRouter
      ((pair.node n).router.deleteSessionRoutingData sessionId)) pair.sockets)

def run : NodePair → List (Side × NodeAction) → Option NodePair
  | pair, [] => some pair
  | pair, (n, action) :: rest => (pair.step n action).bind (run · rest)

inductive Reachable (a b : Uuid) : NodePair → Prop
  | init : Reachable a b (init a b)
  | step {pair next : NodePair} {n : Side} {action : NodeAction} :
    Reachable a b pair → pair.step n action = some next → Reachable a b next

end NodePair

namespace Side

@[simp] theorem other_other (n : Side) : n.other.other = n := by cases n <;> rfl

@[simp] theorem other_ne (n : Side) : n.other ≠ n := by cases n <;> simp [other]

theorem eq_or_eq_other (m n : Side) : m = n ∨ m = n.other := by
  cases m <;> cases n <;> simp [other]

end Side

def sideIds (a b : Uuid) : Side → Uuid
  | .first => a
  | .second => b

namespace NodeSide

variable (node : NodeSide) (router : ThreadedNodeRouter)

@[simp] theorem withRouter_router : (node.withRouter router).router = router := rfl

@[simp] theorem withRouter_links : (node.withRouter router).links = node.links := rfl

@[simp] theorem withRouter_creating :
    (node.withRouter router).activity.creating = node.activity.creating := rfl

end NodeSide

namespace NodePair

variable (pair : NodePair) (node : NodeSide) (sockets : List Socket)

@[simp] theorem node_update_self (n : Side) : (pair.update n node sockets).node n = node := by
  cases n <;> rfl

theorem node_update_of_ne {m n : Side} (other : m ≠ n) : (pair.update n node sockets).node m = pair.node m := by
  cases m <;> cases n <;> first | rfl | exact absurd rfl other

@[simp] theorem node_update_other (n : Side) : (pair.update n node sockets).node n.other = pair.node n.other :=
  pair.node_update_of_ne node sockets (Side.other_ne n)

@[simp] theorem update_sockets (n : Side) : (pair.update n node sockets).sockets = sockets := by
  cases n <;> rfl

variable {pair} {next : NodePair} {n : Side} {h : Nat}

theorem run_cons {action : Side × NodeAction} {rest : List (Side × NodeAction)}
    (ran : pair.run (action :: rest) = some next) :
    ∃ middle, pair.step action.1 action.2 = some middle ∧ middle.run rest = some next :=
  Option.bind_eq_some.mp ran

theorem Reachable.run {a b : Uuid} {actions : List (Side × NodeAction)}
    (reachable : pair.Reachable a b) (ran : pair.run actions = some next) : next.Reachable a b := by
  induction actions generalizing pair with
  | nil => exact Option.some.inj ran ▸ reachable
  | cons action rest ih =>
    obtain ⟨middle, stepped, ran⟩ := run_cons ran
    exact ih (reachable.step stepped) ran

theorem step_connect {connected : Bool} (stepped : pair.step n (.connect h connected) = some next) :
    ∃ link, (pair.node n).links[h]? = some link ∧ link.dialing = true ∧ next = pair.connect n h connected := by
  simp only [step] at stepped
  split at stepped
  · rename_i link found
    split_ifs at stepped with dialing
    cases stepped
    exact ⟨link, found, dialing, rfl⟩
  · cases stepped

theorem step_disconnect (stepped : pair.step n (.disconnect h) = some next) :
    ∃ s count, (pair.node n).links[h]? = some ⟨some s, false, count⟩ ∧
      next = pair.update n ((pair.node n).withRouter ((pair.node n).router.flagForDestruction h)) pair.sockets := by
  simp only [step] at stepped
  split at stepped
  · rename_i s count found
    cases stepped
    exact ⟨s, count, found, rfl⟩
  · cases stepped

/-- A write happens only from an endpoint whose `mPeer` is a connected socket, and appends the
next queued envelope to it. -/
theorem send_eq_some (sent : pair.send n h = some next) :
    ∃ s count envelope socket, (pair.node n).links[h]? = some ⟨some s, false, count⟩ ∧
      ((pair.node n).router.queueOf h)[count]? = some envelope ∧ pair.sockets[s]? = some socket ∧
      socket.connected = true ∧
      next = pair.update n { pair.node n with links := (pair.node n).links.set h ⟨some s, false, count + 1⟩ }
        (pair.sockets.set s { socket with frames := socket.frames ++ [.envelope envelope] }) := by
  unfold send at sent
  dsimp only at sent
  split at sent
  · rename_i s count found
    split at sent
    · rename_i envelope socket queued foundSocket
      split_ifs at sent with connected
      cases sent
      exact ⟨s, count, envelope, socket, found, queued, foundSocket, connected, rfl⟩
    · cases sent
  · cases sent

/-- The accept thread takes only a pending socket the other node dialled, and runs the connect
filter on the registration record it starts with. -/
theorem accept_eq_some {s : Nat} (accepted : pair.accept n s = some next) :
    ∃ socket, pair.sockets[s]? = some socket ∧ socket.pending = true ∧ socket.dialer = n.other ∧
      ((∃ r rest, socket.frames = .registration r :: rest ∧
        next = pair.update n ((pair.node n).nodeConnectFilter s r) (pair.sockets.set s { socket with pending := false })) ∨
      (∀ r rest, socket.frames ≠ .registration r :: rest) ∧
        next = pair.update n (pair.node n) (pair.sockets.set s { socket with pending := false })) := by
  unfold accept at accepted
  dsimp only at accepted
  split at accepted
  · rename_i socket found
    split_ifs at accepted with guard
    refine ⟨socket, found, guard.1, guard.2.1, ?_⟩
    split at accepted
    · rename_i r rest shape
      exact .inl ⟨r, rest, shape, (Option.some.inj accepted).symm⟩
    · rename_i notRegistration
      exact .inr ⟨notRegistration, (Option.some.inj accepted).symm⟩
  · cases accepted

end NodePair

namespace ThreadedNodeRouter

section Settled

variable {router : ThreadedNodeRouter}

theorem sublist_eraseIfFound {m m' : UuidMap Nat} {k key : Nat}
    (erased : PeerManager.eraseIfFound m k = some (key, m')) : m'.Sublist m := by
  induction m generalizing m' key with
  | nil => simp [PeerManager.eraseIfFound] at erased
  | cons entry rest ih =>
    obtain ⟨k0, v0⟩ := entry
    simp only [PeerManager.eraseIfFound] at erased
    split_ifs at erased
    · cases erased
      exact List.sublist_cons_self _ _
    · cases later : PeerManager.eraseIfFound rest k with
      | none => simp [later] at erased
      | some result =>
        simp only [later, Option.map_some', Option.some.injEq, Prod.mk.injEq] at erased
        obtain ⟨-, rfl⟩ := erased
        exact (ih later).cons₂ _

theorem untrackPeer_eq (endpoint : Nat) :
    (router.untrackPeer endpoint).1 = { router with peerManager := (router.untrackPeer endpoint).1.peerManager } := by
  unfold untrackPeer
  dsimp only
  split
  · rfl
  · split
    · rfl
    · split <;> rfl

theorem untrackPeer_nodes (endpoint : Nat) :
    (router.untrackPeer endpoint).1.peerManager.nodes.Sublist router.peerManager.nodes := by
  unfold untrackPeer
  dsimp only
  split
  · exact List.Sublist.refl _
  · split
    · rename_i erased
      exact sublist_eraseIfFound erased
    · split <;> exact List.Sublist.refl _

theorem destroyEndpoints_frame :
    router.destroyEndpoints.nodeId = router.nodeId ∧ router.destroyEndpoints.endpoints = router.endpoints ∧
      router.destroyEndpoints.peerManager.nodes.Sublist router.peerManager.nodes := by
  suffices sweep : ∀ (l : List Nat) (r : ThreadedNodeRouter),
      (l.foldl (fun r k => (r.untrackPeer k).1) r).nodeId = r.nodeId ∧
      (l.foldl (fun r k => (r.untrackPeer k).1) r).endpoints = r.endpoints ∧
      (l.foldl (fun r k => (r.untrackPeer k).1) r).peerManager.nodes.Sublist r.peerManager.nodes from
    sweep router.endpointsToDelete router
  intro l
  induction l with
  | nil => exact fun r => ⟨rfl, rfl, List.Sublist.refl _⟩
  | cons k rest ih =>
    intro r
    obtain ⟨nodeId, endpoints, nodes⟩ := ih (r.untrackPeer k).1
    have sameId : (r.untrackPeer k).1.nodeId = r.nodeId := by rw [untrackPeer_eq]
    exact ⟨nodeId.trans sameId, endpoints.trans (untrackPeer_endpoints k), nodes.trans (untrackPeer_nodes k)⟩

/-- A change of a router that keeps its id, the number of its endpoints and what each is for, and
tracks no new node peer. -/
structure Settled (router router' : ThreadedNodeRouter) : Prop where
  nodeId : router'.nodeId = router.nodeId
  length : router'.endpoints.length = router.endpoints.length
  endpoints : ∀ ep ∈ router'.endpoints, ∃ old ∈ router.endpoints, ep.peerType = old.peerType ∧ ep.uuid = old.uuid
  nodes : router'.peerManager.nodes.Sublist router.peerManager.nodes

theorem settled_of_endpoints {router' : ThreadedNodeRouter} (nodeId : router'.nodeId = router.nodeId)
    (endpoints : router'.endpoints = router.endpoints)
    (nodes : router'.peerManager.nodes.Sublist router.peerManager.nodes) : Settled router router' :=
  ⟨nodeId, by rw [endpoints], fun ep member => ⟨ep, endpoints ▸ member, rfl, rfl⟩, nodes⟩

theorem exists_of_mem_modify {α : Type} {l : List α} {f : α → α} {k : Nat} {a : α}
    (member : a ∈ l.modify f k) : ∃ old ∈ l, a = old ∨ a = f old := by
  obtain ⟨i, found⟩ := List.mem_iff_getElem?.mp member
  rw [List.getElem?_modify] at found
  cases old : l[i]? with
  | none => simp [old] at found
  | some b =>
    refine ⟨b, List.mem_iff_getElem?.mpr ⟨i, old⟩, ?_⟩
    simp only [old, Option.map_eq_map, Option.map_some', Option.some.injEq] at found
    split_ifs at found <;> simp [found]

theorem settled_queueEnvelope (endpoint : Nat) (envelope : Envelope) :
    Settled router (router.queueEnvelope endpoint envelope) :=
  ⟨rfl, by simp, fun ep member => by
    obtain ⟨old, mem, same | same⟩ := exists_of_mem_modify member <;> exact ⟨old, mem, by rw [same], by rw [same]⟩,
    List.Sublist.refl _⟩

theorem settled_flagForDestruction (endpoint : Nat) : Settled router (router.flagForDestruction endpoint) := by
  unfold flagForDestruction
  split
  · rename_i ep found
    split
    · exact settled_of_endpoints rfl rfl (List.Sublist.refl _)
    · refine ⟨rfl, by simp, fun ep' member => ?_, List.Sublist.refl _⟩
      rcases List.mem_or_eq_of_mem_set member with old | rfl
      · exact ⟨ep', old, rfl, rfl⟩
      · exact ⟨ep, List.mem_iff_getElem?.mpr ⟨endpoint, found⟩, rfl, rfl⟩
  · exact settled_of_endpoints rfl rfl (List.Sublist.refl _)

theorem settled_destroyEndpoints : Settled router router.destroyEndpoints :=
  settled_of_endpoints destroyEndpoints_frame.1 destroyEndpoints_frame.2.1 destroyEndpoints_frame.2.2

theorem settled_putSessionRoutingData (sessionId : Uuid) (nodes : List NodeEntry) :
    Settled router (router.putSessionRoutingData sessionId nodes) := by
  unfold putSessionRoutingData
  split <;> exact settled_of_endpoints rfl rfl (List.Sublist.refl _)

theorem settled_deleteSessionRoutingData (sessionId : Uuid) :
    Settled router (router.deleteSessionRoutingData sessionId) :=
  settled_of_endpoints rfl rfl (List.Sublist.refl _)

theorem flagForDestruction_peerManager (endpoint : Nat) :
    (router.flagForDestruction endpoint).peerManager = router.peerManager := by
  unfold flagForDestruction
  split
  · split <;> rfl
  · rfl

theorem flagged_flagForDestruction_of_ne {endpoint h : Nat} (other : endpoint ≠ h) :
    (router.flagForDestruction endpoint).flagged h = router.flagged h := by
  unfold flagForDestruction
  split
  · split
    · rfl
    · simp [flagged, List.getElem?_set_ne other]
  · rfl

theorem mem_flagForDestruction_toDelete {endpoint h : Nat}
    (member : h ∈ (router.flagForDestruction endpoint).endpointsToDelete) :
    h ∈ router.endpointsToDelete ∨ h = endpoint := by
  unfold flagForDestruction at member
  split at member
  · split at member
    · exact .inl member
    · simpa using member
  · exact .inl member

theorem putSessionRoutingData_eq (sessionId : Uuid) (nodes : List NodeEntry) :
    router.putSessionRoutingData sessionId nodes =
      { router with routingTable := (router.putSessionRoutingData sessionId nodes).routingTable } := by
  unfold putSessionRoutingData
  split <;> rfl

end Settled

end ThreadedNodeRouter

open ThreadedNodeRouter

section Invariant

variable (ids : Side → Uuid)

/-- The socket was dialled by the node with the greater id. -/
def DialledByGreater (socket : Socket) : Prop := ids socket.dialer.other < ids socket.dialer

def Extends (sockets sockets' : List Socket) : Prop :=
  ∀ (s : Nat) (socket : Socket), sockets[s]? = some socket → ∃ socket', sockets'[s]? = some socket' ∧ socket'.dialer = socket.dialer

/-- What holds of node `n`, whose id is `ids n`, in every reachable state: every endpoint is a node
endpoint for the other node, the node table has the other node only, with an endpoint that exists,
and every `mPeer` is a socket the greater node dialled. -/
structure NodeInv (n : Side) (node : NodeSide) (sockets : List Socket) : Prop where
  nodeId : node.router.nodeId = ids n
  aligned : node.links.length = node.router.endpoints.length
  endpoints : ∀ ep ∈ node.router.endpoints, ep.peerType = .node ∧ ep.uuid = ids n.other
  ordered : node.router.peerManager.nodes.Ordered
  tracked : ∀ entry ∈ node.router.peerManager.nodes,
    entry.1 = ids n.other ∧ entry.2 < node.router.endpoints.length
  creating : ∀ p, node.activity.creating = some p → p.1 = ids n.other ∧ p.2 < node.router.endpoints.length
  attached : ∀ link ∈ node.links, ∀ s, link.peer = some s →
    ∃ socket, sockets[s]? = some socket ∧ DialledByGreater ids socket

/-- What holds of every socket in every reachable state; one the lesser node dialled carries its
registration record and nothing else. -/
structure SocketInv (socket : Socket) : Prop where
  registered : socket.connected = true → ∃ rest, socket.frames = .registration (ids socket.dialer) :: rest
  unconnected : socket.connected = false → socket.frames = [] ∧ socket.pending = false
  lesser : ¬DialledByGreater ids socket → ∀ frame ∈ socket.frames, frame = .registration (ids socket.dialer)

structure Inv (pair : NodePair) : Prop where
  nodes : ∀ n, NodeInv ids n (pair.node n) pair.sockets
  sockets : ∀ socket ∈ pair.sockets, SocketInv ids socket

variable {ids} {n : Side} {node : NodeSide} {sockets : List Socket}

theorem Extends.refl (sockets : List Socket) : Extends sockets sockets :=
  fun _ socket found => ⟨socket, found, rfl⟩

theorem extends_append (sockets more : List Socket) : Extends sockets (sockets ++ more) :=
  fun _ socket found => ⟨socket, by rw [List.getElem?_append_left (List.getElem?_eq_some.mp found).1, found], rfl⟩

theorem extends_set {s : Nat} {socket : Socket} (found : sockets[s]? = some socket) (socket' : Socket)
    (same : socket'.dialer = socket.dialer) : Extends sockets (sockets.set s socket') := by
  intro t old foundOld
  by_cases here : s = t
  · subst here
    rw [found] at foundOld
    cases foundOld
    exact ⟨socket', List.getElem?_set_self (List.getElem?_eq_some.mp found).1, same⟩
  · exact ⟨old, by rw [List.getElem?_set_ne here, foundOld], rfl⟩

theorem NodeInv.mono {sockets' : List Socket} (inv : NodeInv ids n node sockets)
    (keeps : Extends sockets sockets') : NodeInv ids n node sockets' :=
  { inv with
    attached := fun link member s peer => by
      obtain ⟨socket, found, greater⟩ := inv.attached link member s peer
      obtain ⟨socket', found', same⟩ := keeps s socket found
      exact ⟨socket', found', by rwa [DialledByGreater, same]⟩ }

theorem NodeInv.withRouter (inv : NodeInv ids n node sockets) {router : ThreadedNodeRouter}
    (settled : Settled node.router router) : NodeInv ids n (node.withRouter router) sockets where
  nodeId := settled.nodeId.trans inv.nodeId
  aligned := inv.aligned.trans settled.length.symm
  endpoints ep member := by
    obtain ⟨old, mem, kind, uuid⟩ := settled.endpoints ep member
    rw [kind, uuid]
    exact inv.endpoints old mem
  ordered := List.Pairwise.sublist (settled.nodes.map _) inv.ordered
  tracked entry member := by
    rw [NodeSide.withRouter_router, settled.length]
    exact inv.tracked entry (settled.nodes.subset member)
  creating p creating := by
    rw [NodeSide.withRouter_router, settled.length]
    exact inv.creating p creating
  attached := inv.attached

theorem NodeInv.withLinks (inv : NodeInv ids n node sockets) {links : List Link}
    (aligned : links.length = node.links.length)
    (attached : ∀ link ∈ links, ∀ s, link.peer = some s →
      ∃ socket, sockets[s]? = some socket ∧ DialledByGreater ids socket) :
    NodeInv ids n { node with links := links } sockets :=
  { inv with aligned := aligned.trans inv.aligned, attached := attached }

theorem NodeInv.addEndpoint (inv : NodeInv ids n node sockets) (link : Link)
    (attached : ∀ s, link.peer = some s → ∃ socket, sockets[s]? = some socket ∧ DialledByGreater ids socket)
    (creating : Option (Uuid × Nat))
    (creatingOk : ∀ p, creating = some p → p.1 = ids n.other ∧ p.2 < node.router.endpoints.length + 1) :
    NodeInv ids n ⟨⟨(node.router.newEndpoint .node (ids n.other) Uuid.null).1, creating⟩,
      node.links ++ [link]⟩ sockets where
  nodeId := inv.nodeId
  aligned := by simp [newEndpoint, inv.aligned]
  endpoints ep member := by
    rcases List.mem_append.mp member with old | new
    · exact inv.endpoints ep old
    · simp only [List.mem_singleton] at new
      exact ⟨by rw [new], by rw [new]⟩
  ordered := inv.ordered
  tracked entry member := by
    obtain ⟨key, bound⟩ := inv.tracked entry member
    exact ⟨key, by simp only [newEndpoint, List.length_append]; omega⟩
  creating p created := by simpa [newEndpoint] using creatingOk p created
  attached l member s peer := by
    rcases List.mem_append.mp member with old | new
    · exact inv.attached l old s peer
    · simp only [List.mem_singleton] at new
      exact attached s (new ▸ peer)

theorem NodeInv.track (inv : NodeInv ids n node sockets) {h : Nat} (bound : h < node.router.endpoints.length)
    (creating : Option (Uuid × Nat))
    (creatingOk : ∀ p, creating = some p → p.1 = ids n.other ∧ p.2 < node.router.endpoints.length) :
    NodeInv ids n ⟨⟨node.router.trackNode (ids n.other) h, creating⟩, node.links⟩ sockets where
  nodeId := inv.nodeId
  aligned := inv.aligned
  endpoints := inv.endpoints
  ordered := inv.ordered.insert _ _
  tracked entry member := by
    rcases UuidMap.mem_insert member with rfl | old
    · exact ⟨rfl, bound⟩
    · exact inv.tracked entry old
  creating := creatingOk
  attached := inv.attached

theorem NodeInv.createNodeRemoteEndpoint (inv : NodeInv ids n node sockets) {node' : NodeSide}
    (created : node.createNodeRemoteEndpoint (ids n.other) = some node') : NodeInv ids n node' sockets := by
  unfold NodeSide.createNodeRemoteEndpoint at created
  split_ifs at created
  obtain ⟨activity, stepped, rfl⟩ := Option.map_eq_some'.mp created
  simp only [RouterActivity.step] at stepped
  split_ifs at stepped
  cases stepped
  exact inv.addEndpoint _ (fun _ peer => by cases peer) _ (fun p same => by
    cases same
    exact ⟨rfl, Nat.lt_succ_self _⟩)

theorem NodeInv.trackNode (inv : NodeInv ids n node sockets) {activity : RouterActivity}
    (stepped : node.activity.step .trackNode = some activity) :
    NodeInv ids n { node with activity := activity } sockets := by
  simp only [RouterActivity.step] at stepped
  split at stepped
  · rename_i nodeId ep creating
    cases stepped
    obtain ⟨rfl, bound⟩ := inv.creating _ creating
    exact inv.track bound none (fun _ none => by cases none)
  · cases stepped

theorem NodeInv.trackNew (inv : NodeInv ids n node sockets) {link : Link}
    (attached : ∀ s, link.peer = some s → ∃ socket, sockets[s]? = some socket ∧ DialledByGreater ids socket) :
    NodeInv ids n (node.trackNew (ids n.other) link) sockets :=
  (inv.addEndpoint link attached node.activity.creating fun p creating =>
    (inv.creating p creating).imp_right (Nat.lt_succ_of_lt)).track (by simp [newEndpoint])
    node.activity.creating fun p creating =>
      (inv.creating p creating).imp_right fun bound => by simp only [newEndpoint, List.length_append]; omega

theorem NodeInv.setPeer (inv : NodeInv ids n node sockets) (h s : Nat)
    (greater : ∃ socket, sockets[s]? = some socket ∧ DialledByGreater ids socket) :
    NodeInv ids n (node.setPeer h s) sockets := by
  unfold NodeSide.setPeer
  split
  · split
    · refine inv.withLinks (List.length_modify _ _ _) fun link member t peer => ?_
      obtain ⟨old, mem, same | same⟩ := exists_of_mem_modify member
      · exact inv.attached old mem t (same ▸ peer)
      · subst same
        cases peer
        exact greater
    · exact inv
  · exact inv

theorem NodeInv.nodeConnectFilter (inv : NodeInv ids n node sockets) (distinct : ids n ≠ ids n.other)
    {s : Nat} {socket : Socket} (found : sockets[s]? = some socket) (dialer : socket.dialer = n.other) :
    NodeInv ids n (node.nodeConnectFilter s (ids n.other)) sockets := by
  have greater : ¬ids n.other < ids n → ∃ socket, sockets[s]? = some socket ∧ DialledByGreater ids socket :=
    fun notLess => ⟨socket, found, by
      rw [DialledByGreater, dialer, Side.other_other]
      exact Nat.lt_of_le_of_ne (Nat.not_lt.mp notLess) distinct⟩
  unfold NodeSide.nodeConnectFilter
  rw [inv.nodeId]
  split
  · split_ifs with less
    · split
      · exact inv.trackNew fun _ peer => by cases peer
      · exact inv
    · exact inv.trackNew fun _ peer => by cases peer; exact greater less
  · split_ifs with less
    · exact inv
    · exact inv.setPeer _ _ (greater less)

theorem NodeInv.isHigher (inv : NodeInv ids n node sockets) {h : Nat} (higher : node.isHigher h = true) :
    ids n.other < ids n := by
  unfold NodeSide.isHigher at higher
  split at higher
  · rename_i ep found
    rw [← (inv.endpoints ep (List.mem_iff_getElem?.mpr ⟨h, found⟩)).2, ← inv.nodeId]
    exact of_decide_eq_true higher
  · cases higher

theorem Inv.update {pair : NodePair} (inv : Inv ids pair) (self : NodeInv ids n node sockets)
    (keeps : Extends pair.sockets sockets) (valid : ∀ socket ∈ sockets, SocketInv ids socket) :
    Inv ids (pair.update n node sockets) := by
  refine ⟨fun m => ?_, by simpa using valid⟩
  rcases Side.eq_or_eq_other m n with rfl | rfl
  · simpa using self
  · simpa using (inv.nodes n.other).mono keeps

theorem Inv.connect {pair : NodePair} (inv : Inv ids pair) (n : Side) (h : Nat) (connected : Bool) :
    Inv ids (pair.connect n h connected) := by
  have self := inv.nodes n
  have settled : Settled (pair.node n).router
      (if connected then (pair.node n).router else (pair.node n).router.flagForDestruction h) := by
    split_ifs
    exacts [settled_of_endpoints rfl rfl (List.Sublist.refl _), settled_flagForDestruction h]
  have keeps := extends_append pair.sockets
    [if connected then ⟨n, true, [.registration (pair.node n).router.nodeId], true⟩ else ⟨n, false, [], false⟩]
  refine inv.update (((self.withRouter settled).mono keeps).withLinks (List.length_modify _ _ _) ?_) keeps ?_
  · intro link member s peer
    obtain ⟨old, mem, same | same⟩ := exists_of_mem_modify member
    · exact (self.mono keeps).attached old mem s (same ▸ peer)
    · subst same
      dsimp only at peer
      split_ifs at peer with higher
      · cases peer
        refine ⟨_, List.getElem?_concat_length _ _, ?_⟩
        split_ifs <;> exact self.isHigher higher
      · exact (self.mono keeps).attached old mem s peer
  · intro socket member
    rcases List.mem_append.mp member with old | new
    · exact inv.sockets socket old
    · simp only [List.mem_singleton] at new
      subst new
      cases connected <;> simp only [Bool.false_eq_true, ↓reduceIte]
      · exact ⟨nofun, fun _ => ⟨rfl, rfl⟩, nofun⟩
      · refine ⟨fun _ => ⟨[], by rw [self.nodeId]⟩, nofun, fun _ frame member => ?_⟩
        simpa [self.nodeId] using member

theorem Inv.send {pair next : NodePair} (inv : Inv ids pair) {h : Nat} (sent : pair.send n h = some next) :
    Inv ids next := by
  obtain ⟨s, count, envelope, socket, found, -, foundSocket, connected, rfl⟩ := NodePair.send_eq_some sent
  have self := inv.nodes n
  obtain ⟨socket', foundSocket', greater⟩ := self.attached _ (List.mem_iff_getElem?.mpr ⟨h, found⟩) s rfl
  rw [foundSocket] at foundSocket'
  cases foundSocket'
  have keeps := extends_set foundSocket { socket with frames := socket.frames ++ [.envelope envelope] } rfl
  have valid := inv.sockets socket (List.mem_iff_getElem?.mpr ⟨s, foundSocket⟩)
  refine inv.update ((self.mono keeps).withLinks (List.length_set _ _ _) ?_) keeps ?_
  · intro link member t peer
    rcases List.mem_or_eq_of_mem_set member with old | rfl
    · exact (self.mono keeps).attached link old t peer
    · cases peer
      exact ⟨_, List.getElem?_set_self (List.getElem?_eq_some.mp foundSocket).1, greater⟩
  · intro x member
    rcases List.mem_or_eq_of_mem_set member with old | rfl
    · exact inv.sockets x old
    · obtain ⟨rest, frames⟩ := valid.registered connected
      exact ⟨fun _ => ⟨rest ++ [.envelope envelope], by simp [frames]⟩,
        fun c => absurd connected (by simpa using c), fun lesser => absurd greater lesser⟩

theorem SocketInv.connected {socket : Socket} (valid : SocketInv ids socket) (pending : socket.pending = true) :
    socket.connected = true := by
  cases c : socket.connected
  · simp [(valid.unconnected c).2] at pending
  · rfl

theorem Inv.accept {pair next : NodePair} (inv : Inv ids pair) (distinct : ids n ≠ ids n.other) {s : Nat}
    (accepted : pair.accept n s = some next) : Inv ids next := by
  obtain ⟨socket, found, pending, dialer, handled⟩ := NodePair.accept_eq_some accepted
  have valid := inv.sockets socket (List.mem_iff_getElem?.mpr ⟨s, found⟩)
  have keeps := extends_set found { socket with pending := false } rfl
  have socketsValid : ∀ x ∈ pair.sockets.set s { socket with pending := false }, SocketInv ids x :=
    fun x member => (List.mem_or_eq_of_mem_set member).elim (inv.sockets x) fun same => same ▸
      ⟨valid.registered, fun c => ⟨(valid.unconnected c).1, rfl⟩, valid.lesser⟩
  obtain ⟨rest, frames⟩ := valid.registered (valid.connected pending)
  rcases handled with ⟨r, tail, shape, rfl⟩ | ⟨notRegistration, -⟩
  · rw [frames] at shape
    cases shape
    have closed : (pair.sockets.set s { socket with pending := false })[s]? =
        some { socket with pending := false } :=
      List.getElem?_set_self (List.getElem?_eq_some.mp found).1
    rw [show ids socket.dialer = ids n.other by rw [dialer]]
    exact inv.update (((inv.nodes n).mono keeps).nodeConnectFilter distinct closed dialer) keeps socketsValid
  · exact absurd frames (notRegistration _ _)

theorem Inv.step (distinct : ids .first ≠ ids .second) {pair next : NodePair} (inv : Inv ids pair)
    {action : NodeAction} (stepped : pair.step n action = some next) : Inv ids next := by
  have apart : ids n ≠ ids n.other := by
    cases n
    exacts [distinct, Ne.symm distinct]
  have self := inv.nodes n
  have keep : ∀ router, Settled (pair.node n).router router →
      Inv ids (pair.update n ((pair.node n).withRouter router) pair.sockets) :=
    fun _ settled => inv.update (self.withRouter settled) (Extends.refl _) inv.sockets
  cases action with
  | createNodeRemoteEndpoint =>
    obtain ⟨node, created, rfl⟩ := Option.map_eq_some'.mp stepped
    rw [(inv.nodes n.other).nodeId] at created
    exact inv.update (self.createNodeRemoteEndpoint created) (Extends.refl _) inv.sockets
  | trackNode =>
    obtain ⟨activity, tracked, rfl⟩ := Option.map_eq_some'.mp stepped
    exact inv.update (self.trackNode tracked) (Extends.refl _) inv.sockets
  | queueEnvelope envelope =>
    obtain ⟨h, -, rfl⟩ := Option.map_eq_some'.mp stepped
    exact keep _ (settled_queueEnvelope h envelope)
  | connect h connected =>
    obtain ⟨-, -, -, rfl⟩ := NodePair.step_connect stepped
    exact inv.connect n h connected
  | send h => exact inv.send stepped
  | disconnect h =>
    obtain ⟨-, -, -, rfl⟩ := NodePair.step_disconnect stepped
    exact keep _ (settled_flagForDestruction h)
  | accept s => exact inv.accept apart stepped
  | destroyEndpoints =>
    cases stepped
    exact keep _ settled_destroyEndpoints
  | putSessionRoutingData sessionId nodes =>
    cases stepped
    exact keep _ (settled_putSessionRoutingData sessionId nodes)
  | deleteSessionRoutingData sessionId =>
    cases stepped
    exact keep _ (settled_deleteSessionRoutingData sessionId)

theorem init_inv (a b : Uuid) : Inv (sideIds a b) (NodePair.init a b) := by
  refine ⟨fun n => ?_, nofun⟩
  cases n <;> exact ⟨rfl, rfl, nofun, List.Pairwise.nil, nofun, nofun, nofun⟩

theorem NodePair.Reachable.inv {a b : Uuid} (distinct : a ≠ b) {pair : NodePair}
    (reachable : pair.Reachable a b) : Inv (sideIds a b) pair := by
  induction reachable with
  | init => exact init_inv a b
  | step _ stepped ih => exact ih.step distinct stepped

theorem length_le_one_of_nodup {l : List Uuid} {c : Uuid} (nodup : l.Nodup) (all : ∀ x ∈ l, x = c) :
    l.length ≤ 1 := by
  match l, nodup, all with
  | [], _, _ => exact Nat.zero_le _
  | [_], _, _ => exact le_refl _
  | x :: y :: _, nodup, all =>
    have same : x = y := (all x (by simp)).trans (all y (by simp)).symm
    have fresh := (List.nodup_cons.mp nodup).1
    rw [same] at fresh
    exact absurd (List.mem_cons_self y _) fresh

/-- A session's nodes: node 1, its entry node, and node 2. -/
def twoNodes : List NodeEntry := [⟨1, "one", "10.0.0.1", 1, some true⟩, ⟨2, "two", "10.0.0.2", 2, none⟩]

/-- Node 1 dials node 2, which refuses and dials back; node 1 takes node 2's socket and sends an
envelope on it. -/
def dialBack : List (Side × NodeAction) :=
  [(.first, .putSessionRoutingData 7 twoNodes), (.second, .putSessionRoutingData 7 twoNodes),
    (.second, .createNodeRemoteEndpoint), (.second, .trackNode), (.second, .connect 0 true),
    (.first, .accept 0), (.first, .connect 0 true), (.second, .accept 1),
    (.second, .queueEnvelope ⟨.data 0, 0, []⟩), (.second, .send 0)]

/-- Two nodes with distinct ids, after any interleaving of the steps of both: each node's table
holds at most one node peer, the other node, and it is a node endpoint for that node; every
`mPeer` of either node is a socket that the node with the greater id dialled; and a socket that
the lesser node dialled carries its registration record and nothing else. -/
theorem node_connections_from_greater {a b : Uuid} (distinct : a ≠ b) {pair : NodePair}
    (reachable : pair.Reachable a b) (n : Side) :
    (pair.node n).router.peerManager.nodes.length ≤ 1 ∧
    (∀ k h, (pair.node n).router.findNodePeer k = some h → k = sideIds a b n.other ∧
      ∃ ep, (pair.node n).router.endpoints[h]? = some ep ∧ ep.peerType = .node ∧ ep.uuid = k) ∧
    (∀ link ∈ (pair.node n).links, ∀ s, link.peer = some s →
      ∃ socket, pair.sockets[s]? = some socket ∧ sideIds a b socket.dialer.other < sideIds a b socket.dialer) ∧
    (∀ socket ∈ pair.sockets, sideIds a b socket.dialer < sideIds a b socket.dialer.other →
      ∀ frame ∈ socket.frames, frame = .registration (sideIds a b socket.dialer)) := by
  have inv := reachable.inv distinct
  have self := inv.nodes n
  refine ⟨?_, fun k h found => ?_, self.attached,
    fun socket member less => (inv.sockets socket member).lesser (Nat.lt_asymm less)⟩
  · have keys : ∀ k ∈ (pair.node n).router.peerManager.nodes.keys, k = sideIds a b n.other := fun k member => by
      obtain ⟨entry, mem, rfl⟩ := List.mem_map.mp member
      exact (self.tracked entry mem).1
    simpa [UuidMap.keys] using length_le_one_of_nodup self.ordered.nodup keys
  · obtain ⟨rfl, bound⟩ := self.tracked _ (UuidMap.mem_of_find found)
    exact ⟨rfl, _, List.getElem?_eq_getElem bound, self.endpoints _ (List.getElem_mem bound)⟩

theorem node_connections_after_dial_back :
    ∃ pair, (NodePair.init 2 1).run dialBack = some pair ∧
      (pair.node .second).router.peerManager.nodes.length ≤ 1 ∧
      (∀ k h, (pair.node .second).router.findNodePeer k = some h → k = sideIds 2 1 Side.second.other ∧
        ∃ ep, (pair.node .second).router.endpoints[h]? = some ep ∧ ep.peerType = .node ∧ ep.uuid = k) ∧
      (∀ link ∈ (pair.node .second).links, ∀ s, link.peer = some s →
        ∃ socket, pair.sockets[s]? = some socket ∧ sideIds 2 1 socket.dialer.other < sideIds 2 1 socket.dialer) ∧
      (∀ socket ∈ pair.sockets, sideIds 2 1 socket.dialer < sideIds 2 1 socket.dialer.other →
        ∀ frame ∈ socket.frames, frame = .registration (sideIds 2 1 socket.dialer)) := by
  obtain ⟨pair, ran⟩ : ∃ pair, (NodePair.init 2 1).run dialBack = some pair := ⟨_, rfl⟩
  exact ⟨pair, ran, node_connections_from_greater (by decide) (NodePair.Reachable.run .init ran) .second⟩

end Invariant

section Stalled

/-- Endpoint `h` of a node is its tracked peer for node `remote` and waits in
`sendThreadWithConnect` for `setPeer`: it has connected, has no socket, and is not flagged. -/
structure Waiting (remote : Uuid) (h : Nat) (node : NodeSide) : Prop where
  tracked : node.router.findNodePeer remote = some h
  waiting : ∃ sent, node.links[h]? = some ⟨none, false, sent⟩
  unflagged : node.router.flagged h = some false
  unqueued : h ∉ node.router.endpointsToDelete

/-- A node with no connection attempt under way: no endpoint created and not yet tracked, and none
still to dial. -/
structure Idle (node : NodeSide) : Prop where
  notCreating : node.activity.creating = none
  notDialing : ∀ link ∈ node.links, link.dialing = false

/-- The lesser node's endpoint `h` waits for the greater node to connect back, while neither
node has an attempt under way and no socket waits for a connect filter. -/
structure Stalled (ids : Side → Uuid) (lesser : Side) (h : Nat) (pair : NodePair) : Prop where
  waiting : Waiting (ids lesser.other) h (pair.node lesser)
  idle : ∀ n, Idle (pair.node n)
  noPending : ∀ socket ∈ pair.sockets, socket.pending = false

variable {remote : Uuid} {h : Nat} {node : NodeSide}

theorem Waiting.routingTable (waiting : Waiting remote h node) (table : RoutingTable) :
    Waiting remote h (node.withRouter { node.router with routingTable := table }) :=
  ⟨waiting.tracked, waiting.waiting, waiting.unflagged, waiting.unqueued⟩

theorem Waiting.queueEnvelope (waiting : Waiting remote h node) (k : Nat) (envelope : Envelope) :
    Waiting remote h (node.withRouter (node.router.queueEnvelope k envelope)) :=
  ⟨waiting.tracked, waiting.waiting, by simpa using waiting.unflagged, waiting.unqueued⟩

theorem Waiting.flagForDestruction (waiting : Waiting remote h node) {k : Nat} (other : k ≠ h) :
    Waiting remote h (node.withRouter (node.router.flagForDestruction k)) := by
  refine ⟨?_, waiting.waiting, ?_, fun member => ?_⟩
  · simpa [findNodePeer, flagForDestruction_peerManager] using waiting.tracked
  · simpa [flagged_flagForDestruction_of_ne other] using waiting.unflagged
  · rcases mem_flagForDestruction_toDelete member with old | rfl
    exacts [waiting.unqueued old, other rfl]

theorem Waiting.destroyEndpoints (waiting : Waiting remote h node) :
    Waiting remote h (node.withRouter node.router.destroyEndpoints) := by
  obtain ⟨tracked, endpoints, cleared⟩ := destroyEndpoints_findNodePeer waiting.tracked waiting.unqueued
  exact ⟨tracked, waiting.waiting, by simpa [flagged, endpoints] using waiting.unflagged, by simp [cleared]⟩

theorem Waiting.setLink (waiting : Waiting remote h node) {k : Nat} (other : k ≠ h) (link : Link) :
    Waiting remote h { node with links := node.links.set k link } := by
  obtain ⟨sent, found⟩ := waiting.waiting
  exact ⟨waiting.tracked, ⟨sent, by rw [List.getElem?_set_ne other, found]⟩, waiting.unflagged, waiting.unqueued⟩

theorem Waiting.ne_of_peer (waiting : Waiting remote h node) {k s : Nat} {link : Link}
    (found : node.links[k]? = some link) (peer : link.peer = some s) : k ≠ h := by
  rintro rfl
  obtain ⟨_, unset⟩ := waiting.waiting
  rw [unset] at found
  cases found
  cases peer

theorem Idle.withRouter (idle : Idle node) (router : ThreadedNodeRouter) : Idle (node.withRouter router) :=
  ⟨idle.notCreating, idle.notDialing⟩

theorem Stalled.update {ids : Side → Uuid} {lesser : Side} {pair : NodePair} (stalled : Stalled ids lesser h pair)
    {n : Side} {node : NodeSide} {sockets : List Socket}
    (waiting : n = lesser → Waiting (ids lesser.other) h node) (idle : Idle node)
    (noPending : ∀ socket ∈ sockets, socket.pending = false) : Stalled ids lesser h (pair.update n node sockets) := by
  refine ⟨?_, fun m => ?_, by simpa using noPending⟩
  · rcases Side.eq_or_eq_other lesser n with rfl | rfl
    · simpa using waiting rfl
    · simpa using stalled.waiting
  · rcases Side.eq_or_eq_other m n with rfl | rfl
    · simpa using idle
    · simpa using stalled.idle n.other

/-- While the greater node does not route to the lesser, every step keeps the pair stalled. -/
theorem Stalled.step {ids : Side → Uuid} {lesser : Side} {pair next : NodePair} (inv : Inv ids pair)
    (stalled : Stalled ids lesser h pair) {n : Side} {action : NodeAction}
    (other : (n, action) ≠ (lesser.other, .createNodeRemoteEndpoint))
    (stepped : pair.step n action = some next) : Stalled ids lesser h next := by
  have idle := stalled.idle n
  have keep : ∀ router, (n = lesser → Waiting (ids lesser.other) h ((pair.node n).withRouter router)) →
      Stalled ids lesser h (pair.update n ((pair.node n).withRouter router) pair.sockets) :=
    fun router waiting => stalled.update waiting (idle.withRouter router) stalled.noPending
  cases action with
  | createNodeRemoteEndpoint =>
    obtain ⟨node, created, rfl⟩ := Option.map_eq_some'.mp stepped
    rcases Side.eq_or_eq_other n lesser with rfl | rfl
    · rw [(inv.nodes n.other).nodeId] at created
      simp [NodeSide.createNodeRemoteEndpoint, RouterActivity.step, stalled.waiting.tracked] at created
    · exact absurd rfl other
  | trackNode =>
    obtain ⟨activity, tracked, -⟩ := Option.map_eq_some'.mp stepped
    simp [RouterActivity.step, idle.notCreating] at tracked
  | queueEnvelope envelope =>
    obtain ⟨k, -, rfl⟩ := Option.map_eq_some'.mp stepped
    exact keep _ fun same => by subst same; exact stalled.waiting.queueEnvelope k envelope
  | connect k connected =>
    obtain ⟨link, found, dialing, -⟩ := NodePair.step_connect stepped
    simp [idle.notDialing link (List.mem_iff_getElem?.mpr ⟨k, found⟩)] at dialing
  | send k =>
    obtain ⟨s, count, envelope, socket, found, -, foundSocket, -, rfl⟩ := NodePair.send_eq_some stepped
    refine stalled.update (fun same => ?_) ⟨idle.notCreating, fun link member => ?_⟩ fun x member => ?_
    · subst same
      exact stalled.waiting.setLink (stalled.waiting.ne_of_peer found rfl) _
    · rcases List.mem_or_eq_of_mem_set member with old | rfl
      exacts [idle.notDialing link old, rfl]
    · rcases List.mem_or_eq_of_mem_set member with old | rfl
      · exact stalled.noPending x old
      · exact stalled.noPending socket (List.mem_iff_getElem?.mpr ⟨s, foundSocket⟩)
  | disconnect k =>
    obtain ⟨s, count, found, rfl⟩ := NodePair.step_disconnect stepped
    exact keep _ fun same => by
      subst same
      exact stalled.waiting.flagForDestruction (stalled.waiting.ne_of_peer found rfl)
  | accept s =>
    obtain ⟨socket, found, pending, -⟩ := NodePair.accept_eq_some stepped
    simp [stalled.noPending socket (List.mem_iff_getElem?.mpr ⟨s, found⟩)] at pending
  | destroyEndpoints =>
    cases stepped
    exact keep _ fun same => by subst same; exact stalled.waiting.destroyEndpoints
  | putSessionRoutingData sessionId nodes =>
    cases stepped
    rw [putSessionRoutingData_eq]
    exact keep _ fun same => by subst same; exact stalled.waiting.routingTable _
  | deleteSessionRoutingData sessionId =>
    cases stepped
    exact keep _ fun same => by subst same; exact stalled.waiting.routingTable _

theorem Stalled.run {ids : Side → Uuid} (distinct : ids .first ≠ ids .second) {lesser : Side}
    {pair : NodePair} (inv : Inv ids pair) (stalled : Stalled ids lesser h pair)
    (actions : List (Side × NodeAction)) (next : NodePair)
    (avoid : (lesser.other, .createNodeRemoteEndpoint) ∉ actions)
    (ran : pair.run actions = some next) : Stalled ids lesser h next := by
  induction actions generalizing pair with
  | nil => exact Option.some.inj ran ▸ stalled
  | cons action rest ih =>
    simp only [List.mem_cons, not_or] at avoid
    obtain ⟨middle, stepped, ran⟩ := NodePair.run_cons ran
    exact ih (inv.step distinct stepped) (stalled.step inv (Ne.symm avoid.1) stepped) avoid.2 ran

end Stalled

/-- Node 1 has routing data naming node 2 and routes to it; node 2, which has none naming node
1, handles the registration. -/
def unexpectedRegistration : List (Side × NodeAction) :=
  [(.second, .putSessionRoutingData 7 twoNodes), (.second, .createNodeRemoteEndpoint),
    (.second, .trackNode), (.second, .connect 0 true), (.first, .accept 0)]

/-- Node 2 drops node 1's registration as unexpected and dials nothing back, so node 1's endpoint
is left waiting; it stays so whatever either node does until node 2 itself routes to node 1. -/
theorem lesser_node_left_waiting :
    ∃ pair, (NodePair.init 2 1).run unexpectedRegistration = some pair ∧
      Stalled (sideIds 2 1) .second 0 pair ∧
      ∀ actions next, (.first, .createNodeRemoteEndpoint) ∉ actions → pair.run actions = some next →
        Stalled (sideIds 2 1) .second 0 next := by
  refine ⟨_, rfl, ?_⟩
  have inv := (NodePair.Reachable.run .init
    (rfl : (NodePair.init 2 1).run unexpectedRegistration = some _)).inv (by decide)
  have always := Stalled.run (by decide) inv (show Stalled (sideIds 2 1) .second 0 _ from
    ⟨⟨rfl, ⟨0, rfl⟩, rfl, by decide⟩, fun n => by cases n <;> exact ⟨rfl, by decide⟩, by decide⟩)
  exact ⟨always [] _ (List.not_mem_nil _) rfl, always⟩

end Arras4.Node
