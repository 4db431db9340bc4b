import ArrasNode.Router.PeerManager
import Mathlib.Data.List.Perm.Lattice

/-! `routeMessage` (RouteMessage.cc): split the destination list, deliver to the local client and
the local computations, and forward one reduced copy per remote node, creating the node peer
when there is none yet. `Routed` says exactly what one call queues; `routeMessage_routed` proves
that every call whose nodes the session's node map knows succeeds with that effect. -/
namespace Arras4.Node

/-- The outputs of `parseDestinationAddressLists`, `aIpcLists` by computation id and `aNodeLists`
by node id. -/
structure DestinationLists where
  ipcLists : UuidMap (List Address)
  nodeLists : UuidMap (List Address)
  toClient : Bool

def parseDestination (localNodeId : Uuid) (lists : DestinationLists) (address : Address) :
    DestinationLists :=
  if address.node = Uuid.null then { lists with toClient := true }
  else if address.node = localNodeId ∧ address.computation ≠ Uuid.null then
    { lists with ipcLists := lists.ipcLists.push address.computation address }
  else if address.node ≠ localNodeId then
    { lists with nodeLists := lists.nodeLists.push address.node address }
  else lists

/-- `parseDestinationAddressLists`. An address naming this node with a null computation lands
in no list. -/
def parseDestinationAddressLists (localNodeId : Uuid) (aTo : List Address) : DestinationLists :=
  aTo.foldl (parseDestination localNodeId) ⟨[], [], false⟩

/-- The addresses `parseDestinationAddressLists` files under computation `c`. -/
def ipcAddress (localNodeId c : Uuid) (address : Address) : Bool :=
  address.node ≠ Uuid.null ∧ address.node = localNodeId ∧ address.computation ≠ Uuid.null ∧
    address.computation = c

/-- The addresses `parseDestinationAddressLists` files under remote node `m`. -/
def nodeAddress (localNodeId m : Uuid) (address : Address) : Bool :=
  address.node ≠ Uuid.null ∧ address.node ≠ localNodeId ∧ address.node = m

section Parse

variable (localNodeId : Uuid)

theorem parseDestination_toClient (lists : DestinationLists) (address : Address) :
    (parseDestination localNodeId lists address).toClient =
      (lists.toClient || decide (address.node = Uuid.null)) := by
  unfold parseDestination
  split_ifs <;> simp_all

theorem parseDestination_ipcLists (lists : DestinationLists) (address : Address) (c : Uuid) :
    ((parseDestination localNodeId lists address).ipcLists.find c).getD [] =
      (lists.ipcLists.find c).getD [] ++ [address].filter (ipcAddress localNodeId c) := by
  unfold parseDestination
  by_cases same : c = address.computation
  · subst same
    split_ifs <;> simp_all [ipcAddress]
  · have other : address.computation ≠ c := Ne.symm same
    split_ifs <;> simp_all [ipcAddress]

theorem parseDestination_nodeLists (lists : DestinationLists) (address : Address) (m : Uuid) :
    ((parseDestination localNodeId lists address).nodeLists.find m).getD [] =
      (lists.nodeLists.find m).getD [] ++ [address].filter (nodeAddress localNodeId m) := by
  unfold parseDestination
  by_cases same : m = address.node
  · subst same
    split_ifs <;> simp_all [nodeAddress]
  · have other : address.node ≠ m := Ne.symm same
    split_ifs <;> simp_all [nodeAddress]

theorem parseDestination_ipcLists_isSome (lists : DestinationLists) (address : Address) (c : Uuid) :
    ((parseDestination localNodeId lists address).ipcLists.find c).isSome =
      ((lists.ipcLists.find c).isSome || ipcAddress localNodeId c address) := by
  unfold parseDestination
  by_cases same : c = address.computation
  · subst same
    split_ifs <;> simp_all [ipcAddress]
  · have other : address.computation ≠ c := Ne.symm same
    split_ifs <;> simp_all [ipcAddress]

theorem parseDestination_nodeLists_isSome (lists : DestinationLists) (address : Address) (m : Uuid) :
    ((parseDestination localNodeId lists address).nodeLists.find m).isSome =
      ((lists.nodeLists.find m).isSome || nodeAddress localNodeId m address) := by
  unfold parseDestination
  by_cases same : m = address.node
  · subst same
    split_ifs <;> simp_all [nodeAddress]
  · have other : address.node ≠ m := Ne.symm same
    split_ifs <;> simp_all [nodeAddress]

theorem parseDestination_ordered {lists : DestinationLists} (ipcOrdered : lists.ipcLists.Ordered)
    (nodeOrdered : lists.nodeLists.Ordered) (address : Address) :
    (parseDestination localNodeId lists address).ipcLists.Ordered ∧
      (parseDestination localNodeId lists address).nodeLists.Ordered := by
  unfold parseDestination
  split_ifs
  exacts [⟨ipcOrdered, nodeOrdered⟩, ⟨ipcOrdered.push _ _, nodeOrdered⟩,
    ⟨ipcOrdered, nodeOrdered.push _ _⟩, ⟨ipcOrdered, nodeOrdered⟩]

/-- What the whole loop of `parseDestinationAddressLists` collects, from any starting lists. -/
structure Parsed (start : DestinationLists) (aTo : List Address) (lists : DestinationLists) :
    Prop where
  toClient : lists.toClient = (start.toClient || aTo.any (·.node = Uuid.null))
  ipcLists : ∀ c, (lists.ipcLists.find c).getD [] =
    (start.ipcLists.find c).getD [] ++ aTo.filter (ipcAddress localNodeId c)
  nodeLists : ∀ m, (lists.nodeLists.find m).getD [] =
    (start.nodeLists.find m).getD [] ++ aTo.filter (nodeAddress localNodeId m)
  ipcKeys : ∀ c, (lists.ipcLists.find c).isSome =
    ((start.ipcLists.find c).isSome || aTo.any (ipcAddress localNodeId c))
  nodeKeys : ∀ m, (lists.nodeLists.find m).isSome =
    ((start.nodeLists.find m).isSome || aTo.any (nodeAddress localNodeId m))
  ordered : start.ipcLists.Ordered → start.nodeLists.Ordered →
    lists.ipcLists.Ordered ∧ lists.nodeLists.Ordered

theorem foldl_parseDestination (aTo : List Address) (start : DestinationLists) :
    Parsed localNodeId start aTo (aTo.foldl (parseDestination localNodeId) start) := by
  induction aTo generalizing start with
  | nil => exact ⟨by simp, by simp, by simp, by simp, by simp, fun i n => ⟨i, n⟩⟩
  | cons address rest ih =>
    have next := ih (parseDestination localNodeId start address)
    refine ⟨?_, fun c => ?_, fun m => ?_, fun c => ?_, fun m => ?_, fun i n => ?_⟩
    · simp [next.toClient, parseDestination_toClient, Bool.or_assoc]
    · simp [next.ipcLists, parseDestination_ipcLists, List.filter_cons]
      split <;> simp
    · simp [next.nodeLists, parseDestination_nodeLists, List.filter_cons]
      split <;> simp
    · simp [next.ipcKeys, parseDestination_ipcLists_isSome, Bool.or_assoc]
    · simp [next.nodeKeys, parseDestination_nodeLists_isSome, Bool.or_assoc]
    · obtain ⟨i', n'⟩ := parseDestination_ordered localNodeId i n address
      exact next.ordered i' n'

theorem parseDestinationAddressLists_parsed (aTo : List Address) :
    Parsed localNodeId ⟨[], [], false⟩ aTo (parseDestinationAddressLists localNodeId aTo) :=
  foldl_parseDestination localNodeId aTo _

end Parse

namespace ThreadedNodeRouter

variable (router : ThreadedNodeRouter)

/-- `sendToLocalClient`: queue to the client, or stash for it while it has not connected. -/
def sendToLocalClient (sessionId : Uuid) (envelope : Envelope) : ThreadedNodeRouter :=
  match router.findClientPeer sessionId with
  | some client => router.queueEnvelope client envelope
  | none => router.stashEnvelope sessionId envelope

/-- `sendToLocalComputation`: a computation with no IPC endpoint is logged and dropped. -/
def sendToLocalComputation (sessionId computationId : Uuid) (envelope : Envelope) :
    ThreadedNodeRouter :=
  match router.findIpcPeer computationId with
  | some dest => router.queueEnvelope dest envelope
  | none => { router with errors := router.errors ++ [.computationNotFound sessionId computationId] }

/-- The body of `routeMessage`'s loop over remote nodes. `getNodeInfo` throws for a node the
map lacks; `trackNode` returns the new endpoint, so the `nodeNotFound` branch is never taken. -/
def routeToNode (envelope : Envelope) (nodeMap : SessionNodeMap) (entry : Uuid × List Address) :
    Except KeyError ThreadedNodeRouter :=
  match router.findNodePeer entry.1 with
  | some dest => .ok (router.queueEnvelope dest (envelope.withTo entry.2))
  | none =>
    match nodeMap.getNodeInfo entry.1 with
    | .error failure => .error failure
    | .ok _ =>
      let (created, ep) := router.newEndpoint .node entry.1 Uuid.null
      .ok ((created.trackNode entry.1 ep).queueEnvelope ep (envelope.withTo entry.2))

/-- The `if (toClient)` block of `routeMessage`: on the entry node the client gets the envelope
here; elsewhere the client address joins the entry node's list. -/
def routeToClient (envelope : Envelope) (routingData : SessionRoutingData) (lists : DestinationLists) :
    ThreadedNodeRouter × UuidMap (List Address) :=
  if lists.toClient then
    if routingData.isEntryNode then
      (router.sendToLocalClient routingData.sessionId envelope, lists.nodeLists)
    else (router, lists.nodeLists.push routingData.nodeMap.getEntryNodeId
      ⟨routingData.sessionId, Uuid.null, Uuid.null⟩)
  else (router, lists.nodeLists)

section Lemmas

variable {router}

theorem sendToLocalClient_queueOf (sessionId : Uuid) (envelope : Envelope) (h : Nat) :
    (router.sendToLocalClient sessionId envelope).queueOf h = router.queueOf h ++
      if router.findClientPeer sessionId = some h ∧ h < router.endpoints.length then [envelope]
      else [] := by
  unfold sendToLocalClient
  cases found : router.findClientPeer sessionId with
  | some client =>
    by_cases same : h = client
    · subst same
      simp [queueOf_queueEnvelope]
    · simp [queueOf_queueEnvelope, same, Ne.symm same]
  | none => simp [stashEnvelope, found, queueOf]

theorem sendToLocalClient_stashed (sessionId : Uuid) (envelope : Envelope) (s : Uuid) :
    (router.sendToLocalClient sessionId envelope).stashed s = router.stashed s ++
      if s = sessionId ∧ router.findClientPeer sessionId = none then [envelope] else [] := by
  unfold sendToLocalClient
  cases found : router.findClientPeer sessionId with
  | some client => simp [stashed]
  | none => by_cases same : s = sessionId <;> simp [stashEnvelope, found, stashed, same]

theorem sendToLocalClient_tables (sessionId : Uuid) (envelope : Envelope) :
    let sent := router.sendToLocalClient sessionId envelope
    sent.peerManager.clients = router.peerManager.clients ∧
      sent.peerManager.nodes = router.peerManager.nodes ∧
      sent.peerManager.ipc = router.peerManager.ipc ∧
      sent.endpoints.length = router.endpoints.length ∧
      sent.nodeId = router.nodeId ∧ sent.routingTable = router.routingTable := by
  unfold sendToLocalClient
  cases found : router.findClientPeer sessionId with
  | some client => simp
  | none => simp [stashEnvelope, found]

theorem sendToLocalComputation_queueOf (sessionId computationId : Uuid) (envelope : Envelope)
    (h : Nat) :
    (router.sendToLocalComputation sessionId computationId envelope).queueOf h = router.queueOf h ++
      if router.findIpcPeer computationId = some h ∧ h < router.endpoints.length then [envelope]
      else [] := by
  unfold sendToLocalComputation
  cases found : router.findIpcPeer computationId with
  | some dest =>
    by_cases same : h = dest
    · subst same
      simp [queueOf_queueEnvelope]
    · simp [queueOf_queueEnvelope, same, Ne.symm same]
  | none => simp [queueOf]

theorem sendToLocalComputation_peerManager (sessionId computationId : Uuid) (envelope : Envelope) :
    let sent := router.sendToLocalComputation sessionId computationId envelope
    sent.peerManager = router.peerManager ∧ sent.endpoints.length = router.endpoints.length ∧
      sent.nodeId = router.nodeId ∧ sent.routingTable = router.routingTable := by
  unfold sendToLocalComputation
  split <;> simp

theorem foldl_sendToLocalComputation (sessionId : Uuid) (envelope : Envelope)
    (entries : List (Uuid × List Address)) (router : ThreadedNodeRouter) :
    let sent := entries.foldl (fun r entry => r.sendToLocalComputation sessionId entry.1 envelope) router
    sent.peerManager = router.peerManager ∧ sent.endpoints.length = router.endpoints.length ∧
      (sent.nodeId = router.nodeId ∧ sent.routingTable = router.routingTable) ∧
      ∀ h, sent.queueOf h = router.queueOf h ++ entries.filterMap fun entry =>
        if router.findIpcPeer entry.1 = some h ∧ h < router.endpoints.length then some envelope
        else none := by
  induction entries generalizing router with
  | nil => simp
  | cons entry rest ih =>
    obtain ⟨tables, length, node, routing⟩ := @sendToLocalComputation_peerManager router
      sessionId entry.1 envelope
    obtain ⟨tables', length', ⟨node', routing'⟩, queues⟩ :=
      ih (router.sendToLocalComputation sessionId entry.1 envelope)
    refine ⟨tables'.trans tables, length'.trans length, ⟨node'.trans node, routing'.trans routing⟩,
      fun h => ?_⟩
    rw [List.foldl_cons, queues, sendToLocalComputation_queueOf]
    simp only [findIpcPeer, tables, length, List.filterMap_cons, List.append_assoc]
    split <;> simp_all

/-- What the `if (toClient)` block does, whichever branch it takes. -/
structure ClientRouted (router : ThreadedNodeRouter) (envelope : Envelope) (data : SessionRoutingData)
    (lists : DestinationLists) (result : ThreadedNodeRouter × UuidMap (List Address)) : Prop where
  queues : ∀ h, result.1.queueOf h = router.queueOf h ++
    if lists.toClient ∧ data.isEntryNode ∧ router.findClientPeer data.sessionId = some h ∧
      h < router.endpoints.length then [envelope] else []
  stashed : ∀ s, result.1.stashed s = router.stashed s ++
    if lists.toClient ∧ data.isEntryNode ∧ s = data.sessionId ∧
      router.findClientPeer data.sessionId = none then [envelope] else []
  tables : result.1.peerManager.clients = router.peerManager.clients ∧
    result.1.peerManager.nodes = router.peerManager.nodes ∧
    result.1.peerManager.ipc = router.peerManager.ipc ∧
    result.1.endpoints.length = router.endpoints.length ∧
    result.1.nodeId = router.nodeId ∧ result.1.routingTable = router.routingTable
  nodeLists : ∀ m, (result.2.find m).getD [] = (lists.nodeLists.find m).getD [] ++
    if lists.toClient ∧ ¬data.isEntryNode ∧ m = data.nodeMap.getEntryNodeId then
      [⟨data.sessionId, Uuid.null, Uuid.null⟩] else []
  nodeKeys : ∀ m, (result.2.find m).isSome = ((lists.nodeLists.find m).isSome ||
    decide (lists.toClient ∧ ¬data.isEntryNode ∧ m = data.nodeMap.getEntryNodeId))
  ordered : lists.nodeLists.Ordered → result.2.Ordered

theorem routeToClient_routed (router : ThreadedNodeRouter) (envelope : Envelope)
    (data : SessionRoutingData) (lists : DestinationLists) :
    ClientRouted router envelope data lists (router.routeToClient envelope data lists) := by
  unfold routeToClient
  by_cases toClient : lists.toClient <;> by_cases entry : data.isEntryNode
  · simp only [toClient, entry, if_true]
    refine ⟨fun h => by simp [sendToLocalClient_queueOf, entry, toClient],
      fun s => by simp [sendToLocalClient_stashed, entry, toClient], sendToLocalClient_tables _ _,
      fun m => by simp [entry], fun m => by simp [entry], id⟩
  · simp only [toClient, entry, if_true]
    refine ⟨fun h => by simp [entry], fun s => by simp [entry], ⟨rfl, rfl, rfl, rfl, rfl, rfl⟩,
      fun m => ?_, fun m => by simp [entry, toClient, Bool.or_comm], fun ordered => ordered.push _ _⟩
    by_cases same : m = data.nodeMap.getEntryNodeId <;> simp [entry, same, toClient]
  all_goals
    simp only [toClient, if_false]
    exact ⟨fun h => by simp [toClient], fun s => by simp [toClient], ⟨rfl, rfl, rfl, rfl, rfl, rfl⟩,
      fun m => by simp [toClient], fun m => by simp [toClient], id⟩

theorem routeToNode_of_tracked {envelope : Envelope} {nodeMap : SessionNodeMap}
    {entry : Uuid × List Address} {dest : Nat} (tracked : router.findNodePeer entry.1 = some dest) :
    router.routeToNode envelope nodeMap entry = .ok (router.queueEnvelope dest (envelope.withTo entry.2)) := by
  simp [routeToNode, tracked]

theorem routeToNode_of_untracked {envelope : Envelope} {nodeMap : SessionNodeMap}
    {entry : Uuid × List Address} (untracked : router.findNodePeer entry.1 = none)
    (known : nodeMap.Contains entry.1) :
    router.routeToNode envelope nodeMap entry =
      .ok ((((router.newEndpoint .node entry.1 Uuid.null).1.trackNode entry.1
        router.endpoints.length).queueEnvelope router.endpoints.length (envelope.withTo entry.2))) := by
  obtain ⟨info, found⟩ := SessionNodeMap.getNodeInfo_of_contains known
  simp [routeToNode, untracked, found]

/-- What the loop over the node lists does: one reduced copy per entry, to the node's existing
peer or to a peer created for it. -/
structure NodesRouted (router : ThreadedNodeRouter) (envelope : Envelope)
    (entries : List (Uuid × List Address)) (router' : ThreadedNodeRouter) : Prop where
  existing : ∀ h < router.endpoints.length, router'.queueOf h = router.queueOf h ++
    entries.filterMap fun entry =>
      if router.findNodePeer entry.1 = some h then some (envelope.withTo entry.2) else none
  created : ∀ entry ∈ entries, router.findNodePeer entry.1 = none → ∃ h,
    router'.findNodePeer entry.1 = some h ∧ router.endpoints.length ≤ h ∧
      router'.queueOf h = [envelope.withTo entry.2]
  onlyCreated : ∀ h, router.endpoints.length ≤ h → h < router'.endpoints.length →
    ∃ entry ∈ entries, router.findNodePeer entry.1 = none ∧ router'.findNodePeer entry.1 = some h
  kept : ∀ m, (m ∉ entries.map Prod.fst ∨ router.findNodePeer m ≠ none) →
    router'.findNodePeer m = router.findNodePeer m
  clients : router'.peerManager.clients = router.peerManager.clients
  ipc : router'.peerManager.ipc = router.peerManager.ipc
  pending : router'.peerManager.pendingEnvelopes = router.peerManager.pendingEnvelopes
  grows : router.endpoints.length ≤ router'.endpoints.length
  valid : ∀ m h, router'.findNodePeer m = some h → h < router'.endpoints.length
  fresh : ∀ k k' h, router.endpoints.length ≤ h → router'.findNodePeer k = some h →
    router'.findNodePeer k' = some h → k = k'
  frame : router'.nodeId = router.nodeId ∧ router'.routingTable = router.routingTable

theorem routeToNode_routed (envelope : Envelope) (nodeMap : SessionNodeMap)
    (valid : ∀ m h, router.findNodePeer m = some h → h < router.endpoints.length)
    {entry : Uuid × List Address} (reachable : router.findNodePeer entry.1 ≠ none ∨ nodeMap.Contains entry.1) :
    ∃ next, router.routeToNode envelope nodeMap entry = .ok next ∧
      NodesRouted router envelope [entry] next := by
  cases tracked : router.findNodePeer entry.1 with
  | some dest =>
    have bound := valid _ _ tracked
    refine ⟨_, routeToNode_of_tracked tracked, ⟨fun h _ => ?_, by simp [tracked], fun h low high => ?_,
      fun m _ => rfl, rfl, rfl, rfl, by simp, by simpa using valid,
      fun k _ h low found _ => ?_, rfl, rfl⟩⟩
    · by_cases same : h = dest
      · subst same
        simp [queueOf_queueEnvelope_of_lt bound, tracked]
      · simp [queueOf_queueEnvelope_of_lt bound, tracked, same, Ne.symm same]
    · simp at high
      omega
    · exact absurd (valid k h (by simpa using found)) (Nat.not_lt.mpr low)
  | none =>
    have known := reachable.resolve_left (by simp [tracked])
    refine ⟨_, routeToNode_of_untracked tracked known, ⟨fun h below => ?_, ?_, fun h low high => ?_,
      fun m other => ?_, rfl, rfl, rfl, by simp, fun m h found => ?_, fun k k' h low found found' => ?_,
      rfl, rfl⟩⟩
    · rw [queueOf_queueEnvelope, queueOf_trackNode, queueOf_newEndpoint]
      simp [Nat.ne_of_lt below, tracked]
    · intro e member _
      simp only [List.mem_singleton] at member
      subst member
      refine ⟨router.endpoints.length, by simp [findNodePeer_trackNode], le_refl _, ?_⟩
      rw [queueOf_queueEnvelope, queueOf_trackNode, queueOf_newEndpoint]
      simp
    · simp at high
      exact ⟨entry, by simp, tracked, by simp [findNodePeer_trackNode]; omega⟩
    · have : m ≠ entry.1 := by rintro rfl; simp [tracked] at other
      simp [findNodePeer_trackNode, this]
    · simp only [queueEnvelope_length, trackNode_endpoints, newEndpoint_length]
      rw [findNodePeer] at found
      simp only [queueEnvelope_peerManager] at found
      rw [← findNodePeer, findNodePeer_trackNode] at found
      split at found
      · simp at found
        omega
      · have := valid _ _ (by simpa [findNodePeer] using found)
        omega
    · simp only [queueEnvelope_findNodePeer, findNodePeer_trackNode, newEndpoint_findNodePeer]
        at found found'
      split_ifs at found found' with same same'
      · exact same.trans same'.symm
      · exact absurd (valid _ _ found') (Nat.not_lt.mpr low)
      · exact absurd (valid _ _ found) (Nat.not_lt.mpr low)
      · exact absurd (valid _ _ found) (Nat.not_lt.mpr low)

theorem NodesRouted.nil (valid : ∀ m h, router.findNodePeer m = some h → h < router.endpoints.length)
    (envelope : Envelope) : NodesRouted router envelope [] router :=
  ⟨fun _ _ => by simp, by simp, fun _ low high => absurd high (Nat.not_lt.mpr low), fun _ _ => rfl,
    rfl, rfl, rfl, le_refl _, valid, fun _ _ h low found _ => absurd (valid _ h found) (Nat.not_lt.mpr low),
    rfl, rfl⟩

theorem NodesRouted.old_of_lt {envelope : Envelope} {entries : List (Uuid × List Address)}
    {router' : ThreadedNodeRouter} (routed : NodesRouted router envelope entries router') {j : Uuid}
    {h : Nat} (found : router'.findNodePeer j = some h) (early : h < router.endpoints.length) :
    router.findNodePeer j = some h := by
  by_cases untracked : router.findNodePeer j = none
  · by_cases inside : j ∈ entries.map Prod.fst
    · obtain ⟨e, member, rfl⟩ := List.mem_map.mp inside
      obtain ⟨h', found', low, _⟩ := routed.created e member untracked
      rw [found] at found'
      cases found'
      omega
    · rw [← routed.kept j (.inl inside)]
      exact found
  · rw [← routed.kept j (.inr untracked)]
    exact found

theorem NodesRouted.cons {envelope : Envelope} {entry : Uuid × List Address}
    {rest : List (Uuid × List Address)} {next router' : ThreadedNodeRouter}
    (valid : ∀ m h, router.findNodePeer m = some h → h < router.endpoints.length)
    (fresh : entry.1 ∉ rest.map Prod.fst)
    (first : NodesRouted router envelope [entry] next) (later : NodesRouted next envelope rest router') :
    NodesRouted router envelope (entry :: rest) router' := by
  have restKept : ∀ e ∈ rest, next.findNodePeer e.1 = router.findNodePeer e.1 := by
    intro e member
    refine first.kept _ (.inl fun inside => ?_)
    have same : e.1 = entry.1 := by simpa using inside
    exact fresh (same ▸ List.mem_map_of_mem Prod.fst member)
  have entryKept : router'.findNodePeer entry.1 = next.findNodePeer entry.1 :=
    later.kept _ (.inl fresh)
  refine ⟨fun h below => ?_, fun e member untracked => ?_, fun h low high => ?_, fun m other => ?_,
    later.clients.trans first.clients, later.ipc.trans first.ipc, later.pending.trans first.pending,
    first.grows.trans later.grows, later.valid, fun k k' h low found found' => ?_,
    later.frame.1.trans first.frame.1, later.frame.2.trans first.frame.2⟩
  · have same : rest.filterMap (fun e =>
          if next.findNodePeer e.1 = some h then some (envelope.withTo e.2) else none) =
        rest.filterMap (fun e =>
          if router.findNodePeer e.1 = some h then some (envelope.withTo e.2) else none) :=
      List.filterMap_congr fun e member => by rw [restKept e member]
    rw [later.existing h (Nat.lt_of_lt_of_le below first.grows), first.existing h below, same]
    simp only [List.filterMap_cons, List.filterMap_nil]
    split <;> simp
  · by_cases same : e = entry
    · subst same
      obtain ⟨h, found, low, queue⟩ := first.created e (by simp) untracked
      refine ⟨h, entryKept.trans found, low, ?_⟩
      rw [later.existing h (first.valid _ _ found), queue]
      simp only [List.append_right_eq_self, List.filterMap_eq_nil_iff]
      intro e' member'
      rw [restKept e' member']
      split
      · rename_i tracked
        exact absurd (valid _ _ tracked) (Nat.not_lt.mpr low)
      · rfl
    · have member : e ∈ rest := (List.mem_cons.mp member).resolve_left same
      obtain ⟨h, found, low, queue⟩ := later.created e member ((restKept e member).trans untracked)
      exact ⟨h, found, first.grows.trans low, queue⟩
  · by_cases early : h < next.endpoints.length
    · obtain ⟨e, member, untracked, found⟩ := first.onlyCreated h low early
      simp only [List.mem_singleton] at member
      subst member
      exact ⟨e, by simp, untracked, entryKept.trans found⟩
    · obtain ⟨e, member, untracked, found⟩ := later.onlyCreated h (Nat.not_lt.mp early) high
      exact ⟨e, List.mem_cons_of_mem _ member, (restKept e member).symm.trans untracked, found⟩
  · have firstKept : next.findNodePeer m = router.findNodePeer m := by
      refine first.kept m ?_
      rcases other with outside | tracked
      · exact .inl fun inside => outside (by simp_all)
      · exact .inr tracked
    rw [later.kept m ?_, firstKept]
    rcases other with outside | tracked
    · exact .inl fun inside => outside (List.mem_cons_of_mem _ inside)
    · exact .inr (firstKept ▸ tracked)
  · by_cases early : h < next.endpoints.length
    · exact first.fresh k k' h low (later.old_of_lt found early) (later.old_of_lt found' early)
    · exact later.fresh k k' h (Nat.not_lt.mp early) found found'

/-- The whole node loop of `routeMessage`, for distinct node ids that each have a peer or are in
the node map: it never throws. -/
theorem foldlM_routeToNode (envelope : Envelope) (nodeMap : SessionNodeMap)
    (entries : List (Uuid × List Address)) (nodup : (entries.map Prod.fst).Nodup)
    (router : ThreadedNodeRouter)
    (valid : ∀ m h, router.findNodePeer m = some h → h < router.endpoints.length)
    (reachable : ∀ entry ∈ entries, router.findNodePeer entry.1 ≠ none ∨ nodeMap.Contains entry.1) :
    ∃ router', entries.foldlM (fun r entry => r.routeToNode envelope nodeMap entry) router =
      .ok router' ∧ NodesRouted router envelope entries router' := by
  induction entries generalizing router with
  | nil => exact ⟨router, rfl, NodesRouted.nil valid envelope⟩
  | cons entry rest ih =>
    simp only [List.map_cons, List.nodup_cons] at nodup
    obtain ⟨next, step, first⟩ := routeToNode_routed envelope nodeMap valid (reachable entry (by simp))
    have restReachable : ∀ e ∈ rest, next.findNodePeer e.1 ≠ none ∨ nodeMap.Contains e.1 := by
      intro e member
      rw [first.kept _ (.inl fun inside =>
        nodup.1 (List.mem_singleton.mp inside ▸ List.mem_map_of_mem Prod.fst member))]
      exact reachable e (List.mem_cons_of_mem _ member)
    obtain ⟨router', fold, later⟩ := ih nodup.2 next first.valid restReachable
    refine ⟨router', ?_, first.cons valid nodup.1 later⟩
    simp only [List.foldlM_cons, step]
    exact fold

theorem routeToNode_findNodePeer_of_ne {envelope : Envelope} {nodeMap : SessionNodeMap}
    {entry : Uuid × List Address} {next : ThreadedNodeRouter}
    (routed : router.routeToNode envelope nodeMap entry = .ok next) {k : Uuid} (other : k ≠ entry.1) :
    next.findNodePeer k = router.findNodePeer k := by
  unfold routeToNode at routed
  split at routed
  · cases routed; simp
  · split at routed
    · cases routed
    · cases routed; simp [findNodePeer_trackNode, other]; rfl

theorem routeToNode_of_unreachable {envelope : Envelope} {nodeMap : SessionNodeMap}
    {entry : Uuid × List Address} (untracked : router.findNodePeer entry.1 = none)
    (unknown : ¬ nodeMap.Contains entry.1) :
    router.routeToNode envelope nodeMap entry = .error ⟨entry.1⟩ := by
  have missing : nodeMap.map.find entry.1 = none := by
    simpa [SessionNodeMap.Contains] using unknown
  simp [routeToNode, untracked, SessionNodeMap.getNodeInfo, missing]

/-- The node loop throws as soon as it meets a node it can reach neither way; the nodes before it
never track that one. -/
theorem foldlM_routeToNode_error (envelope : Envelope) (nodeMap : SessionNodeMap) {m : Uuid}
    (unknown : ¬ nodeMap.Contains m) (entries : List (Uuid × List Address))
    (member : m ∈ entries.map Prod.fst) (router : ThreadedNodeRouter)
    (untracked : router.findNodePeer m = none) :
    ∃ failure, entries.foldlM (fun r entry => r.routeToNode envelope nodeMap entry) router =
      .error failure := by
  induction entries generalizing router with
  | nil => cases member
  | cons entry rest ih =>
    rw [List.foldlM_cons]
    by_cases here : entry.1 = m
    · subst here
      exact ⟨_, by rw [routeToNode_of_unreachable untracked unknown]; rfl⟩
    · have later : m ∈ rest.map Prod.fst := by
        simpa [Ne.symm here] using member
      cases routed : router.routeToNode envelope nodeMap entry with
      | error failure => exact ⟨failure, rfl⟩
      | ok next =>
        exact ih later next (by rw [routeToNode_findNodePeer_of_ne routed (Ne.symm here)]; exact untracked)

end Lemmas

end ThreadedNodeRouter

open ThreadedNodeRouter in
def routeMessage (envelope : Envelope) (routingData : SessionRoutingData)
    (router : ThreadedNodeRouter) : Except KeyError ThreadedNodeRouter :=
  let lists := parseDestinationAddressLists routingData.nodeId envelope.destinations
  let (router, nodeLists) := router.routeToClient envelope routingData lists
  let router := lists.ipcLists.foldl
    (fun r entry => r.sendToLocalComputation routingData.sessionId entry.1 envelope) router
  nodeLists.foldlM (fun r entry => r.routeToNode envelope routingData.nodeMap entry) router

section Specification

/-! What one call of `routeMessage` sends, stated over the destination list `aTo`, the local node
`n`, the entry node `e` and the session `s`. A null node addresses the session's client. -/

def addressesClient (aTo : List Address) : Bool := aTo.any (·.node = Uuid.null)

def localComputations (aTo : List Address) (n : Uuid) : List Uuid :=
  ((aTo.filter fun a => a.node = n ∧ a.computation ≠ Uuid.null).map (·.computation)).dedup

/-- The distinct remote nodes that get a copy: every node of the list other than `n`, and `e`
when the client is addressed away from it. -/
def remoteNodes (aTo : List Address) (n e : Uuid) : List Uuid :=
  ((aTo.filter fun a => a.node ≠ Uuid.null ∧ a.node ≠ n).map (·.node) ++
    if addressesClient aTo ∧ n ≠ e then [e] else []).dedup

/-- The destinations of node `m`'s copy: its addresses in order, then the client address when `m`
is the entry node and the client is addressed from elsewhere. -/
def reducedDestinations (aTo : List Address) (s n e m : Uuid) : List Address :=
  aTo.filter (·.node = m) ++
    if addressesClient aTo ∧ n ≠ e ∧ m = e then [⟨s, Uuid.null, Uuid.null⟩] else []

/-- The copies `routeMessage` queues on `router`'s endpoint `h`: the client's, one per local
computation whose IPC endpoint is `h`, one per remote node whose node peer is `h`. -/
def expectedCopies (router : ThreadedNodeRouter) (envelope : Envelope) (data : SessionRoutingData)
    (h : Nat) : List Envelope :=
  let aTo := envelope.destinations
  let e := data.nodeMap.getEntryNodeId
  (if data.nodeId = e ∧ addressesClient aTo ∧ router.findClientPeer data.sessionId = some h then
    [envelope] else []) ++
  (localComputations aTo data.nodeId).filterMap (fun c =>
    if router.findIpcPeer c = some h then some envelope else none) ++
  (remoteNodes aTo data.nodeId e).filterMap (fun m =>
    if router.findNodePeer m = some h then
      some { envelope with destinations := reducedDestinations aTo data.sessionId data.nodeId e m }
    else none)

theorem mem_localComputations {aTo : List Address} {n c : Uuid} :
    c ∈ localComputations aTo n ↔
      ∃ a ∈ aTo, a.node = n ∧ a.computation ≠ Uuid.null ∧ a.computation = c := by
  simp [localComputations, and_assoc]

theorem mem_remoteNodes {aTo : List Address} {n e m : Uuid} :
    m ∈ remoteNodes aTo n e ↔ (∃ a ∈ aTo, a.node ≠ Uuid.null ∧ a.node ≠ n ∧ a.node = m) ∨
      (addressesClient aTo ∧ n ≠ e ∧ m = e) := by
  unfold remoteNodes
  by_cases client : addressesClient aTo = true ∧ n ≠ e
  · simp [client, and_assoc]
  · simp only [client, if_false, List.append_nil]
    simp only [List.mem_dedup, List.mem_map, List.mem_filter, decide_eq_true_eq]
    constructor
    · rintro ⟨a, ⟨member, notNull, other⟩, rfl⟩
      exact .inl ⟨a, member, notNull, other, rfl⟩
    · rintro (⟨a, member, notNull, other, rfl⟩ | ⟨addressed, other, _⟩)
      · exact ⟨a, ⟨member, notNull, other⟩, rfl⟩
      · exact absurd ⟨addressed, other⟩ client

theorem remote_of_mem_remoteNodes {aTo : List Address} {n e m : Uuid}
    (entryNode : n ≠ e → addressesClient aTo = true → e ≠ Uuid.null)
    (member : m ∈ remoteNodes aTo n e) : m ≠ Uuid.null ∧ m ≠ n := by
  rcases mem_remoteNodes.mp member with ⟨a, _, notNull, other, rfl⟩ | ⟨addressed, other, rfl⟩
  · exact ⟨notNull, other⟩
  · exact ⟨entryNode other addressed, Ne.symm other⟩

theorem filter_nodeAddress {n m : Uuid} (notNull : m ≠ Uuid.null) (other : m ≠ n)
    (aTo : List Address) : aTo.filter (nodeAddress n m) = aTo.filter (·.node = m) :=
  List.filter_congr fun a _ => by
    by_cases same : a.node = m
    · simp [nodeAddress, same, notNull, other]
    · simp [nodeAddress, same]

end Specification

section Routed

open ThreadedNodeRouter

variable (router : ThreadedNodeRouter) (envelope : Envelope) (data : SessionRoutingData)

theorem parseDestinationAddressLists_toClient (localNodeId : Uuid) (aTo : List Address) :
    (parseDestinationAddressLists localNodeId aTo).toClient = addressesClient aTo :=
  (parseDestinationAddressLists_parsed localNodeId aTo).toClient

theorem ipcLists_keys_perm {n : Uuid} (localNode : n ≠ Uuid.null) (aTo : List Address) :
    (parseDestinationAddressLists n aTo).ipcLists.keys.Perm (localComputations aTo n) := by
  have parsed := parseDestinationAddressLists_parsed n aTo
  refine (parsed.ordered (by simp [UuidMap.Ordered, UuidMap.keys])
    (by simp [UuidMap.Ordered, UuidMap.keys])).1.keys_perm (List.nodup_dedup _) fun c => ?_
  rw [parsed.ipcKeys, mem_localComputations]
  constructor
  · simp only [UuidMap.find_nil, Option.isSome_none, Bool.false_or, List.any_eq_true, ipcAddress,
      decide_eq_true_eq]
    exact fun ⟨a, member, _, rest⟩ => ⟨a, member, rest⟩
  · rintro ⟨a, member, here, rest⟩
    simp only [UuidMap.find_nil, Option.isSome_none, Bool.false_or, List.any_eq_true, ipcAddress,
      decide_eq_true_eq]
    exact ⟨a, member, here ▸ localNode, here, rest⟩

theorem routeToClient_nodeLists_isSome (m : Uuid) :
    ((router.routeToClient envelope data
      (parseDestinationAddressLists data.nodeId envelope.destinations)).2.find m).isSome ↔
        m ∈ remoteNodes envelope.destinations data.nodeId data.nodeMap.getEntryNodeId := by
  rw [(routeToClient_routed router envelope data _).nodeKeys,
    (parseDestinationAddressLists_parsed data.nodeId envelope.destinations).nodeKeys,
    mem_remoteNodes, parseDestinationAddressLists_toClient, data.isEntryNode_eq_decide]
  simp [nodeAddress]

/-- The node lists the loop of `routeMessage` goes over: one entry per remote node, holding its
reduced destinations. -/
theorem routeToClient_nodeLists
    (entryNode : data.nodeId ≠ data.nodeMap.getEntryNodeId →
      addressesClient envelope.destinations = true → data.nodeMap.getEntryNodeId ≠ Uuid.null) :
    let nodeLists := (router.routeToClient envelope data
      (parseDestinationAddressLists data.nodeId envelope.destinations)).2
    nodeLists.keys.Perm
        (remoteNodes envelope.destinations data.nodeId data.nodeMap.getEntryNodeId) ∧
      ∀ m v, nodeLists.find m = some v → v = reducedDestinations envelope.destinations
        data.sessionId data.nodeId data.nodeMap.getEntryNodeId m := by
  intro nodeLists
  have parsed := parseDestinationAddressLists_parsed data.nodeId envelope.destinations
  have client := routeToClient_routed router envelope data
    (parseDestinationAddressLists data.nodeId envelope.destinations)
  have toClient := parseDestinationAddressLists_toClient data.nodeId envelope.destinations
  have keys := routeToClient_nodeLists_isSome router envelope data
  have ordered := client.ordered (parsed.ordered (by simp [UuidMap.Ordered, UuidMap.keys])
    (by simp [UuidMap.Ordered, UuidMap.keys])).2
  refine ⟨ordered.keys_perm (List.nodup_dedup _) keys, fun m v found => ?_⟩
  obtain ⟨notNull, other⟩ := remote_of_mem_remoteNodes entryNode ((keys m).mp (by simp [found]))
  have reduced := client.nodeLists m
  rw [found, Option.getD_some, parsed.nodeLists, UuidMap.find_nil, Option.getD_none, List.nil_append,
    filter_nodeAddress notNull other, toClient, data.isEntryNode_eq_decide] at reduced
  rw [reduced, reducedDestinations]
  simp

/-- What one call of `routeMessage` does to the router: an endpoint that existed gets exactly
`expectedCopies` after what it held, the client's copy is stashed while the client is not
connected, a remote node with no peer gets a new one holding just its copy, and every new endpoint
is such a peer; nothing else changes. -/
structure Routed (router' : ThreadedNodeRouter) : Prop where
  existing : ∀ h < router.endpoints.length, ∃ added, router'.queueOf h = router.queueOf h ++ added ∧
    added.Perm (expectedCopies router envelope data h)
  stashed : ∀ s, router'.stashed s = router.stashed s ++
    if s = data.sessionId ∧ data.nodeId = data.nodeMap.getEntryNodeId ∧
      addressesClient envelope.destinations ∧ router.findClientPeer s = none then [envelope] else []
  created : ∀ m ∈ remoteNodes envelope.destinations data.nodeId data.nodeMap.getEntryNodeId,
    router.findNodePeer m = none → ∃ h, router'.findNodePeer m = some h ∧
      router.endpoints.length ≤ h ∧ router'.queueOf h = [{ envelope with
        destinations := reducedDestinations envelope.destinations data.sessionId data.nodeId
          data.nodeMap.getEntryNodeId m }]
  onlyCreated : ∀ h, router.endpoints.length ≤ h → h < router'.endpoints.length →
    ∃ m ∈ remoteNodes envelope.destinations data.nodeId data.nodeMap.getEntryNodeId,
      router.findNodePeer m = none ∧ router'.findNodePeer m = some h
  grows : router.endpoints.length ≤ router'.endpoints.length
  clients : router'.peerManager.clients = router.peerManager.clients
  ipc : router'.peerManager.ipc = router.peerManager.ipc
  nodes : ∀ m, (m ∉ remoteNodes envelope.destinations data.nodeId data.nodeMap.getEntryNodeId ∨
    router.findNodePeer m ≠ none) → router'.findNodePeer m = router.findNodePeer m
  valid : router'.Valid
  frame : router'.nodeId = router.nodeId ∧ router'.routingTable = router.routingTable

/-- Every call whose remote nodes each have a peer or are in the node map succeeds, with the
effect `Routed`. -/
theorem routeMessage_routed (valid : router.Valid) (localNode : data.nodeId ≠ Uuid.null)
    (entryNode : data.nodeId ≠ data.nodeMap.getEntryNodeId →
      addressesClient envelope.destinations = true → data.nodeMap.getEntryNodeId ≠ Uuid.null)
    (reachable : ∀ m ∈ remoteNodes envelope.destinations data.nodeId data.nodeMap.getEntryNodeId,
      router.findNodePeer m ≠ none ∨ data.nodeMap.Contains m) :
    ∃ router', routeMessage envelope data router = .ok router' ∧
      Routed router envelope data router' := by
  have toClient := parseDestinationAddressLists_toClient data.nodeId envelope.destinations
  have ipcKeys := ipcLists_keys_perm localNode envelope.destinations
  have client := routeToClient_routed router envelope data
    (parseDestinationAddressLists data.nodeId envelope.destinations)
  obtain ⟨nodeKeys, nodeValues⟩ := routeToClient_nodeLists router envelope data entryNode
  set lists := parseDestinationAddressLists data.nodeId envelope.destinations
  set first := router.routeToClient envelope data lists
  obtain ⟨clientsSame, nodesSame, ipcSame, lengthSame, nodeIdSame, routingSame⟩ := client.tables
  obtain ⟨ipcFrame, ipcLength, ⟨ipcNode, ipcRouting⟩, ipcQueues⟩ :=
    foldl_sendToLocalComputation data.sessionId envelope lists.ipcLists first.1
  set second := lists.ipcLists.foldl
    (fun r entry => r.sendToLocalComputation data.sessionId entry.1 envelope) first.1
  have secondLength : second.endpoints.length = router.endpoints.length :=
    ipcLength.trans lengthSame
  have secondNodes : second.findNodePeer = router.findNodePeer := by
    funext m
    simp [findNodePeer, ipcFrame, nodesSame]
  have firstIpc : first.1.findIpcPeer = router.findIpcPeer := by
    funext c
    simp [findIpcPeer, ipcSame]
  obtain ⟨router', fold, nodes⟩ := foldlM_routeToNode envelope data.nodeMap first.2
    (nodeKeys.nodup_iff.mpr (List.nodup_dedup _)) second
    (by rw [secondNodes, secondLength]; exact valid.nodes)
    (fun entry member => secondNodes ▸ reachable _ (nodeKeys.mem_iff.mp
      (List.mem_map_of_mem Prod.fst member)))
  have nodesClients : router'.peerManager.clients = router.peerManager.clients := by
    rw [nodes.clients, ipcFrame, clientsSame]
  have nodesIpc : router'.peerManager.ipc = router.peerManager.ipc := by
    rw [nodes.ipc, ipcFrame, ipcSame]
  have grows : router.endpoints.length ≤ router'.endpoints.length := secondLength ▸ nodes.grows
  refine ⟨router', fold, ⟨fun h below => ?_, fun s => ?_, fun m member untracked => ?_,
    fun h low high => ?_, grows, nodesClients, nodesIpc, fun m other => ?_,
    ⟨fun k h found => ?_, nodes.valid, fun k h found => ?_, fun k k' h found found' => ?_,
      fun k k' h found nodeFound => ?_, fun k k' h found nodeFound => ?_⟩, ?_⟩⟩
  · -- the three parts of the expected copies, in order
    refine ⟨_, by rw [nodes.existing h (secondLength ▸ below), ipcQueues, client.queues,
      List.append_assoc, List.append_assoc], ?_⟩
    rw [expectedCopies, List.append_assoc]
    refine List.Perm.append ?client (List.Perm.append ?ipc ?node)
    case client =>
      rw [toClient, data.isEntryNode_eq_decide]
      by_cases entry : data.nodeId = data.nodeMap.getEntryNodeId <;>
        by_cases addressed : addressesClient envelope.destinations = true <;>
        simp [entry, addressed, below]
    case ipc =>
      have keysForm := ipcKeys.filterMap
        (fun c => if router.findIpcPeer c = some h then some envelope else none)
      rw [UuidMap.keys, List.filterMap_map] at keysForm
      rw [firstIpc, lengthSame]
      simpa [below, Function.comp_def] using keysForm
    case node =>
      rw [secondNodes]
      exact (List.Perm.of_eq (UuidMap.filterMap_eq_keys (nodeKeys.nodup_iff.mpr (List.nodup_dedup _))
        (fun k v => if router.findNodePeer k = some h then some { envelope with destinations := v }
          else none) _
        nodeValues)).trans (nodeKeys.filterMap _)
  · have same : router'.stashed s = first.1.stashed s := by
      simp only [stashed, nodes.pending, ipcFrame]
    rw [same, client.stashed, toClient, data.isEntryNode_eq_decide]
    by_cases here : s = data.sessionId
    · subst here
      by_cases entry : data.nodeId = data.nodeMap.getEntryNodeId <;>
        by_cases addressed : addressesClient envelope.destinations = true <;>
        simp [entry, addressed]
    · simp [here]
  · obtain ⟨v, found⟩ :=
      Option.isSome_iff_exists.mp (UuidMap.mem_keys.mp (nodeKeys.mem_iff.mpr member))
    obtain ⟨h, peer, low, queue⟩ := nodes.created (m, v) (UuidMap.mem_of_find found)
      (by rw [secondNodes]; exact untracked)
    refine ⟨h, peer, secondLength ▸ low, ?_⟩
    rw [queue, nodeValues m v found]
    rfl
  · obtain ⟨entry, member, untracked, found⟩ := nodes.onlyCreated h (by rw [secondLength]; exact low) high
    exact ⟨entry.1, nodeKeys.mem_iff.mp (List.mem_map_of_mem Prod.fst member),
      secondNodes ▸ untracked, found⟩
  · rw [nodes.kept m ?_, secondNodes]
    rcases other with outside | tracked
    · exact .inl fun inside => outside (nodeKeys.mem_iff.mp inside)
    · exact .inr (by rw [secondNodes]; exact tracked)
  · have old : router.findClientPeer k = some h := by simpa [findClientPeer, nodesClients] using found
    exact Nat.lt_of_lt_of_le (valid.clients _ _ old) grows
  · have old : router.findIpcPeer k = some h := by simpa [findIpcPeer, nodesIpc] using found
    exact Nat.lt_of_lt_of_le (valid.ipc _ _ old) grows
  · by_cases early : h < second.endpoints.length
    · exact valid.nodesDistinct k k' h (secondNodes ▸ nodes.old_of_lt found early)
        (secondNodes ▸ nodes.old_of_lt found' early)
    · exact nodes.fresh k k' h (Nat.not_lt.mp early) found found'
  · have old : router.findClientPeer k = some h := by simpa [findClientPeer, nodesClients] using found
    exact valid.clientsNotNodes k k' h old (secondNodes ▸ nodes.old_of_lt nodeFound
      (secondLength ▸ valid.clients _ _ old))
  · have old : router.findIpcPeer k = some h := by simpa [findIpcPeer, nodesIpc] using found
    exact valid.ipcNotNodes k k' h old (secondNodes ▸ nodes.old_of_lt nodeFound
      (secondLength ▸ valid.ipc _ _ old))
  · exact ⟨nodes.frame.1.trans (ipcNode.trans nodeIdSame),
      nodes.frame.2.trans (ipcRouting.trans routingSame)⟩

/-- `routeMessage` queues exactly the client's copy, one copy per addressed local computation and
one reduced copy per remote node, when the node map knows every node of the list and the entry
node (node ids, the entry node's included, are never null). -/
theorem routeMessage_enqueues (valid : router.Valid) (localNode : data.nodeId ≠ Uuid.null)
    (entryNode : data.nodeMap.getEntryNodeId ≠ Uuid.null)
    (entryKnown : data.nodeMap.Contains data.nodeMap.getEntryNodeId)
    (nodesKnown : ∀ a ∈ envelope.destinations, a.node ≠ Uuid.null → data.nodeMap.Contains a.node) :
    ∃ router', routeMessage envelope data router = .ok router' ∧
      Routed router envelope data router' :=
  routeMessage_routed router envelope data valid localNode (fun _ _ => entryNode)
    fun m member => .inr (by
      rcases mem_remoteNodes.mp member with ⟨a, inside, notNull, _, rfl⟩ | ⟨_, _, rfl⟩
      · exact nodesKnown a inside notNull
      · exact entryKnown)

/-- From node 2, with node 1 the entry node, the copy for node 1 holds its address and the client's,
and the copy for node 3 its one address: neither is the full list. -/
theorem routeMessage_enqueues_from_second_node :
    (∃ router', routeMessage ⟨.data 0, 0, [⟨5, 1, 7⟩, ⟨5, 2, 8⟩, ⟨5, 0, 0⟩, ⟨5, 3, 9⟩]⟩
        (SessionRoutingData.create 5 2
          [⟨1, "a", "10.0.0.1", 1, some true⟩, ⟨2, "b", "10.0.0.2", 2, none⟩,
            ⟨3, "c", "10.0.0.3", 3, some false⟩]) (ThreadedNodeRouter.init 2) = .ok router' ∧
      Routed (ThreadedNodeRouter.init 2) ⟨.data 0, 0, [⟨5, 1, 7⟩, ⟨5, 2, 8⟩, ⟨5, 0, 0⟩, ⟨5, 3, 9⟩]⟩
        (SessionRoutingData.create 5 2
          [⟨1, "a", "10.0.0.1", 1, some true⟩, ⟨2, "b", "10.0.0.2", 2, none⟩,
            ⟨3, "c", "10.0.0.3", 3, some false⟩]) router') ∧
      (SessionRoutingData.create 5 2 [⟨1, "a", "10.0.0.1", 1, some true⟩, ⟨2, "b", "10.0.0.2", 2, none⟩,
        ⟨3, "c", "10.0.0.3", 3, some false⟩]).nodeMap.getEntryNodeId = 1 ∧
      reducedDestinations [⟨5, 1, 7⟩, ⟨5, 2, 8⟩, ⟨5, 0, 0⟩, ⟨5, 3, 9⟩] 5 2 1 1 = [⟨5, 1, 7⟩, ⟨5, 0, 0⟩] ∧
      reducedDestinations [⟨5, 1, 7⟩, ⟨5, 2, 8⟩, ⟨5, 0, 0⟩, ⟨5, 3, 9⟩] 5 2 1 3 = [⟨5, 3, 9⟩] :=
  ⟨routeMessage_enqueues _ _ _ (ThreadedNodeRouter.init_valid 2) (by decide) (by decide) (by decide)
    (by decide), by decide, by decide, by decide⟩

/-- From a node that is not the entry node, the entry node's copy carries the client address. -/
example : ((routeMessage ⟨.data 0, 0, [⟨5, 1, 7⟩, ⟨5, 0, 0⟩]⟩
    (SessionRoutingData.create 5 2 [⟨1, "a", "10.0.0.1", 1, some true⟩])
    (ThreadedNodeRouter.init 2)).toOption.map (·.queueOf 0)) =
      some [⟨.data 0, 0, [⟨5, 1, 7⟩, ⟨5, 0, 0⟩]⟩] := by
  decide

/-- A remote node that has no peer and that the session's node map lacks makes `routeMessage`
throw `getNodeInfo`'s `KeyError`, whatever else the list addresses. -/
theorem routeMessage_raises (m : Uuid)
    (member : m ∈ remoteNodes envelope.destinations data.nodeId data.nodeMap.getEntryNodeId)
    (untracked : router.findNodePeer m = none) (unknown : ¬ data.nodeMap.Contains m) :
    ∃ failure, routeMessage envelope data router = .error failure := by
  set lists := parseDestinationAddressLists data.nodeId envelope.destinations
  set first := router.routeToClient envelope data lists
  obtain ⟨-, nodesSame, -⟩ := (routeToClient_routed router envelope data lists).tables
  obtain ⟨ipcFrame, -⟩ := foldl_sendToLocalComputation data.sessionId envelope lists.ipcLists first.1
  have secondNodes : (lists.ipcLists.foldl (fun r entry =>
      r.sendToLocalComputation data.sessionId entry.1 envelope) first.1).findNodePeer m =
        router.findNodePeer m := by
    simp only [findNodePeer, ipcFrame]
    exact congrArg (UuidMap.find · m) nodesSame
  have keyed : m ∈ first.2.map Prod.fst :=
    UuidMap.mem_keys.mpr ((routeToClient_nodeLists_isSome router envelope data m).mpr member)
  exact foldlM_routeToNode_error envelope data.nodeMap unknown first.2 keyed _
    (secondNodes.trans untracked)

/-- A copy for a node the session's map lacks, and a client-addressed copy sent from a node of a
session whose routing data marks no entry node. -/
theorem routeMessage_raises_without_node_info :
    (∃ failure, routeMessage ⟨.controlMessage, 0, [⟨7, 2, 3⟩]⟩
      (SessionRoutingData.create 7 1 [⟨1, "a", "10.0.0.1", 1, some true⟩])
      (ThreadedNodeRouter.init 1) = .error failure) ∧
    (∃ failure, routeMessage ⟨.controlMessage, 0, [⟨7, 0, 0⟩]⟩
      (SessionRoutingData.create 7 1 [⟨1, "a", "10.0.0.1", 1, none⟩])
      (ThreadedNodeRouter.init 1) = .error failure) :=
  ⟨routeMessage_raises _ _ _ 2 (by decide) (by decide) (by decide),
    routeMessage_raises _ _ _ Uuid.null (by decide) (by decide) (by decide)⟩

end Routed

end Arras4.Node
