import ArrasNode.Router.RouteMessage

/-! One envelope across the nodes of a session: the origin routes it, each node connection carries
what the origin queued to it, and the receiving node routes it again from
`RemoteEndpoint::onEndpointActivity`. `relay_delivers_once` says that every connection carries one
copy, that every addressed computation and the client get the envelope once, and that no receiving
node forwards it. -/
namespace Arras4.Node

/-- The routing branch of `RemoteEndpoint::onEndpointActivity` for an envelope from a node peer.
Control messages and heartbeats are not routed. Anything else is routed with the routing data of
the session of its first address, and dropped with a warning when the session is unknown;
`to().front()` of an empty list is undefined in the source and is taken as an unknown session. -/
def onNodeEndpointActivity (router : ThreadedNodeRouter) (envelope : Envelope) :
    Except KeyError ThreadedNodeRouter :=
  match envelope.classId with
  | .controlMessage | .executorHeartbeat => .ok router
  | _ =>
    match envelope.destinations.head? with
    | none => .ok router
    | some front =>
      match router.sessionRoutingData front.session with
      | none => .ok router
      | some routingData => routeMessage envelope routingData router

def receive (router : ThreadedNodeRouter) (envelopes : List Envelope) :
    Except KeyError ThreadedNodeRouter :=
  envelopes.foldlM onNodeEndpointActivity router

/-- What the origin's connection to node `m` carries once the origin has routed: what the call
added to the queue of the origin's peer for `m`. -/
def sentTo (before after : ThreadedNodeRouter) (m : Uuid) : List Envelope :=
  match after.findNodePeer m with
  | some h => (after.queueOf h).drop (before.queueOf h).length
  | none => []

theorem onNodeEndpointActivity_of_data {router : ThreadedNodeRouter} {envelope : Envelope}
    (dataEnvelope : envelope.classId ≠ .controlMessage ∧ envelope.classId ≠ .executorHeartbeat)
    {front : Address} (first : envelope.destinations.head? = some front)
    {routingData : SessionRoutingData} (found : router.sessionRoutingData front.session = some routingData) :
    onNodeEndpointActivity router envelope = routeMessage envelope routingData router := by
  unfold onNodeEndpointActivity
  cases kind : envelope.classId <;> simp_all

section Reduced

variable {aTo : List Address} {s n e m : Uuid}

theorem mem_reducedDestinations {a : Address} (member : a ∈ reducedDestinations aTo s n e m) :
    a.node = m ∨ a = ⟨s, Uuid.null, Uuid.null⟩ := by
  unfold reducedDestinations at member
  simp only [List.mem_append, List.mem_filter, decide_eq_true_eq] at member
  rcases member with ⟨_, same⟩ | client
  · exact .inl same
  · split_ifs at client <;> simp_all

theorem session_of_mem_reducedDestinations (sessions : ∀ a ∈ aTo, a.session = s) {a : Address}
    (member : a ∈ reducedDestinations aTo s n e m) : a.session = s := by
  unfold reducedDestinations at member
  split_ifs at member <;> simp at member
  · rcases member with ⟨inside, _⟩ | rfl
    · exact sessions a inside
    · rfl
  · exact sessions a member.1

theorem reducedDestinations_ne_nil (member : m ∈ remoteNodes aTo n e) :
    reducedDestinations aTo s n e m ≠ [] := by
  rcases mem_remoteNodes.mp member with ⟨a, inside, _, _, rfl⟩ | ⟨addressed, other, rfl⟩
  · exact List.ne_nil_of_mem (List.mem_append_left _ (List.mem_filter.mpr ⟨inside, by simp⟩))
  · simp [reducedDestinations, addressed, other]

theorem addressesClient_reducedDestinations (notNull : m ≠ Uuid.null) :
    addressesClient (reducedDestinations aTo s n e m) =
      decide (addressesClient aTo ∧ n ≠ e ∧ m = e) := by
  have forNode : (aTo.filter (·.node = m)).any (·.node = Uuid.null) = false := by
    simp only [List.any_eq_false, List.mem_filter, decide_eq_true_eq, and_imp]
    exact fun a _ same null => notNull (same ▸ null)
  unfold reducedDestinations
  split_ifs with client
  · rw [decide_eq_true client]
    simp [addressesClient, List.any_append]
  · rw [decide_eq_false client, List.append_nil]
    exact forNode

theorem localComputations_reducedDestinations (notNull : m ≠ Uuid.null) :
    localComputations (reducedDestinations aTo s n e m) m = localComputations aTo m := by
  have forNode : ((aTo.filter (·.node = m)).filter fun a => a.node = m ∧ a.computation ≠ Uuid.null) =
      aTo.filter fun a => a.node = m ∧ a.computation ≠ Uuid.null := by
    rw [List.filter_filter]
    exact List.filter_congr fun a _ => by by_cases same : a.node = m <;> simp [same]
  unfold localComputations reducedDestinations
  congr 2
  split_ifs
  · rw [List.filter_append, forNode]
    simp [Ne.symm notNull]
  · rw [List.append_nil, forNode]

theorem remoteNodes_reducedDestinations (notNull : m ≠ Uuid.null) :
    remoteNodes (reducedDestinations aTo s n e m) m e = [] := by
  refine List.eq_nil_iff_forall_not_mem.mpr fun k member => ?_
  rcases mem_remoteNodes.mp member with ⟨a, inside, aNotNull, other, _⟩ | ⟨addressed, other, _⟩
  · rcases mem_reducedDestinations inside with same | client
    · exact other same
    · exact aNotNull (by rw [client])
  · rw [addressesClient_reducedDestinations notNull] at addressed
    exact other (of_decide_eq_true addressed).2.2

end Reduced

theorem filterMap_ite_eq_of_nodup {β : Type} {l : List Uuid} (nodup : l.Nodup) (m : Uuid)
    (f : Uuid → β) :
    l.filterMap (fun k => if k = m then some (f k) else none) = if m ∈ l then [f m] else [] := by
  induction l with
  | nil => simp
  | cons k rest ih =>
    rw [List.nodup_cons] at nodup
    by_cases same : k = m
    · subst same
      simp [nodup.1, ih nodup.2]
    · simp [same, ih nodup.2, Ne.symm same]

theorem expectedCopies_of_nodePeer {router : ThreadedNodeRouter} (valid : router.Valid)
    (envelope : Envelope) (data : SessionRoutingData) {m : Uuid} {h : Nat}
    (tracked : router.findNodePeer m = some h) :
    expectedCopies router envelope data h =
      if m ∈ remoteNodes envelope.destinations data.nodeId data.nodeMap.getEntryNodeId then
        [envelope.withTo (reducedDestinations envelope.destinations data.sessionId data.nodeId
          data.nodeMap.getEntryNodeId m)]
      else [] := by
  have noClient : ¬ router.findClientPeer data.sessionId = some h :=
    fun found => valid.clientsNotNodes _ _ _ found tracked
  have noIpc : ∀ c, ¬ router.findIpcPeer c = some h := fun c found => valid.ipcNotNodes _ _ _ found tracked
  have onlyM : ∀ k, router.findNodePeer k = some h ↔ k = m :=
    fun k => ⟨fun found => valid.nodesDistinct _ _ _ found tracked, fun same => same ▸ tracked⟩
  have none : ∀ l : List Uuid, l.filterMap (fun _ => (none : Option Envelope)) = [] :=
    fun _ => List.filterMap_eq_nil_iff.mpr fun _ _ => rfl
  simp only [expectedCopies, noClient, noIpc, onlyM, and_false, if_false, none, List.nil_append]
  exact filterMap_ite_eq_of_nodup (List.nodup_dedup _) m _

/-- Each connection of the origin carries one copy, and only a connection to a remote node. -/
theorem sentTo_of_routed {before after : ThreadedNodeRouter} {envelope : Envelope}
    {data : SessionRoutingData} (valid : before.Valid) (routed : Routed before envelope data after)
    (m : Uuid) :
    sentTo before after m =
      if m ∈ remoteNodes envelope.destinations data.nodeId data.nodeMap.getEntryNodeId then
        [envelope.withTo (reducedDestinations envelope.destinations data.sessionId data.nodeId
          data.nodeMap.getEntryNodeId m)]
      else [] := by
  cases tracked : before.findNodePeer m with
  | some h =>
    obtain ⟨added, queue, perm⟩ := routed.existing h (valid.nodes m h tracked)
    rw [expectedCopies_of_nodePeer valid envelope data tracked] at perm
    simp only [sentTo, routed.nodes m (.inr (by simp [tracked])), tracked, queue, List.drop_left]
    split_ifs at perm ⊢ <;> simpa using perm
  | none =>
    by_cases remote : m ∈ remoteNodes envelope.destinations data.nodeId data.nodeMap.getEntryNodeId
    · obtain ⟨h, found, low, queue⟩ := routed.created m remote tracked
      simp [sentTo, found, queue, ThreadedNodeRouter.queueOf_of_le low, remote, Envelope.withTo]
    · simp [sentTo, routed.nodes m (.inl remote), tracked, remote]

/-- The copies a receiving node `m` queues on its endpoint `h`: the client's on the entry node,
and one per computation addressed at `m`. -/
def relayedCopies (router : ThreadedNodeRouter) (copy : Envelope) (aTo : List Address)
    (s e m : Uuid) (h : Nat) : List Envelope :=
  (if m = e ∧ addressesClient aTo ∧ router.findClientPeer s = some h then [copy] else []) ++
  (localComputations aTo m).filterMap fun c =>
    if router.findIpcPeer c = some h then some copy else none

/-- What a receiving node `m` does with what it gets; no endpoint is created and no node peer
changes, so the copy goes no further. -/
structure Relayed (router : ThreadedNodeRouter) (copy : Envelope) (aTo : List Address)
    (s e m : Uuid) (final : ThreadedNodeRouter) : Prop where
  existing : ∀ h < router.endpoints.length, ∃ added, final.queueOf h = router.queueOf h ++ added ∧
    added.Perm (relayedCopies router copy aTo s e m h)
  stashed : ∀ s', final.stashed s' = router.stashed s' ++
    if s' = s ∧ m = e ∧ addressesClient aTo ∧ router.findClientPeer s' = none then [copy] else []
  endpoints : final.endpoints.length = router.endpoints.length
  nodes : final.findNodePeer = router.findNodePeer

theorem relayed_of_not_mem {router : ThreadedNodeRouter} (copy : Envelope) {aTo : List Address}
    {s n e m : Uuid} (other : m ≠ n) (notNull : m ≠ Uuid.null) (outside : m ∉ remoteNodes aTo n e) :
    Relayed router copy aTo s e m router := by
  have noClient : ¬ (m = e ∧ addressesClient aTo = true) := fun ⟨entry, addressed⟩ =>
    outside (mem_remoteNodes.mpr (.inr ⟨addressed, entry ▸ Ne.symm other, entry⟩))
  have noComputation : localComputations aTo m = [] :=
    List.eq_nil_iff_forall_not_mem.mpr fun c member => by
      obtain ⟨a, inside, here, _⟩ := mem_localComputations.mp member
      exact outside (mem_remoteNodes.mpr (.inl ⟨a, inside, here ▸ notNull, here ▸ other, here⟩))
  refine ⟨fun h _ => ⟨[], by simp, ?_⟩, fun s' => ?_, rfl, rfl⟩
  · simp only [relayedCopies, noComputation, List.filterMap_nil, List.append_nil]
    split_ifs with client
    · exact absurd ⟨client.1, client.2.1⟩ noClient
    · exact List.Perm.refl _
  · split_ifs with client
    · exact absurd ⟨client.2.1, client.2.2.1⟩ noClient
    · simp

/-- A receiving node routes the copy of its node to its client and its computations, and forwards
nothing. -/
theorem receive_relayed {router : ThreadedNodeRouter} (valid : router.Valid) {envelope : Envelope}
    (dataEnvelope : envelope.classId ≠ .controlMessage ∧ envelope.classId ≠ .executorHeartbeat)
    {s n e m : Uuid} (sessions : ∀ a ∈ envelope.destinations, a.session = s)
    (remote : m ∈ remoteNodes envelope.destinations n e) (entryNode : e ≠ Uuid.null)
    {routingData : SessionRoutingData} (found : router.sessionRoutingData s = some routingData)
    (nodeId : routingData.nodeId = m) (sessionId : routingData.sessionId = s)
    (entry : routingData.nodeMap.getEntryNodeId = e) :
    let copy := envelope.withTo (reducedDestinations envelope.destinations s n e m)
    ∃ final, receive router [copy] = .ok final ∧
      Relayed router copy envelope.destinations s e m final := by
  intro copy
  obtain ⟨notNull, other⟩ := remote_of_mem_remoteNodes (fun _ _ => entryNode) remote
  obtain ⟨front, first⟩ := Option.ne_none_iff_exists'.mp
    (mt List.head?_eq_none_iff.mp (@reducedDestinations_ne_nil envelope.destinations s n e m remote))
  have frontSession := session_of_mem_reducedDestinations sessions (List.mem_of_mem_head? first)
  have nothingRemote := @remoteNodes_reducedDestinations envelope.destinations s n e m notNull
  obtain ⟨final, routed, effect⟩ := routeMessage_routed router copy routingData valid
    (nodeId ▸ notNull) (fun _ _ => entry ▸ entryNode) (by simp [copy, nodeId, entry, nothingRemote])
  have step : onNodeEndpointActivity router copy = routeMessage copy routingData router :=
    @onNodeEndpointActivity_of_data router copy dataEnvelope front (by simpa [copy] using first) _
      (by rw [frontSession]; exact found)
  refine ⟨final, by simp [receive, step, routed], fun h below => ?_, fun s' => ?_,
    Nat.le_antisymm (Nat.not_lt.mp fun more => ?_) effect.grows, funext fun k => ?_⟩
  · obtain ⟨added, queue, perm⟩ := effect.existing h below
    refine ⟨added, queue, perm.trans (List.Perm.of_eq ?_)⟩
    simp only [expectedCopies, relayedCopies, copy, Envelope.withTo_destinations, nodeId, sessionId,
      entry, nothingRemote, List.filterMap_nil, List.append_nil,
      localComputations_reducedDestinations notNull, addressesClient_reducedDestinations notNull,
      decide_eq_true_eq]
    by_cases same : m = e
    · subst same
      simp [Ne.symm other]
    · simp [same]
  · rw [effect.stashed]
    simp only [copy, Envelope.withTo_destinations, nodeId, sessionId, entry,
      addressesClient_reducedDestinations notNull, decide_eq_true_eq]
    by_cases same : m = e
    · subst same
      simp [Ne.symm other]
    · simp [same]
  · obtain ⟨k, member, _⟩ := effect.onlyCreated router.endpoints.length (le_refl _) more
    simp [copy, nodeId, entry, nothingRemote] at member
  · exact effect.nodes k (.inl (by simp [copy, nodeId, entry, nothingRemote]))

/-- A data envelope of session `s` routed at node `o`, whose nodes the node map of `o` knows, with
entry node `e`; every node of the session has a valid router and routing data for `s` that names
it and agrees on the entry node. Node ids, the entry node's included, are never null. -/
structure RelaySetup (cluster : Uuid → ThreadedNodeRouter) (data : Uuid → SessionRoutingData)
    (envelope : Envelope) (o s e : Uuid) : Prop where
  dataEnvelope : envelope.classId ≠ .controlMessage ∧ envelope.classId ≠ .executorHeartbeat
  sessions : ∀ a ∈ envelope.destinations, a.session = s
  nodesKnown : ∀ a ∈ envelope.destinations, a.node ≠ Uuid.null → (data o).nodeMap.Contains a.node
  entryKnown : (data o).nodeMap.Contains e
  originNode : o ≠ Uuid.null
  entryNode : e ≠ Uuid.null
  valid : ∀ m, m = o ∨ (data o).nodeMap.Contains m → (cluster m).Valid
  nodeIds : ∀ m, m = o ∨ (data o).nodeMap.Contains m →
    (data m).nodeId = m ∧ (data m).sessionId = s ∧ (data m).nodeMap.getEntryNodeId = e
  routingData : ∀ m, (data o).nodeMap.Contains m → (cluster m).sessionRoutingData s = some (data m)

theorem RelaySetup.known_of_mem {cluster : Uuid → ThreadedNodeRouter}
    {data : Uuid → SessionRoutingData} {envelope : Envelope} {o s e : Uuid}
    (setup : RelaySetup cluster data envelope o s e) {m : Uuid}
    (member : m ∈ remoteNodes envelope.destinations o e) : (data o).nodeMap.Contains m := by
  rcases mem_remoteNodes.mp member with ⟨a, inside, notNull, _, rfl⟩ | ⟨_, _, rfl⟩
  · exact setup.nodesKnown a inside notNull
  · exact setup.entryKnown

/-- A data envelope routed at `o` and relayed one hop: each connection of `o` carries one copy, to
a remote node only; the origin queues what `Routed` says; every other node queues the client's
copy (on the entry node) and one copy per computation addressed at it, and forwards nothing. -/
theorem relay_delivers_once (cluster : Uuid → ThreadedNodeRouter) (data : Uuid → SessionRoutingData)
    (envelope : Envelope) (o s e : Uuid) (setup : RelaySetup cluster data envelope o s e) :
    ∃ after, routeMessage envelope (data o) (cluster o) = .ok after ∧
      Routed (cluster o) envelope (data o) after ∧
      ∀ m, m ≠ o → m ≠ Uuid.null →
        sentTo (cluster o) after m = (if m ∈ remoteNodes envelope.destinations o e then
          [envelope.withTo (reducedDestinations envelope.destinations s o e m)] else []) ∧
        ∃ final, receive (cluster m) (sentTo (cluster o) after m) = .ok final ∧
          Relayed (cluster m) (envelope.withTo (reducedDestinations envelope.destinations s o e m))
            envelope.destinations s e m final := by
  obtain ⟨originId, originSession, originEntry⟩ := setup.nodeIds o (.inl rfl)
  obtain ⟨after, routed, effect⟩ := routeMessage_routed (cluster o) envelope (data o)
    (setup.valid o (.inl rfl)) (by rw [originId]; exact setup.originNode)
    (fun _ _ => by rw [originEntry]; exact setup.entryNode)
    (fun m member => .inr (setup.known_of_mem (by rwa [originId, originEntry] at member)))
  have sent := sentTo_of_routed (setup.valid o (.inl rfl)) effect
  simp only [originId, originSession, originEntry] at sent
  refine ⟨after, routed, effect, fun m other notNull => ⟨sent m, ?_⟩⟩
  rw [sent m]
  split_ifs with remote
  · have known := setup.known_of_mem remote
    obtain ⟨nodeId, sessionId, entry⟩ := setup.nodeIds m (.inr known)
    exact receive_relayed (setup.valid m (.inr known)) setup.dataEnvelope setup.sessions remote
      setup.entryNode (setup.routingData m known) nodeId sessionId entry
  · exact ⟨cluster m, rfl, relayed_of_not_mem _ other notNull remote⟩

/-- Session 5 on nodes 1 (the entry node), 2 and 3; every node holds its routing data. -/
def sampleData (m : Uuid) : SessionRoutingData :=
  SessionRoutingData.create 5 m
    [⟨1, "a", "10.0.0.1", 1, some true⟩, ⟨2, "b", "10.0.0.2", 2, none⟩, ⟨3, "c", "10.0.0.3", 3, none⟩]

def sampleCluster (m : Uuid) : ThreadedNodeRouter :=
  { ThreadedNodeRouter.init m with
    routingTable := RoutingTable.empty.addSessionRoutingData 5 (sampleData m) }

theorem relay_delivers_once_from_node_two :
    let envelope : Envelope := ⟨.data 0, 0, [⟨5, 1, 7⟩, ⟨5, 2, 8⟩, ⟨5, 0, 0⟩, ⟨5, 3, 9⟩]⟩
    ∃ after, routeMessage envelope (sampleData 2) (sampleCluster 2) = .ok after ∧
      Routed (sampleCluster 2) envelope (sampleData 2) after ∧
      ∀ m, m ≠ 2 → m ≠ Uuid.null →
        sentTo (sampleCluster 2) after m = (if m ∈ remoteNodes envelope.destinations 2 1 then
          [envelope.withTo (reducedDestinations envelope.destinations 5 2 1 m)] else []) ∧
        ∃ final, receive (sampleCluster m) (sentTo (sampleCluster 2) after m) = .ok final ∧
          Relayed (sampleCluster m) (envelope.withTo (reducedDestinations envelope.destinations 5 2 1 m))
            envelope.destinations 5 1 m final :=
  relay_delivers_once sampleCluster sampleData _ 2 5 1
    ⟨by decide, by decide, by decide, by decide, by decide, by decide,
      fun m _ => (ThreadedNodeRouter.init_valid m).of_peers rfl rfl, fun _ _ => ⟨rfl, rfl, rfl⟩,
      fun _ _ => rfl⟩

end Arras4.Node
