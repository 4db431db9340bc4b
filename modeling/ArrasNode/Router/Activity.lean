import ArrasNode.Router.RouteMessage

/-! The router's threads as one step system: the client branch of the connect filter
(NodeRouter.cc), the two halves of `routeMessage`'s lazy creation of a node endpoint
(`createNodeRemoteEndpoint`, then `trackNode`), an endpoint flagging itself for destruction, the
accept thread's `destroyEndpoints` sweeps, and `clearStashedEnvelopes`. -/
namespace Arras4.Node

namespace ThreadedNodeRouter

variable (router : ThreadedNodeRouter)

/-- A connection the client filter refuses: "sessionId:<id> refusing client connection because
one already exists for the session". -/
structure DuplicateClient where
  sessionId : Uuid
deriving DecidableEq, Repr

/-- The client branch of the connect filter: refused while the session has a client; otherwise a
client endpoint is made (for the session when the router has its routing data, for the null
session otherwise) and tracked. -/
def connectClient (sessionId : Uuid) : Except DuplicateClient ThreadedNodeRouter :=
  match router.findClientPeer sessionId with
  | some _ => .error ⟨sessionId⟩
  | none =>
    let endpointSession := if (router.sessionRoutingData sessionId).isSome then sessionId else Uuid.null
    let (created, ep) := router.newEndpoint .client sessionId endpointSession
    .ok (created.trackClient sessionId ep)

def flagged (endpoint : Nat) : Option Bool :=
  router.endpoints[endpoint]?.map RemoteEndpoint.flaggedForDestruction

section Frames

variable {router}

@[simp] theorem flagged_queueEnvelope (endpoint : Nat) (envelope : Envelope) (h : Nat) :
    (router.queueEnvelope endpoint envelope).flagged h = router.flagged h := by
  simp only [flagged, queueEnvelope, List.getElem?_modify]
  cases router.endpoints[h]? <;> simp
  split <;> rfl

theorem flagged_newEndpoint {h : Nat} (bound : h < router.endpoints.length) (peerType : PeerType)
    (uuid sessionId : Uuid) : (router.newEndpoint peerType uuid sessionId).1.flagged h = router.flagged h := by
  simp [flagged, newEndpoint, List.getElem?_append_left bound]

theorem flagged_lt {h : Nat} (flaggedTrue : router.flagged h = some true) : h < router.endpoints.length := by
  by_contra outside
  simp [flagged, List.getElem?_eq_none (Nat.not_lt.mp outside)] at flaggedTrue

/-- A flagged endpoint that is not queued for destruction stays flagged and unqueued whatever
endpoint flags itself next. -/
theorem flagForDestruction_flagged {h : Nat} (flaggedTrue : router.flagged h = some true)
    (unqueued : h ∉ router.endpointsToDelete) (k : Nat) :
    (router.flagForDestruction k).flagged h = some true ∧
      h ∉ (router.flagForDestruction k).endpointsToDelete ∧
      (router.flagForDestruction k).peerManager = router.peerManager := by
  unfold flagForDestruction
  cases found : router.endpoints[k]? with
  | none => exact ⟨flaggedTrue, unqueued, rfl⟩
  | some ep =>
    cases already : ep.flaggedForDestruction
    · have other : k ≠ h := by
        rintro rfl
        simp [flagged, found, already] at flaggedTrue
      simp only [already, Bool.false_eq_true, if_false]
      refine ⟨by simpa [flagged, List.getElem?_set_ne other] using flaggedTrue, ?_, trivial⟩
      simp [unqueued, Ne.symm other]
    · simp only [already, if_true]
      exact ⟨flaggedTrue, unqueued, trivial⟩

theorem find_eraseIfFound {m m' : UuidMap Nat} {k key j v : Nat}
    (erased : PeerManager.eraseIfFound m k = some (key, m')) (found : m.find j = some v)
    (other : v ≠ k) : m'.find j = some v := by
  induction m generalizing m' key with
  | nil => simp [PeerManager.eraseIfFound] at erased
  | cons entry rest ih =>
    obtain ⟨k0, v0⟩ := entry
    simp only [PeerManager.eraseIfFound] at erased
    split_ifs at erased with hit
    · simp only [Option.some.injEq, Prod.mk.injEq] at erased
      obtain ⟨-, rfl⟩ := erased
      simp only [UuidMap.find] at found
      split_ifs at found
      · exact absurd ((Option.some.inj found) ▸ hit) other
      · exact found
    · cases later : PeerManager.eraseIfFound rest k with
      | none => simp [later] at erased
      | some result =>
        obtain ⟨key', rest'⟩ := result
        simp only [later, Option.map_some, Option.some.injEq, Prod.mk.injEq] at erased
        obtain ⟨-, rfl⟩ := erased
        simp only [UuidMap.find] at found ⊢
        split_ifs at found ⊢
        · exact found
        · exact ih later found

theorem untrackPeer_findNodePeer {k h : Nat} {m : Uuid} (found : router.findNodePeer m = some h)
    (other : h ≠ k) : (router.untrackPeer k).1.findNodePeer m = some h := by
  unfold untrackPeer
  dsimp only
  split
  · exact found
  · split
    · rename_i erased
      exact find_eraseIfFound erased found other
    · split <;> exact found

theorem untrackPeer_endpoints (k : Nat) : (router.untrackPeer k).1.endpoints = router.endpoints := by
  unfold untrackPeer
  dsimp only
  split
  · rfl
  · split
    · rfl
    · split <;> rfl

/-- A sweep keeps a node's peer that is not queued for destruction, and every endpoint. -/
theorem destroyEndpoints_findNodePeer {h : Nat} {m : Uuid} (found : router.findNodePeer m = some h)
    (unqueued : h ∉ router.endpointsToDelete) :
    router.destroyEndpoints.findNodePeer m = some h ∧
      router.destroyEndpoints.endpoints = router.endpoints ∧ router.destroyEndpoints.endpointsToDelete = [] := by
  have sweep : ∀ (l : List Nat) (r : ThreadedNodeRouter), h ∉ l → r.findNodePeer m = some h →
      (l.foldl (fun r k => (r.untrackPeer k).1) r).findNodePeer m = some h ∧
        (l.foldl (fun r k => (r.untrackPeer k).1) r).endpoints = r.endpoints := by
    intro l
    induction l with
    | nil => exact fun r _ found => ⟨found, rfl⟩
    | cons k rest ih =>
      intro r outside found
      simp only [List.mem_cons, not_or] at outside
      obtain ⟨kept, same⟩ := ih _ outside.2 (untrackPeer_findNodePeer found outside.1)
      exact ⟨kept, same.trans (untrackPeer_endpoints k)⟩
  obtain ⟨kept, same⟩ := sweep router.endpointsToDelete router unqueued found
  exact ⟨kept, same, rfl⟩

/-- A change that moves no node peer, no flag and nothing queued for destruction. -/
structure Quiet (router router' : ThreadedNodeRouter) : Prop where
  nodes : router'.findNodePeer = router.findNodePeer
  grows : router.endpoints.length ≤ router'.endpoints.length
  flags : ∀ h < router.endpoints.length, router'.flagged h = router.flagged h
  toDelete : router'.endpointsToDelete = router.endpointsToDelete

theorem Quiet.refl (router : ThreadedNodeRouter) : Quiet router router := ⟨rfl, le_refl _, fun _ _ => rfl, rfl⟩

theorem Quiet.trans {router' router'' : ThreadedNodeRouter} (first : Quiet router router')
    (second : Quiet router' router'') : Quiet router router'' :=
  ⟨second.nodes.trans first.nodes, first.grows.trans second.grows,
    fun h below => (second.flags h (Nat.lt_of_lt_of_le below first.grows)).trans (first.flags h below),
    second.toDelete.trans first.toDelete⟩

theorem quiet_of_peerManager {router' : ThreadedNodeRouter}
    (nodes : router'.peerManager.nodes = router.peerManager.nodes)
    (endpoints : router'.endpoints = router.endpoints)
    (toDelete : router'.endpointsToDelete = router.endpointsToDelete) : Quiet router router' :=
  ⟨funext fun m => by simp [findNodePeer, nodes], by rw [endpoints],
    fun h _ => by simp [flagged, endpoints], toDelete⟩

theorem quiet_queueEnvelope (endpoint : Nat) (envelope : Envelope) :
    Quiet router (router.queueEnvelope endpoint envelope) :=
  ⟨rfl, by simp, fun h _ => flagged_queueEnvelope endpoint envelope h, rfl⟩

theorem quiet_foldl_queueEnvelope (endpoint : Nat) (envelopes : List Envelope) :
    Quiet router (envelopes.foldl (fun r e => r.queueEnvelope endpoint e) router) := by
  induction envelopes generalizing router with
  | nil => exact Quiet.refl _
  | cons e rest ih => exact (quiet_queueEnvelope _ _).trans ih

theorem quiet_trackClient (sessionId : Uuid) (endpoint : Nat) :
    Quiet router (router.trackClient sessionId endpoint) := by
  unfold trackClient
  dsimp only
  refine Quiet.trans ?_ (quiet_foldl_queueEnvelope endpoint _)
  exact quiet_of_peerManager rfl rfl rfl

theorem quiet_newEndpoint (peerType : PeerType) (uuid sessionId : Uuid) :
    Quiet router (router.newEndpoint peerType uuid sessionId).1 :=
  ⟨by simp, by simp [newEndpoint], fun _ below => flagged_newEndpoint below _ _ _, rfl⟩

theorem quiet_sendToLocalClient (sessionId : Uuid) (envelope : Envelope) :
    Quiet router (router.sendToLocalClient sessionId envelope) := by
  unfold sendToLocalClient stashEnvelope
  split
  · exact quiet_queueEnvelope _ _
  · split
    · exact quiet_queueEnvelope _ _
    · exact quiet_of_peerManager rfl rfl rfl

theorem quiet_connectClient {sessionId : Uuid} {router' : ThreadedNodeRouter}
    (connected : router.connectClient sessionId = .ok router') : Quiet router router' := by
  unfold connectClient at connected
  split at connected
  · cases connected
  · cases connected
    exact (quiet_newEndpoint _ _ _).trans (quiet_trackClient _ _)

end Frames

end ThreadedNodeRouter

/-- The router, and the node endpoint `routeMessage` has created and not yet tracked. -/
structure RouterActivity where
  router : ThreadedNodeRouter
  creating : Option (Uuid × Nat)

/-- One step of one of the router's threads. -/
inductive RouterAction
  | sendToLocalClient (sessionId : Uuid) (envelope : Envelope)
  | connectClient (sessionId : Uuid)
  | createNodeRemoteEndpoint (nodeId : Uuid)
  | trackNode
  | flagForDestruction (endpoint : Nat)
  | destroyEndpoints
  | clearStashedEnvelopes (sessionId : Uuid)

namespace RouterActivity

def init (nodeId : Uuid) : RouterActivity := ⟨ThreadedNodeRouter.init nodeId, none⟩

def step (activity : RouterActivity) : RouterAction → Option RouterActivity
  | .sendToLocalClient sessionId envelope =>
    some { activity with router := activity.router.sendToLocalClient sessionId envelope }
  | .connectClient sessionId =>
    match activity.router.connectClient sessionId with
    | .ok router => some { activity with router := router }
    | .error _ => some activity
  | .createNodeRemoteEndpoint nodeId =>
    if activity.creating = none ∧ activity.router.findNodePeer nodeId = none then
      let (created, ep) := activity.router.newEndpoint .node nodeId Uuid.null
      some ⟨created, some (nodeId, ep)⟩
    else none
  | .trackNode =>
    match activity.creating with
    | some (nodeId, ep) => some ⟨activity.router.trackNode nodeId ep, none⟩
    | none => none
  | .flagForDestruction endpoint =>
    if endpoint < activity.router.endpoints.length then
      some { activity with router := activity.router.flagForDestruction endpoint }
    else none
  | .destroyEndpoints => some { activity with router := activity.router.destroyEndpoints }
  | .clearStashedEnvelopes sessionId =>
    some { activity with router := activity.router.clearStashedEnvelopes sessionId }

def run : RouterActivity → List RouterAction → Option RouterActivity
  | activity, [] => some activity
  | activity, action :: rest => (activity.step action).bind (run · rest)

/-- Node `m`'s peer is endpoint `h`, flagged and no longer queued for destruction, and no creation
under way is for `m`: nothing any thread does will untrack it. -/
structure DeadPeer (m : Uuid) (h : Nat) (activity : RouterActivity) : Prop where
  tracked : activity.router.findNodePeer m = some h
  flagged : activity.router.flagged h = some true
  unqueued : h ∉ activity.router.endpointsToDelete
  notCreating : ∀ p, activity.creating = some p → p.1 ≠ m

theorem DeadPeer.quiet {m : Uuid} {h : Nat} {activity : RouterActivity} (dead : DeadPeer m h activity)
    {router' : ThreadedNodeRouter} (quiet : ThreadedNodeRouter.Quiet activity.router router') :
    DeadPeer m h { activity with router := router' } :=
  ⟨quiet.nodes ▸ dead.tracked,
    (quiet.flags h (ThreadedNodeRouter.flagged_lt dead.flagged)).trans dead.flagged,
    quiet.toDelete ▸ dead.unqueued, dead.notCreating⟩

theorem DeadPeer.step {m : Uuid} {h : Nat} {activity next : RouterActivity} {action : RouterAction}
    (dead : DeadPeer m h activity) (stepped : activity.step action = some next) : DeadPeer m h next := by
  cases action with
  | sendToLocalClient sessionId envelope =>
    cases stepped
    exact dead.quiet (ThreadedNodeRouter.quiet_sendToLocalClient _ _)
  | connectClient sessionId =>
    simp only [RouterActivity.step] at stepped
    split at stepped <;> cases stepped
    · exact dead.quiet (ThreadedNodeRouter.quiet_connectClient ‹_›)
    · exact dead
  | createNodeRemoteEndpoint nodeId =>
    simp only [RouterActivity.step] at stepped
    split_ifs at stepped with idle
    cases stepped
    have other : nodeId ≠ m := fun same => by simp [same, dead.tracked] at idle
    have kept := (dead.quiet (ThreadedNodeRouter.quiet_newEndpoint .node nodeId Uuid.null))
    exact ⟨kept.tracked, kept.flagged, kept.unqueued, fun p created => by cases created; exact other⟩
  | trackNode =>
    simp only [RouterActivity.step] at stepped
    split at stepped
    · rename_i nodeId ep creating
      cases stepped
      have other : m ≠ nodeId := Ne.symm (dead.notCreating _ creating)
      exact ⟨by simp [ThreadedNodeRouter.findNodePeer_trackNode, other, dead.tracked],
        dead.flagged, dead.unqueued, fun p created => by cases created⟩
    · cases stepped
  | flagForDestruction endpoint =>
    simp only [RouterActivity.step] at stepped
    split_ifs at stepped
    cases stepped
    obtain ⟨flaggedTrue, unqueued, peers⟩ :=
      ThreadedNodeRouter.flagForDestruction_flagged dead.flagged dead.unqueued endpoint
    exact ⟨by simpa [ThreadedNodeRouter.findNodePeer, peers] using dead.tracked, flaggedTrue, unqueued,
      dead.notCreating⟩
  | destroyEndpoints =>
    cases stepped
    obtain ⟨tracked, endpoints, cleared⟩ :=
      ThreadedNodeRouter.destroyEndpoints_findNodePeer dead.tracked dead.unqueued
    exact ⟨tracked, by simpa [ThreadedNodeRouter.flagged, endpoints] using dead.flagged, by simp [cleared],
      dead.notCreating⟩
  | clearStashedEnvelopes sessionId =>
    cases stepped
    exact dead.quiet (ThreadedNodeRouter.quiet_of_peerManager rfl rfl rfl)

theorem DeadPeer.run {m : Uuid} {h : Nat} {activity next : RouterActivity} {actions : List RouterAction}
    (dead : DeadPeer m h activity) (ran : activity.run actions = some next) : DeadPeer m h next := by
  induction actions generalizing activity with
  | nil => exact Option.some.inj ran ▸ dead
  | cons action rest ih =>
    obtain ⟨middle, stepped, ran⟩ := Option.bind_eq_some.mp ran
    exact ih (dead.step stepped) ran

end RouterActivity

/-- A stashed envelope reaches the first client of the session; that client disconnects, and the
next client gets the envelope again. -/
theorem stashed_envelope_queued_twice :
    let envelope : Envelope := ⟨.data 0, 0, [⟨5, Uuid.null, Uuid.null⟩]⟩
    ∃ activity, (RouterActivity.init 1).run [.sendToLocalClient 5 envelope, .connectClient 5,
        .flagForDestruction 0, .destroyEndpoints, .connectClient 5] = some activity ∧
      activity.router.endpoints.map RemoteEndpoint.peerType = [.client, .client] ∧
      activity.router.queueOf 0 = [envelope] ∧ activity.router.queueOf 1 = [envelope] := by
  refine ⟨_, rfl, ?_⟩
  decide

/-- An endpoint that flags itself before `routeMessage` tracks it is swept while untracked and then
tracked: after a sweep that began once it was flagged and tracked, node 2 still has it as its peer,
and so it stays whatever any thread does afterwards. -/
theorem flagged_before_tracked_stays_tracked :
    ∃ activity, (RouterActivity.init 1).run [.createNodeRemoteEndpoint 2, .flagForDestruction 0,
        .destroyEndpoints, .trackNode, .destroyEndpoints] = some activity ∧
      ∀ actions next, activity.run actions = some next →
        next.router.findNodePeer 2 = some 0 ∧ next.router.flagged 0 = some true := by
  refine ⟨_, rfl, fun actions next ran => ?_⟩
  have dead := RouterActivity.DeadPeer.run
    (show RouterActivity.DeadPeer 2 0 _ from ⟨by decide, by decide, by decide, fun p found => by cases found⟩) ran
  exact ⟨dead.tracked, dead.flagged⟩

end Arras4.Node
