import ArrasNode.Router.Activity
import ArrasNode.Session.State

/-! The agent (`ArrasSessions`, `ArrasController`) and the router (`NodeRouter`) of one node, with
a first-in first-out queue each way, read by `ArrasController::handleMessage` and by
`NodeRouter::serviceToRouterProc`. `createSession` is split at the wait in `initializeSession`, and
`deleteProc` at its call of `shutdownSession`. -/
namespace Arras4.Node

/-- What `ArrasController` sends the router: `SessionRoutingDataMessage` with action Initialize
(and the routing object's nodes) or Delete, and `kickClient`'s `ClientConnectionStatus`. -/
inductive AgentMessage
  | initializeRouting (sessionId : Uuid) (nodes : List NodeEntry)
  | delete (sessionId : Uuid)
  | clientConnectionStatus (sessionId : Uuid) (reason : String)
deriving DecidableEq, Repr

/-- What the router sends `ArrasController`: the Acknowledge, and "connected" when a client
connects. -/
inductive RouterMessage
  | acknowledge (sessionId : Uuid)
  | clientConnectionStatus (sessionId : Uuid) (reason : String)
deriving DecidableEq, Repr

namespace ThreadedNodeRouter

variable (router : ThreadedNodeRouter)

/-- `NodeRouter::kickClient`: the session's client endpoint is sent the status, drained and
flagged for destruction; with no client, the stash is cleared. -/
def kickClient (sessionId : Uuid) : ThreadedNodeRouter :=
  match router.findClientPeer sessionId with
  | some ep => router.flagForDestruction ep
  | none => router.clearStashedEnvelopes sessionId

/-- `NodeRouter::serviceToRouterProc` for one message from the agent: Initialize stores the
routing data and is acknowledged, Delete drops it, and a client connection status other than
"connected" kicks the client. -/
def serviceToRouter : AgentMessage → ThreadedNodeRouter × List RouterMessage
  | .initializeRouting sessionId nodes => (router.putSessionRoutingData sessionId nodes, [.acknowledge sessionId])
  | .delete sessionId => (router.deleteSessionRoutingData sessionId, [])
  | .clientConnectionStatus sessionId reason =>
    (if reason ≠ "connected" then router.kickClient sessionId else router, [])

end ThreadedNodeRouter

/-- `mSessions`, the reason of each running `deleteProc` and whether it has called
`shutdownSession`, `mRouterHasRoutingData`, and the `createSession` calls waiting in
`initializeSession`. -/
structure Agent where
  nodeId : Uuid
  sessions : UuidMap Session
  deleteProcs : UuidMap (String × Bool)
  routerHasRoutingData : UuidMap Bool
  creating : List (Uuid × List NodeEntry)

namespace Agent

variable (agent : Agent)

/-- `ArrasSessions::createSession` up to the wait in `initializeSession`: a new session, and the
Initialize sent. A session that exists already is refused ("Session already exists"). -/
def createSession (sessionId : Uuid) (nodes : List NodeEntry) : Agent × List AgentMessage :=
  match agent.sessions.find sessionId with
  | some _ => (agent, [])
  | none =>
    ({ agent with
        sessions := agent.sessions.insert sessionId (Session.create sessionId agent.nodeId)
        creating := agent.creating ++ [(sessionId, nodes)] },
      [.initializeRouting sessionId nodes])

/-- `initializeSession` returns true once `mRouterHasRoutingData` is set for the session, and
`createSession` goes on to `asyncUpdateConfig`. -/
def initialized (sessionId : Uuid) : Option Agent :=
  match agent.creating.find? (·.1 = sessionId), agent.sessions.find sessionId with
  | some call, some session =>
    if agent.routerHasRoutingData.find sessionId = some true then
      some { agent with
        creating := agent.creating.erase call
        sessions := agent.sessions.insert sessionId (session.asyncUpdateConfig sessionId agent.nodeId).1 }
    else none
  | _, _ => none

/-- `initializeSession` times out and returns false, and `createSession` erases the session
("Failed to initialize session with node router"). -/
def initializeTimeout (sessionId : Uuid) : Option Agent :=
  match agent.creating.find? (·.1 = sessionId) with
  | some call =>
    if agent.routerHasRoutingData.find sessionId = some true then none
    else some { agent with creating := agent.creating.erase call, sessions := agent.sessions.erase sessionId }
  | none => none

/-- `ArrasSessions::deleteSession`: `asyncDelete` starts `deleteProc` with the reason. -/
def deleteSession (sessionId : Uuid) (reason : String) : Agent :=
  match agent.sessions.find sessionId with
  | some session =>
    match session.asyncDelete with
    | (started, none) =>
      { agent with
        sessions := agent.sessions.insert sessionId started
        deleteProcs := agent.deleteProcs.insert sessionId (reason, false) }
    | (_, some _) => agent
  | none => agent

/-- `deleteProc`, its computations stopped, calls `shutdownSession`: the client kick, then the
routing data Delete. -/
def shutdownSession (sessionId : Uuid) : Option (Agent × List AgentMessage) :=
  match agent.deleteProcs.find sessionId with
  | some (reason, false) =>
    some ({ agent with deleteProcs := agent.deleteProcs.insert sessionId (reason, true) },
      [.clientConnectionStatus sessionId reason, .delete sessionId])
  | _ => none

/-- The end of an operation thread; `deleteProc` ends only after `shutdownSession`. -/
def finish (sessionId : Uuid) (body : OperationBody) : Option Agent :=
  match agent.sessions.find sessionId with
  | some session =>
    if body = .deleteProc ∧ (agent.deleteProcs.find sessionId).map Prod.snd ≠ some true then none
    else (session.step (.finish body)).map fun done =>
      { agent with
        sessions := agent.sessions.insert sessionId done
        deleteProcs := if body = .deleteProc then agent.deleteProcs.erase sessionId else agent.deleteProcs }
  | none => none

/-- `ArrasController::handleMessage` for one message from the router. An Acknowledge sets
`mRouterHasRoutingData`. A client connecting to a defunct session, or to an unknown one, is
kicked; to an active one, it only stops the session's expiry. -/
def handleMessage : RouterMessage → Agent × List AgentMessage
  | .acknowledge sessionId =>
    ({ agent with routerHasRoutingData := agent.routerHasRoutingData.insert sessionId true }, [])
  | .clientConnectionStatus sessionId reason =>
    if reason = "connected" then
      match agent.sessions.find sessionId with
      | some session =>
        if session.state ≠ .defunct then (agent, [])
        else (agent, [.clientConnectionStatus sessionId "sessionDeleted"])
      | none => (agent, [.clientConnectionStatus sessionId "unknownSession"])
    else (agent, [])

end Agent

/-- The node's two processes and the messages in flight between them. -/
structure AgentRouter where
  agent : Agent
  router : ThreadedNodeRouter
  toRouter : List AgentMessage
  toAgent : List RouterMessage

/-- One step of a thread of the agent or of the router; `connectClient` is the client connect
filter, which tracks the client and tells the agent "connected". -/
inductive AgentRouterAction
  | createSession (sessionId : Uuid) (nodes : List NodeEntry)
  | initialized (sessionId : Uuid)
  | initializeTimeout (sessionId : Uuid)
  | deleteSession (sessionId : Uuid) (reason : String)
  | shutdownSession (sessionId : Uuid)
  | finish (sessionId : Uuid) (body : OperationBody)
  | handleMessage
  | serviceToRouter
  | connectClient (sessionId : Uuid)
  | destroyEndpoints
deriving DecidableEq, Repr

namespace AgentRouter

variable (sys : AgentRouter)

def init (nodeId : Uuid) : AgentRouter := ⟨⟨nodeId, [], [], [], []⟩, ThreadedNodeRouter.init nodeId, [], []⟩

def step : AgentRouterAction → Option AgentRouter
  | .createSession sessionId nodes =>
    let (agent, sent) := sys.agent.createSession sessionId nodes
    some { sys with agent := agent, toRouter := sys.toRouter ++ sent }
  | .initialized sessionId => (sys.agent.initialized sessionId).map fun agent => { sys with agent := agent }
  | .initializeTimeout sessionId =>
    (sys.agent.initializeTimeout sessionId).map fun agent => { sys with agent := agent }
  | .deleteSession sessionId reason => some { sys with agent := sys.agent.deleteSession sessionId reason }
  | .shutdownSession sessionId =>
    (sys.agent.shutdownSession sessionId).map fun (agent, sent) =>
      { sys with agent := agent, toRouter := sys.toRouter ++ sent }
  | .finish sessionId body => (sys.agent.finish sessionId body).map fun agent => { sys with agent := agent }
  | .handleMessage =>
    match sys.toAgent with
    | [] => none
    | message :: rest =>
      let (agent, sent) := sys.agent.handleMessage message
      some { sys with agent := agent, toAgent := rest, toRouter := sys.toRouter ++ sent }
  | .serviceToRouter =>
    match sys.toRouter with
    | [] => none
    | message :: rest =>
      let (router, sent) := sys.router.serviceToRouter message
      some { sys with router := router, toRouter := rest, toAgent := sys.toAgent ++ sent }
  | .connectClient sessionId =>
    match sys.router.connectClient sessionId with
    | .ok router =>
      some { sys with router := router, toAgent := sys.toAgent ++ [.clientConnectionStatus sessionId "connected"] }
    | .error _ => some sys
  | .destroyEndpoints => some { sys with router := sys.router.destroyEndpoints }

def run : AgentRouter → List AgentRouterAction → Option AgentRouter
  | sys, [] => some sys
  | sys, action :: rest => (sys.step action).bind (run · rest)

end AgentRouter

namespace Agent

section Acknowledged

variable {agent : Agent} {sessionId : Uuid}

theorem initialized_routerHasRoutingData {s : Uuid} {agent' : Agent} (done : agent.initialized s = some agent') :
    agent'.routerHasRoutingData = agent.routerHasRoutingData := by
  unfold initialized at done
  split at done
  · split_ifs at done
    cases done
    rfl
  · cases done

theorem initializeTimeout_routerHasRoutingData {s : Uuid} {agent' : Agent}
    (done : agent.initializeTimeout s = some agent') : agent'.routerHasRoutingData = agent.routerHasRoutingData := by
  unfold initializeTimeout at done
  split at done
  · split_ifs at done
    cases done
    rfl
  · cases done

theorem deleteSession_routerHasRoutingData (s : Uuid) (reason : String) :
    (agent.deleteSession s reason).routerHasRoutingData = agent.routerHasRoutingData := by
  unfold deleteSession
  split
  · split <;> rfl
  · rfl

theorem shutdownSession_routerHasRoutingData {s : Uuid} {result : Agent × List AgentMessage}
    (done : agent.shutdownSession s = some result) : result.1.routerHasRoutingData = agent.routerHasRoutingData := by
  unfold shutdownSession at done
  split at done
  · cases done
    rfl
  · cases done

theorem finish_routerHasRoutingData {s : Uuid} {body : OperationBody} {agent' : Agent}
    (done : agent.finish s body = some agent') : agent'.routerHasRoutingData = agent.routerHasRoutingData := by
  unfold finish at done
  split at done
  · split_ifs at done <;> obtain ⟨_, _, rfl⟩ := Option.map_eq_some'.mp done <;> rfl
  · cases done

theorem handleMessage_acknowledged (acknowledged : agent.routerHasRoutingData.find sessionId = some true)
    (message : RouterMessage) : (agent.handleMessage message).1.routerHasRoutingData.find sessionId = some true := by
  cases message with
  | acknowledge s =>
    by_cases same : sessionId = s
    · simp [handleMessage, same]
    · simpa [handleMessage, same] using acknowledged
  | clientConnectionStatus s reason =>
    simp only [handleMessage]
    split_ifs
    · split
      · split_ifs <;> exact acknowledged
      · exact acknowledged
    · exact acknowledged

end Acknowledged

end Agent

namespace AgentRouter

variable {sessionId : Uuid}

/-- Nothing clears `mRouterHasRoutingData`: once an Acknowledge for a session has been handled,
every step keeps it set. -/
theorem routerHasRoutingData_step {sys next : AgentRouter} {action : AgentRouterAction}
    (acknowledged : sys.agent.routerHasRoutingData.find sessionId = some true)
    (stepped : sys.step action = some next) : next.agent.routerHasRoutingData.find sessionId = some true := by
  cases action with
  | createSession s nodes =>
    simp only [step, Agent.createSession] at stepped
    split at stepped <;> cases stepped <;> exact acknowledged
  | initialized s =>
    obtain ⟨agent, done, rfl⟩ := Option.map_eq_some'.mp stepped
    rwa [Agent.initialized_routerHasRoutingData done]
  | initializeTimeout s =>
    obtain ⟨agent, done, rfl⟩ := Option.map_eq_some'.mp stepped
    rwa [Agent.initializeTimeout_routerHasRoutingData done]
  | deleteSession s reason =>
    cases stepped
    rwa [Agent.deleteSession_routerHasRoutingData]
  | shutdownSession s =>
    obtain ⟨result, done, rfl⟩ := Option.map_eq_some'.mp stepped
    rwa [Agent.shutdownSession_routerHasRoutingData done]
  | finish s body =>
    obtain ⟨agent, done, rfl⟩ := Option.map_eq_some'.mp stepped
    rwa [Agent.finish_routerHasRoutingData done]
  | handleMessage =>
    simp only [step] at stepped
    split at stepped <;> cases stepped
    exact Agent.handleMessage_acknowledged acknowledged _
  | serviceToRouter =>
    simp only [step] at stepped
    split at stepped <;> cases stepped
    exact acknowledged
  | connectClient s =>
    simp only [step] at stepped
    split at stepped <;> cases stepped <;> exact acknowledged
  | destroyEndpoints =>
    cases stepped
    exact acknowledged

theorem routerHasRoutingData_run {sys next : AgentRouter} {actions : List AgentRouterAction}
    (acknowledged : sys.agent.routerHasRoutingData.find sessionId = some true)
    (ran : sys.run actions = some next) : next.agent.routerHasRoutingData.find sessionId = some true := by
  induction actions generalizing sys with
  | nil => exact Option.some.inj ran ▸ acknowledged
  | cons action rest ih =>
    obtain ⟨middle, stepped, ran⟩ := Option.bind_eq_some.mp ran
    exact ih (routerHasRoutingData_step acknowledged stepped) ran

/-- Once the agent has handled an Acknowledge for a session, a later `createSession` for it, once
the session is gone, can return from `initializeSession` right after sending its Initialize,
whatever the router has done with it. -/
theorem initialized_after_acknowledge {sys next : AgentRouter} {actions : List AgentRouterAction}
    (acknowledged : sys.agent.routerHasRoutingData.find sessionId = some true)
    (ran : sys.run actions = some next) (gone : next.agent.sessions.find sessionId = none)
    (nodes : List NodeEntry) :
    ∃ created, next.step (.createSession sessionId nodes) = some created ∧
      created.toRouter = next.toRouter ++ [.initializeRouting sessionId nodes] ∧
      (created.step (.initialized sessionId)).map AgentRouter.toRouter = some created.toRouter := by
  have still := routerHasRoutingData_run acknowledged ran
  refine ⟨_, rfl, by simp [step, Agent.createSession, gone], ?_⟩
  have waiting : ∃ call, (next.agent.creating ++ [(sessionId, nodes)]).find? (·.1 = sessionId) = some call := by
    cases found : next.agent.creating.find? (·.1 = sessionId) with
    | none => exact ⟨(sessionId, nodes), by simp [List.find?_append, found]⟩
    | some call => exact ⟨call, by simp [List.find?_append, found]⟩
  obtain ⟨call, waiting⟩ := waiting
  simp only [step, Agent.createSession, gone, Agent.initialized, waiting]
  simp [still]

end AgentRouter

def entryOnly : List NodeEntry := [⟨1, "one", "10.0.0.1", 1, some true⟩]

/-- Session 5 is created and deleted with reason "done"; the router handles the kick while no
client is connected, then a client connects, and the agent handles its "connected" while
`deleteProc` has not yet made the session defunct. -/
def deleteWhileConnecting : List AgentRouterAction :=
  [.createSession 5 entryOnly, .serviceToRouter, .handleMessage, .initialized 5, .finish 5 .applyNewConfig,
    .deleteSession 5 "done", .shutdownSession 5, .serviceToRouter, .connectClient 5, .handleMessage,
    .finish 5 .deleteProc, .serviceToRouter]

/-- Once every message has been handled, session 5 is defunct and its client is still tracked and
not flagged for destruction: nothing kicked it. -/
theorem client_outlives_deleted_session :
    ∃ sys, (AgentRouter.init 1).run deleteWhileConnecting = some sys ∧
      sys.toRouter = [] ∧ sys.toAgent = [] ∧
      (sys.agent.sessions.find 5).map Session.state = some .defunct ∧
      sys.router.findClientPeer 5 = some 0 ∧ sys.router.flagged 0 = some false :=
  ⟨_, rfl, by decide⟩

def firstNodes : List NodeEntry := [⟨1, "one", "10.0.0.1", 1, some true⟩, ⟨2, "two", "10.0.0.2", 2, none⟩]

def secondNodes : List NodeEntry := [⟨1, "one", "10.0.0.1", 1, some true⟩, ⟨3, "three", "10.0.0.3", 3, none⟩]

/-- `createSession` for session 5 with the first nodes times out in `initializeSession` and
erases the session; the router then stores that routing data and its Acknowledge is handled. A
second `createSession` for session 5, with the second nodes, sends its Initialize and returns
from `initializeSession`. -/
def staleAcknowledge : List AgentRouterAction :=
  [.createSession 5 firstNodes, .initializeTimeout 5, .serviceToRouter, .handleMessage,
    .createSession 5 secondNodes, .initialized 5]

/-- When the second `initializeSession` returns true, its Initialize is still unread and the
router's routing data for the session is the first call's; handling that Initialize keeps it. -/
theorem initializeSession_returns_on_stale_acknowledge :
    ∃ sys, (AgentRouter.init 1).run staleAcknowledge = some sys ∧
      sys.toRouter = [.initializeRouting 5 secondNodes] ∧
      (sys.router.sessionRoutingData 5).map (·.nodeMap.map) = some (SessionNodeMap.create firstNodes).map ∧
      ∃ after, sys.step .serviceToRouter = some after ∧ after.toRouter = [] ∧
        (after.router.sessionRoutingData 5).map (·.nodeMap.map) = some (SessionNodeMap.create firstNodes).map :=
  ⟨_, rfl, by decide, by decide, _, rfl, by decide, by decide⟩

/-- Session 5's `createSession` times out, and the router's Acknowledge is then handled. -/
def acknowledgedAfterTimeout : List AgentRouterAction :=
  [.createSession 5 firstNodes, .initializeTimeout 5, .serviceToRouter, .handleMessage]

theorem initialized_after_acknowledge_timed_out :
    ∃ sys next, (AgentRouter.init 1).run acknowledgedAfterTimeout = some sys ∧
      sys.agent.routerHasRoutingData.find 5 = some true ∧ sys.run [.destroyEndpoints] = some next ∧
      next.agent.sessions.find 5 = none ∧
      ∃ created, next.step (.createSession 5 secondNodes) = some created ∧
        created.toRouter = next.toRouter ++ [.initializeRouting 5 secondNodes] ∧
        (created.step (.initialized 5)).map AgentRouter.toRouter = some created.toRouter := by
  refine ⟨_, _, rfl, ?acknowledged, Option.eq_some_of_isSome ?ran, ?gone,
    AgentRouter.initialized_after_acknowledge ?acknowledged (Option.eq_some_of_isSome ?ran) ?gone
      secondNodes⟩
  case acknowledged => decide
  case ran => decide
  case gone => rfl

end Arras4.Node
