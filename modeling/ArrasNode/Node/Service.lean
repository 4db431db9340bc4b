import ArrasNode.Http.UrlRouter
import ArrasNode.Session.Computations
import ArrasNode.Session.Sessions
import ArrasNode.Session.SessionConfig

/-! The session endpoints of `NodeService` and `ArrasNode::setStatus`, over the agent and router
of `Session/Controller.lean`, one step per request. Every handler answers through the same two
catch clauses: an `OperationError` gives its own code and text, anything else 500 and "Unknown
exception thrown in server". The router's reading of a routing object's nodes is a parameter. -/
namespace Arras4.Node

def httpInternalServerError : Nat := 500

def unknownExceptionThrown : String := "Unknown exception thrown in server"

def successBody : String := "\x7b \"success\": \"true\"\x7d"

/-- What an operation throws: an `OperationError` (a `SessionError` is one), or anything else. -/
inductive Thrown
  | operation (error : SessionError)
  | other
deriving DecidableEq, Repr

/-- What a handler answers: 200 with the JSON text of an object, 200 with a literal body, or an
error code with the response text. -/
inductive Reply
  | json (body : Value)
  | body (text : String)
  | error (code : Nat) (text : String)

def Thrown.reply : Thrown → Reply
  | .operation error => .error error.httpCode error.detail
  | .other => .error httpInternalServerError unknownExceptionThrown

/-- The text of GET sessions: the quoted ids, separated by commas once the list is no longer
"[ ". -/
def sessionsText (ids : List String) : String :=
  ids.foldl (fun sessions item =>
    (if sessions ≠ "[ " then sessions ++ ", " else sessions) ++ "\"" ++ item ++ "\"") "[ " ++ " ]"

theorem sessionsText_loop (acc : String) (nonempty : 0 < acc.length) (ids : List String) :
    ids.foldl (fun sessions item =>
        (if sessions ≠ "[ " then sessions ++ ", " else sessions) ++ "\"" ++ item ++ "\"") ("[ " ++ acc) =
      "[ " ++ String.intercalate.go acc ", " (ids.map fun id => "\"" ++ id ++ "\"") := by
  induction ids generalizing acc with
  | nil => rfl
  | cons id rest ih =>
    have longer : "[ " ++ acc ≠ "[ " := fun same => by
      have lengths := congrArg String.length same
      rw [String.length_append, show "[ ".length = 2 from rfl] at lengths
      omega
    rw [List.foldl_cons, if_pos longer, List.map_cons, String.intercalate.go,
      ← ih _ (by simp only [String.length_append]; omega)]
    simp only [String.append_assoc]

theorem sessionsText_eq (ids : List String) :
    sessionsText ids = "[ " ++ ", ".intercalate (ids.map fun id => "\"" ++ id ++ "\"") ++ " ]" := by
  cases ids with
  | nil => rfl
  | cons id rest =>
    rw [sessionsText, List.foldl_cons, if_neg (not_not.mpr rfl), List.map_cons, String.intercalate,
      String.append_assoc "[ ", String.append_assoc "[ ",
      sessionsText_loop _ (by simp only [String.length_append, show "\"".length = 1 from rfl]; omega) rest]

/-- POST sessions, PUT sessions/modify, DELETE sessions/<id> with its X-Session-Delete-Reason
header, PUT sessions/<id>/status, PUT status (and PUT registration, the same handler), GET
sessions. -/
inductive Request
  | createSession (definition : Value)
  | modifySession (definition : Value)
  | deleteSession (sessionId : Uuid) (reason : String)
  | signalSession (sessionId : Uuid) (signalData : Value)
  | setStatus (status : Value)
  | activeSessions

/-- The node process: its agent and router with the messages between them, the POST sessions
handlers waiting in `initializeSession` with the response each will write, `ArrasSessions::mClosed`,
and `ArrasNode`'s `mRun` and `mIsRegistered`. -/
structure NodeState where
  system : AgentRouter
  pending : List (Uuid × Value)
  closed : Bool
  running : Bool
  registered : Bool

inductive ServiceAction
  | request (request : Request)
  | system (action : AgentRouterAction)

namespace NodeState

variable (uuidOf : String → Uuid) (uuidText : Uuid → String) (nodesOf : Value → Uuid → List NodeEntry)

def init (nodeId : Uuid) : NodeState := ⟨AgentRouter.init nodeId, [], false, true, true⟩

def withSessions (node : NodeState) (sessions : UuidMap Session) : NodeState :=
  { node with system := { node.system with agent := { node.system.agent with sessions } } }

/-- `std::make_shared<SessionConfig>(definition, mNodeId)`: what it throws is no `OperationError`. -/
def readConfig (node : NodeState) (definition : Value) : Except Thrown SessionConfig :=
  (SessionConfig.create uuidOf uuidText definition node.system.agent.nodeId).mapError fun _ => .other

/-- The first check of `createSession` and `modifySession`: a closed node refuses with a
conflict. -/
def checkOpen (node : NodeState) (detail : String) : Except Thrown Unit :=
  if node.closed then throw (.operation { detail, httpCode := httpResourceConflict }) else pure ()

/-- `ArrasSessions::createSession` up to its wait in `initializeSession`. -/
def createSession (node : NodeState) (definition : Value) : Except Thrown NodeState := do
  node.checkOpen "Node is closed : cannot accept new sessions"
  let config ← node.readConfig uuidOf uuidText definition
  match node.system.agent.createSessionError node.closed config.sessionId with
  | some error => throw (.operation error)
  | none =>
    let (agent, sent) :=
      node.system.agent.createSession config.sessionId (nodesOf config.routing config.sessionId)
    pure { node with
      system := { node.system with agent, toRouter := node.system.toRouter ++ sent }
      pending := node.pending ++ [(config.sessionId, config.response)] }

def modifySession (node : NodeState) (definition : Value) : Except Thrown (NodeState × Value) := do
  node.checkOpen "Node is closed : cannot modify sessions"
  let config ← node.readConfig uuidOf uuidText definition
  match node.system.agent.sessions.find config.sessionId with
  | none => throw (.operation { detail := "Session doesn\x27t exist", httpCode := httpNotFound })
  | some session =>
    match session.asyncUpdateConfig config.sessionId config.nodeId with
    | (_, some error) => throw (.operation error)
    | (started, none) =>
      pure (node.withSessions (node.system.agent.sessions.insert config.sessionId started),
        config.response)

def deleteSession (node : NodeState) (sessionId : Uuid) (reason : String) :
    Except Thrown NodeState :=
  match node.system.agent.sessions.find sessionId with
  | none => throw (.operation { detail := "Session doesn\x27t exist", httpCode := httpNotFound })
  | some session =>
    match session.asyncDelete with
    | (_, some error) => throw (.operation error)
    | (_, none) =>
      pure { node with system := { node.system with
        agent := node.system.agent.deleteSession sessionId reason } }

/-- `ArrasSessions::signalSession` and the part of `Session::signal` that can throw: past
`checkIsFree`, reading `status` from a signal that is neither null nor an object. What the signal
does to the computations is `SessionComputations.signal`. -/
def signalSession (node : NodeState) (sessionId : Uuid) (signalData : Value) : Except Thrown Unit :=
  match node.system.agent.sessions.find sessionId with
  | none => throw (.operation { detail := "Session does not exist", httpCode := httpNotFound })
  | some session =>
    match session.checkIsFree with
    | some error => throw (.operation error)
    | none => if (signalData.index? "status").isSome then pure () else throw .other

def setStatus (node : NodeState) (status : Value) : Except Thrown NodeState :=
  match status.index? "status" with
  | none => throw .other
  | some (.string statusStr) =>
    if statusStr = "shutdown" then pure { node with running := false }
    else if statusStr = "close" then pure { node with closed := true }
    else if statusStr = "unregistered" then pure { node with registered := false }
    else throw (.operation
      { detail := "Unknown \x27status\x27 value: " ++ statusStr, httpCode := httpBadRequest })
  | some _ => throw (.operation
      { detail := "Request body is missing \x27status\x27 field", httpCode := httpBadRequest })

/-- `ArrasSessions::activeSessionIds`: the sessions not defunct, in id order. -/
def activeSessionIds (node : NodeState) : List Uuid :=
  node.system.agent.sessions.filterMap fun entry =>
    if entry.2.state ≠ .defunct then some entry.2.id else none

/-- The handler of a request: the node after it, and the reply, unless the handler waits in
`initializeSession`. -/
def handle (node : NodeState) : Request → NodeState × Option Reply
  | .createSession definition =>
    match node.createSession uuidOf uuidText nodesOf definition with
    | .ok next => (next, none)
    | .error thrown => (node, some thrown.reply)
  | .modifySession definition =>
    match node.modifySession uuidOf uuidText definition with
    | .ok (next, response) => (next, some (.json response))
    | .error thrown => (node, some thrown.reply)
  | .deleteSession sessionId reason =>
    match node.deleteSession sessionId reason with
    | .ok next => (next, some (.body successBody))
    | .error thrown => (node, some thrown.reply)
  | .signalSession sessionId signalData =>
    match node.signalSession sessionId signalData with
    | .ok () => (node, some (.body successBody))
    | .error thrown => (node, some thrown.reply)
  | .setStatus status =>
    match node.setStatus status with
    | .ok next => (next, some (.body successBody))
    | .error thrown => (node, some thrown.reply)
  | .activeSessions => (node, some (.body (sessionsText (node.activeSessionIds.map uuidText))))

/-- The end of a POST sessions handler's wait: on `initialized`, `asyncUpdateConfig`'s refusal or
the config's response; on a timeout, "Failed to initialize session with node router". -/
def endWait (node : NodeState) : AgentRouterAction → List (Uuid × Value) × Option Reply
  | .initialized sessionId =>
    match node.pending.find? (·.1 = sessionId), node.system.agent.sessions.find sessionId with
    | some call, some session =>
      (node.pending.eraseP (·.1 = sessionId),
        match (session.asyncUpdateConfig sessionId node.system.agent.nodeId).2 with
        | some error => some (Thrown.operation error).reply
        | none => some (.json call.2))
    | _, _ => (node.pending, none)
  | .initializeTimeout sessionId =>
    match node.pending.find? (·.1 = sessionId) with
    | some _ => (node.pending.eraseP (·.1 = sessionId), some (.error httpInternalServerError
        "Failed to initialize session with node router"))
    | none => (node.pending, none)
  | _ => (node.pending, none)

def step (node : NodeState) : ServiceAction → Option (NodeState × Option Reply)
  | .request request => some (node.handle uuidOf uuidText nodesOf request)
  | .system action =>
    (node.system.step action).map fun system =>
      ({ node with system, pending := (node.endWait action).1 }, (node.endWait action).2)

def run (node : NodeState) : List ServiceAction → Option (NodeState × List Reply)
  | [] => some (node, [])
  | action :: rest =>
    (node.step uuidOf uuidText nodesOf action).bind fun (next, reply) =>
      (next.run rest).map fun (last, replies) => (last, reply.toList ++ replies)

/-! ### What each handler does -/

variable {uuidOf uuidText nodesOf} {node next : NodeState}

theorem checkOpen_ok {detail : String} {u : Unit} : node.checkOpen detail = .ok u ↔ node.closed = false := by
  unfold checkOpen
  cases node.closed <;> simp [throw, throwThe, MonadExceptOf.throw, pure, Except.pure]

/-- An accepted POST sessions is the agent's `createSession` step for a new id, on an open node. -/
theorem createSession_ok {definition : Value}
    (accepted : node.createSession uuidOf uuidText nodesOf definition = .ok next) :
    node.closed = false ∧ ∃ config, node.readConfig uuidOf uuidText definition = .ok config ∧
      node.system.agent.sessions.find config.sessionId = none ∧
      node.system.step (.createSession config.sessionId (nodesOf config.routing config.sessionId)) =
        some next.system ∧
      next.pending = node.pending ++ [(config.sessionId, config.response)] ∧
      next.closed = node.closed ∧ next.running = node.running ∧ next.registered = node.registered := by
  simp only [createSession, except_bind_eq_ok] at accepted
  obtain ⟨_, opened, config, read, accepted⟩ := accepted
  have closed := checkOpen_ok.mp opened
  rw [closed] at accepted
  cases fresh : node.system.agent.sessions.find config.sessionId with
  | some _ => simp [Agent.createSessionError, fresh, throw, throwThe, MonadExceptOf.throw] at accepted
  | none =>
    simp only [Agent.createSessionError, fresh, Bool.false_eq_true, if_false] at accepted
    cases accepted
    exact ⟨closed, config, read, fresh, rfl, rfl, closed.symm, rfl, rfl⟩

/-- An accepted modify is the session's own `asyncUpdateConfig` with the config's ids, on an open
node; the reply is the config's response. -/
theorem modifySession_ok {definition response : Value}
    (accepted : node.modifySession uuidOf uuidText definition = .ok (next, response)) :
    node.closed = false ∧ ∃ config session started, node.readConfig uuidOf uuidText definition = .ok config ∧
      node.system.agent.sessions.find config.sessionId = some session ∧
      session.asyncUpdateConfig config.sessionId config.nodeId = (started, none) ∧
      next = node.withSessions (node.system.agent.sessions.insert config.sessionId started) ∧
      response = config.response := by
  simp only [modifySession, except_bind_eq_ok] at accepted
  obtain ⟨_, opened, config, read, accepted⟩ := accepted
  refine ⟨checkOpen_ok.mp opened, ?_⟩
  split at accepted
  · cases accepted
  · rename_i session found
    split at accepted
    · cases accepted
    · rename_i started updated
      cases accepted
      exact ⟨config, session, started, read, found, updated, rfl, rfl⟩

/-- An accepted DELETE is the agent's `deleteSession` step. -/
theorem deleteSession_ok {sessionId : Uuid} {reason : String}
    (accepted : node.deleteSession sessionId reason = .ok next) :
    node.system.step (.deleteSession sessionId reason) = some next.system ∧ next.pending = node.pending ∧
      next.closed = node.closed ∧ next.running = node.running ∧ next.registered = node.registered := by
  unfold deleteSession at accepted
  split at accepted
  · cases accepted
  · split at accepted
    · cases accepted
    · cases accepted
      exact ⟨rfl, rfl, rfl, rfl, rfl⟩

/-- An accepted status change clears `mRun` or `mIsRegistered`, or sets `mClosed`, and nothing
else. -/
theorem setStatus_ok {status : Value} (accepted : node.setStatus status = .ok next) :
    next = { node with running := false } ∨ next = { node with closed := true } ∨
      next = { node with registered := false } := by
  unfold setStatus at accepted
  split at accepted
  · cases accepted
  · split_ifs at accepted <;> cases accepted
    · exact .inl rfl
    · exact .inr (.inl rfl)
    · exact .inr (.inr rfl)
  · cases accepted

end NodeState

/-! ### How a step changes `mSessions` -/

/-- With the config's ids its own, `asyncUpdateConfig` is the state check alone. -/
theorem Session.asyncUpdateConfig_of_ids {session : Session} {sessionId nodeId : Uuid}
    (id : session.id = sessionId) (node : session.nodeId = nodeId) :
    session.asyncUpdateConfig sessionId nodeId = session.startOperation "modified" .applyNewConfig := by
  simp [Session.asyncUpdateConfig, id, node]

/-- What one step can do to `mSessions`: nothing, a new session under its id, a step of one
session under its id, or an erase. -/
inductive SessionsStep (nodeId : Uuid) : UuidMap Session → UuidMap Session → Prop
  | same (sessions : UuidMap Session) : SessionsStep nodeId sessions sessions
  | create (sessions : UuidMap Session) (k : Uuid) :
    SessionsStep nodeId sessions (sessions.insert k (Session.create k nodeId))
  | step (sessions : UuidMap Session) (k : Uuid) {session next : Session} {action : Action} :
    sessions.find k = some session → session.step action = some next →
    SessionsStep nodeId sessions (sessions.insert k next)
  | erase (sessions : UuidMap Session) (k : Uuid) : SessionsStep nodeId sessions (sessions.erase k)

theorem Session.step_ids {session next : Session} {action : Action}
    (stepped : session.step action = some next) : next.id = session.id ∧ next.nodeId = session.nodeId := by
  rcases Session.step_cases stepped with rfl | ⟨-, -, ⟨-, rfl⟩ | ⟨-, -, -, rfl⟩⟩ | ⟨body, -, -, rfl⟩ |
    ⟨-, -, rfl⟩ | ⟨-, -, -, -, rfl⟩ | ⟨-, rfl⟩ | ⟨-, -, rfl⟩
  all_goals first | exact ⟨rfl, rfl⟩ | cases body <;> exact ⟨rfl, rfl⟩

namespace Agent

variable {agent : Agent}

theorem handleMessage_agent (message : RouterMessage) :
    (agent.handleMessage message).1.sessions = agent.sessions ∧
      (agent.handleMessage message).1.nodeId = agent.nodeId := by
  cases message with
  | acknowledge s => exact ⟨rfl, rfl⟩
  | clientConnectionStatus s reason =>
    simp only [handleMessage]
    split_ifs
    · split
      · split_ifs <;> exact ⟨rfl, rfl⟩
      · exact ⟨rfl, rfl⟩
    · exact ⟨rfl, rfl⟩

end Agent

namespace AgentRouter

/-- Every step of the agent and router keeps the node id and changes `mSessions` by one
`SessionsStep`. -/
theorem step_sessions {sys next : AgentRouter} {action : AgentRouterAction}
    (stepped : sys.step action = some next) :
    next.agent.nodeId = sys.agent.nodeId ∧
      SessionsStep sys.agent.nodeId sys.agent.sessions next.agent.sessions := by
  cases action with
  | createSession s nodes =>
    simp only [step, Agent.createSession] at stepped
    split at stepped <;> cases stepped
    · exact ⟨rfl, .same _⟩
    · exact ⟨rfl, .create _ _⟩
  | initialized s =>
    obtain ⟨agent, done, rfl⟩ := Option.map_eq_some'.mp stepped
    unfold Agent.initialized at done
    split at done
    · rename_i session _ found
      split_ifs at done
      cases done
      exact ⟨rfl, .step _ _ found
        (show session.step (.asyncUpdateConfig s sys.agent.nodeId) = some _ from rfl)⟩
    · cases done
  | initializeTimeout s =>
    obtain ⟨agent, done, rfl⟩ := Option.map_eq_some'.mp stepped
    unfold Agent.initializeTimeout at done
    split at done
    · split_ifs at done
      cases done
      exact ⟨rfl, .erase _ _⟩
    · cases done
  | deleteSession s reason =>
    cases stepped
    unfold Agent.deleteSession
    split
    · rename_i session found
      rcases deleted : session.asyncDelete with ⟨started, _ | error⟩
      · exact ⟨rfl, .step _ _ found (show session.step .asyncDelete = some started by
          simp [Session.step, deleted])⟩
      · exact ⟨rfl, .same _⟩
    · exact ⟨rfl, .same _⟩
  | shutdownSession s =>
    obtain ⟨⟨agent, sent⟩, done, rfl⟩ := Option.map_eq_some'.mp stepped
    unfold Agent.shutdownSession at done
    split at done
    · cases done
      exact ⟨rfl, .same _⟩
    · cases done
  | finish s body =>
    obtain ⟨agent, done, rfl⟩ := Option.map_eq_some'.mp stepped
    unfold Agent.finish at done
    split at done
    · rename_i session found
      split_ifs at done <;> obtain ⟨finished, finishedIs, rfl⟩ := Option.map_eq_some'.mp done <;>
        exact ⟨rfl, .step _ _ found finishedIs⟩
    · cases done
  | handleMessage =>
    simp only [step] at stepped
    split at stepped
    · cases stepped
    · cases stepped
      obtain ⟨sessions, nodeId⟩ := @Agent.handleMessage_agent sys.agent _
      exact ⟨nodeId, sessions ▸ .same _⟩
  | serviceToRouter =>
    simp only [step] at stepped
    split at stepped <;> cases stepped
    exact ⟨rfl, .same _⟩
  | connectClient s =>
    simp only [step] at stepped
    split at stepped <;> cases stepped <;> exact ⟨rfl, .same _⟩
  | destroyEndpoints =>
    cases stepped
    exact ⟨rfl, .same _⟩

end AgentRouter

/-- Every session of `mSessions` is under its own id and carries the node's id. -/
def SessionIds (nodeId : Uuid) (sessions : UuidMap Session) : Prop :=
  ∀ entry ∈ sessions, entry.2.id = entry.1 ∧ entry.2.nodeId = nodeId

theorem SessionIds.nil (nodeId : Uuid) : SessionIds nodeId [] := nofun

theorem SessionIds.find {nodeId k : Uuid} {sessions : UuidMap Session} {session : Session}
    (ids : SessionIds nodeId sessions) (found : sessions.find k = some session) :
    session.id = k ∧ session.nodeId = nodeId :=
  ids _ (UuidMap.mem_of_find found)

theorem SessionIds.step {nodeId : Uuid} {sessions next : UuidMap Session}
    (ids : SessionIds nodeId sessions) (stepped : SessionsStep nodeId sessions next) :
    SessionIds nodeId next := by
  intro entry member
  cases stepped with
  | same => exact ids entry member
  | create k =>
    rcases UuidMap.mem_insert member with rfl | old
    · exact ⟨rfl, rfl⟩
    · exact ids entry old
  | step k found stepIs =>
    rcases UuidMap.mem_insert member with rfl | old
    · obtain ⟨sameId, sameNode⟩ := Session.step_ids stepIs
      obtain ⟨id, node⟩ := ids.find found
      exact ⟨sameId.trans id, sameNode.trans node⟩
    · exact ids entry old
  | erase k => exact ids entry (List.mem_filter.mp member).1

theorem SessionsStep.ordered {nodeId : Uuid} {sessions next : UuidMap Session}
    (ordered : sessions.Ordered) (stepped : SessionsStep nodeId sessions next) : next.Ordered := by
  cases stepped with
  | same => exact ordered
  | create k => exact ordered.insert _ _
  | step k _ _ => exact ordered.insert _ _
  | erase k => exact ordered.erase _

namespace NodeState

variable {uuidOf uuidText nodesOf} {node next : NodeState}

theorem step_cases {action : ServiceAction} {reply : Option Reply}
    (stepped : node.step uuidOf uuidText nodesOf action = some (next, reply)) :
    (next.closed = node.closed ∧ next.running = node.running ∧ next.registered = node.registered ∧
      (next.system = node.system ∨ (∃ a, node.system.step a = some next.system) ∨
        ∃ k session started sessionAction, node.system.agent.sessions.find k = some session ∧
          session.step sessionAction = some started ∧
          next.system = (node.withSessions (node.system.agent.sessions.insert k started)).system)) ∨
    (next.system = node.system ∧ (next = { node with running := false } ∨
      next = { node with closed := true } ∨ next = { node with registered := false })) := by
  cases action with
  | system a =>
    obtain ⟨system, systemStep, done⟩ := Option.map_eq_some'.mp stepped
    cases done
    exact .inl ⟨rfl, rfl, rfl, .inr (.inl ⟨a, systemStep⟩)⟩
  | request r =>
    have handled : node.handle uuidOf uuidText nodesOf r = (next, reply) := Option.some.inj stepped
    cases r with
    | createSession definition =>
      simp only [handle] at handled
      cases accepted : node.createSession uuidOf uuidText nodesOf definition with
      | error thrown =>
        rw [accepted] at handled
        cases handled
        exact .inl ⟨rfl, rfl, rfl, .inl rfl⟩
      | ok result =>
        rw [accepted] at handled
        cases handled
        obtain ⟨-, config, -, -, systemStep, -, closed, running, registered⟩ := createSession_ok accepted
        exact .inl ⟨closed, running, registered, .inr (.inl ⟨_, systemStep⟩)⟩
    | modifySession definition =>
      simp only [handle] at handled
      cases accepted : node.modifySession uuidOf uuidText definition with
      | error thrown =>
        rw [accepted] at handled
        cases handled
        exact .inl ⟨rfl, rfl, rfl, .inl rfl⟩
      | ok result =>
        obtain ⟨result, response⟩ := result
        rw [accepted] at handled
        cases handled
        obtain ⟨-, config, session, started, -, found, updated, rfl, -⟩ := modifySession_ok accepted
        exact .inl ⟨rfl, rfl, rfl, .inr (.inr ⟨_, session, started,
          .asyncUpdateConfig config.sessionId config.nodeId, found, by simp [Session.step, updated], rfl⟩)⟩
    | deleteSession sessionId reason =>
      simp only [handle] at handled
      cases accepted : node.deleteSession sessionId reason with
      | error thrown =>
        rw [accepted] at handled
        cases handled
        exact .inl ⟨rfl, rfl, rfl, .inl rfl⟩
      | ok result =>
        rw [accepted] at handled
        cases handled
        obtain ⟨systemStep, -, closed, running, registered⟩ := deleteSession_ok accepted
        exact .inl ⟨closed, running, registered, .inr (.inl ⟨_, systemStep⟩)⟩
    | signalSession sessionId signalData =>
      simp only [handle] at handled
      split at handled <;> cases handled <;> exact .inl ⟨rfl, rfl, rfl, .inl rfl⟩
    | setStatus status =>
      simp only [handle] at handled
      cases accepted : node.setStatus status with
      | error thrown =>
        rw [accepted] at handled
        cases handled
        exact .inl ⟨rfl, rfl, rfl, .inl rfl⟩
      | ok result =>
        rw [accepted] at handled
        cases handled
        rcases setStatus_ok accepted with rfl | rfl | rfl
        · exact .inr ⟨rfl, .inl rfl⟩
        · exact .inr ⟨rfl, .inr (.inl rfl)⟩
        · exact .inr ⟨rfl, .inr (.inr rfl)⟩
    | activeSessions =>
      cases handled
      exact .inl ⟨rfl, rfl, rfl, .inl rfl⟩

theorem step_sessions {action : ServiceAction} {reply : Option Reply}
    (stepped : node.step uuidOf uuidText nodesOf action = some (next, reply)) :
    next.system.agent.nodeId = node.system.agent.nodeId ∧
      SessionsStep node.system.agent.nodeId node.system.agent.sessions next.system.agent.sessions := by
  rcases step_cases stepped with
    ⟨-, -, -, same | ⟨a, systemStep⟩ | ⟨k, session, started, a, found, stepIs, systemIs⟩⟩ | ⟨same, -⟩
  · rw [same]
    exact ⟨rfl, .same _⟩
  · exact AgentRouter.step_sessions systemStep
  · rw [systemIs]
    exact ⟨rfl, .step _ _ found stepIs⟩
  · rw [same]
    exact ⟨rfl, .same _⟩

theorem run_preserves (P : NodeState → Prop)
    (preserved : ∀ {node next : NodeState} {action : ServiceAction} {reply : Option Reply},
      P node → node.step uuidOf uuidText nodesOf action = some (next, reply) → P next)
    {actions : List ServiceAction} {replies : List Reply} (holds : P node)
    (ran : node.run uuidOf uuidText nodesOf actions = some (next, replies)) : P next := by
  induction actions generalizing node replies with
  | nil =>
    cases ran
    exact holds
  | cons action rest ih =>
    obtain ⟨⟨middle, reply⟩, stepped, ran⟩ := Option.bind_eq_some.mp ran
    obtain ⟨⟨last, later⟩, ranRest, done⟩ := Option.map_eq_some'.mp ran
    cases done
    exact ih (preserved holds stepped) ranRest

theorem sessionIds_run {actions : List ServiceAction} {replies : List Reply}
    (ids : SessionIds node.system.agent.nodeId node.system.agent.sessions)
    (ran : node.run uuidOf uuidText nodesOf actions = some (next, replies)) :
    SessionIds next.system.agent.nodeId next.system.agent.sessions :=
  run_preserves (fun node => SessionIds node.system.agent.nodeId node.system.agent.sessions)
    (fun ids stepped => by
      obtain ⟨sameNode, sessionsStep⟩ := step_sessions stepped
      rw [sameNode]
      exact ids.step sessionsStep) ids ran

theorem ordered_run {actions : List ServiceAction} {replies : List Reply}
    (ordered : node.system.agent.sessions.Ordered)
    (ran : node.run uuidOf uuidText nodesOf actions = some (next, replies)) :
    next.system.agent.sessions.Ordered :=
  run_preserves (fun node => node.system.agent.sessions.Ordered)
    (fun ordered stepped => (step_sessions stepped).2.ordered ordered) ordered ran

theorem closed_run {actions : List ServiceAction} {replies : List Reply} (closed : node.closed = true)
    (ran : node.run uuidOf uuidText nodesOf actions = some (next, replies)) : next.closed = true :=
  run_preserves (fun node => node.closed = true)
    (fun closed stepped => by
      rcases step_cases stepped with ⟨same, -⟩ | ⟨-, rfl | rfl | rfl⟩
      · exact same.trans closed
      all_goals first | exact closed | rfl) closed ran

/-- On a node reached from its start, the node id is the one it started with, `mSessions` is in
ascending id order, and each session is stored under its own id and carries the node's id. -/
theorem reachable_sessions {nodeId : Uuid} {actions : List ServiceAction} {replies : List Reply}
    (ran : (init nodeId).run uuidOf uuidText nodesOf actions = some (node, replies)) :
    node.system.agent.nodeId = nodeId ∧ node.system.agent.sessions.Ordered ∧
      ∀ k session, node.system.agent.sessions.find k = some session →
        session.id = k ∧ session.nodeId = nodeId := by
  have sameNode : node.system.agent.nodeId = nodeId :=
    run_preserves (fun node => node.system.agent.nodeId = nodeId)
      (fun same stepped => (step_sessions stepped).1.trans same) rfl ran
  refine ⟨sameNode, ordered_run (show UuidMap.Ordered ([] : UuidMap Session) from .nil) ran,
    fun k session found => ?_⟩
  rw [← sameNode]
  exact (sessionIds_run (SessionIds.nil nodeId) ran).find found

theorem reachable_sessions_created :
    ∃ node replies, (init 3).run String.length SessionConfig.sampleText (fun _ _ => [])
        [.request (.createSession SessionConfig.sampleDescription)] = some (node, replies) ∧
      node.system.agent.nodeId = 3 ∧ node.system.agent.sessions.Ordered ∧
      ∀ k session, node.system.agent.sessions.find k = some session →
        session.id = k ∧ session.nodeId = 3 :=
  ⟨_, _, rfl, @reachable_sessions String.length SessionConfig.sampleText (fun _ _ => []) _ 3
    [.request (.createSession SessionConfig.sampleDescription)] _ rfl⟩

theorem readConfig_ok {definition : Value} {config : SessionConfig}
    (read : node.readConfig uuidOf uuidText definition = .ok config) :
    SessionConfig.create uuidOf uuidText definition node.system.agent.nodeId = .ok config := by
  unfold readConfig at read
  cases created : SessionConfig.create uuidOf uuidText definition node.system.agent.nodeId <;>
    simp_all [Except.mapError]

theorem readConfig_error {definition : Value} {thrown : Thrown}
    (refused : node.readConfig uuidOf uuidText definition = .error thrown) : thrown = .other := by
  unfold readConfig at refused
  cases created : SessionConfig.create uuidOf uuidText definition node.system.agent.nodeId <;>
    simp_all [Except.mapError]

/-! ### The node over its runs -/

/-- Once the node is closed, every later create or modify request is refused with a conflict and
changes nothing, whatever runs in between. -/
theorem closed_node_refuses {actions : List ServiceAction} {replies : List Reply}
    (closed : node.closed = true) (ran : node.run uuidOf uuidText nodesOf actions = some (next, replies))
    (definition : Value) :
    next.handle uuidOf uuidText nodesOf (.createSession definition) =
        (next, some (.error httpResourceConflict "Node is closed : cannot accept new sessions")) ∧
      next.handle uuidOf uuidText nodesOf (.modifySession definition) =
        (next, some (.error httpResourceConflict "Node is closed : cannot modify sessions")) := by
  have refused : ∀ detail, next.checkOpen detail =
      .error (.operation { detail, httpCode := httpResourceConflict }) := fun detail => by
    simp [checkOpen, closed_run closed ran, throw, throwThe, MonadExceptOf.throw]
  simp only [handle, createSession, modifySession, refused]
  exact ⟨rfl, rfl⟩

/-- A create on node 3, then PUT status "close". -/
def createThenClose : List ServiceAction :=
  [.request (.createSession SessionConfig.sampleDescription),
    .request (.setStatus (.object [("status", .string "close")]))]

/-- Requests after the close: a create, a modify, the router's step and GET sessions. -/
def afterClose : List ServiceAction :=
  [.request (.createSession SessionConfig.sampleDescription),
    .request (.modifySession SessionConfig.sampleDescription), .system .serviceToRouter,
    .request .activeSessions]

theorem closed_node_refuses_after_close :
    ∃ node next replies replies', (init 3).run String.length SessionConfig.sampleText (fun _ _ => [])
        createThenClose = some (node, replies) ∧ node.closed = true ∧
      node.run String.length SessionConfig.sampleText (fun _ _ => []) afterClose = some (next, replies') ∧
      next.handle String.length SessionConfig.sampleText (fun _ _ => []) (.createSession .null) =
        (next, some (.error httpResourceConflict "Node is closed : cannot accept new sessions")) ∧
      next.handle String.length SessionConfig.sampleText (fun _ _ => []) (.modifySession .null) =
        (next, some (.error httpResourceConflict "Node is closed : cannot modify sessions")) := by
  refine ⟨_, _, _, _, rfl, ?closed, Option.eq_some_of_isSome ?ran,
    @closed_node_refuses _ _ _ _ _ _ _ ?closed (Option.eq_some_of_isSome ?ran) .null⟩
  case closed => rfl
  case ran => decide

/-- A description the `SessionConfig` constructor refuses is answered 500 with the generic text,
by create and modify alike, and changes nothing: the constructor's own message never reaches
Coordinator. -/
theorem malformed_definition_unknown_error {definition : Value} {error : ConfigError}
    (opened : node.closed = false)
    (refused : SessionConfig.create uuidOf uuidText definition node.system.agent.nodeId = .error error) :
    node.handle uuidOf uuidText nodesOf (.createSession definition) =
        (node, some (.error httpInternalServerError unknownExceptionThrown)) ∧
      node.handle uuidOf uuidText nodesOf (.modifySession definition) =
        (node, some (.error httpInternalServerError unknownExceptionThrown)) := by
  have opens : ∀ detail, node.checkOpen detail = .ok () := fun detail => by
    simp [checkOpen, opened, pure, Except.pure]
  have unread : node.readConfig uuidOf uuidText definition = .error .other := by
    simp [readConfig, refused, Except.mapError]
  simp only [handle, createSession, modifySession, opens, unread]
  exact ⟨rfl, rfl⟩

/-- On a node reached from its start, a modify request is refused only by the closed check, by the
lookup, or by the found session's own state check, or answered 500: the config's ids always
match the session it finds. -/
theorem modify_refusals {nodeId : Uuid} {actions : List ServiceAction} {replies : List Reply}
    (ran : (init nodeId).run uuidOf uuidText nodesOf actions = some (node, replies))
    {definition : Value} {error : SessionError}
    (refused : node.modifySession uuidOf uuidText definition = .error (.operation error)) :
    error = { detail := "Node is closed : cannot modify sessions", httpCode := httpResourceConflict } ∨
      error = { detail := "Session doesn\x27t exist", httpCode := httpNotFound } ∨
      ∃ config session, node.readConfig uuidOf uuidText definition = .ok config ∧
        node.system.agent.sessions.find config.sessionId = some session ∧
        session.checkOperation "modified" = some error := by
  have ids : SessionIds node.system.agent.nodeId node.system.agent.sessions :=
    sessionIds_run (SessionIds.nil nodeId) ran
  simp only [modifySession, except_bind_eq_error] at refused
  rcases refused with closed | ⟨_, -, unread | ⟨config, read, refused⟩⟩
  · unfold checkOpen at closed
    split at closed <;> cases closed
    exact .inl rfl
  · cases readConfig_error unread
  · cases found : node.system.agent.sessions.find config.sessionId with
    | none =>
      rw [found] at refused
      cases refused
      exact .inr (.inl rfl)
    | some session =>
      obtain ⟨id, nodeIs⟩ := ids.find found
      have sameNode : session.nodeId = config.nodeId :=
        nodeIs.trans (SessionConfig.create_ok (readConfig_ok read)).1.symm
      simp only [found, Session.asyncUpdateConfig_of_ids id sameNode] at refused
      cases checked : session.checkOperation "modified" with
      | none =>
        rw [session.startOperation_accepted _ _ checked] at refused
        cases refused
      | some e =>
        rw [session.startOperation_refused _ _ _ checked] at refused
        cases refused
        exact .inr (.inr ⟨config, session, read, found, checked⟩)

/-- A create on node 3 and a modify, which starts `applyNewConfig`. -/
def createThenModify : List ServiceAction :=
  [.request (.createSession SessionConfig.sampleDescription),
    .request (.modifySession SessionConfig.sampleDescription)]

/-- A second modify finds the session busy with the first. -/
theorem modify_refusals_busy_session :
    ∃ node replies, (init 3).run String.length SessionConfig.sampleText (fun _ _ => [])
        createThenModify = some (node, replies) ∧
      node.modifySession String.length SessionConfig.sampleText SessionConfig.sampleDescription =
        .error (.operation
          { detail := "Session is busy and cannot be modified", httpCode := httpResourceConflict }) ∧
      (({ detail := "Session is busy and cannot be modified", httpCode := httpResourceConflict } :
          SessionError) =
          { detail := "Node is closed : cannot modify sessions", httpCode := httpResourceConflict } ∨
        ({ detail := "Session is busy and cannot be modified", httpCode := httpResourceConflict } :
          SessionError) = { detail := "Session doesn\x27t exist", httpCode := httpNotFound } ∨
        ∃ config session, node.readConfig String.length SessionConfig.sampleText
            SessionConfig.sampleDescription = .ok config ∧
          node.system.agent.sessions.find config.sessionId = some session ∧
          session.checkOperation "modified" =
            some { detail := "Session is busy and cannot be modified", httpCode := httpResourceConflict }) := by
  refine ⟨_, _, Option.eq_some_of_isSome ?ran, ?refused,
    @modify_refusals _ _ _ _ _ _ _ (Option.eq_some_of_isSome ?ran) _ _ ?refused⟩
  case ran => decide
  case refused => rfl

theorem activeSessionIds_eq (ids : SessionIds node.system.agent.nodeId node.system.agent.sessions) :
    node.activeSessionIds =
      (node.system.agent.sessions.filter fun entry => entry.2.state ≠ .defunct).map Prod.fst := by
  rw [← List.filterMap_eq_map, List.filterMap_filter, activeSessionIds]
  refine List.filterMap_congr fun entry member => ?_
  rw [(ids entry member).1]
  simp

/-- On a node reached from its start, GET sessions writes, as a JSON array of strings, the ids of
exactly the sessions that are not defunct, in ascending order. -/
theorem activeSessions_reply {nodeId : Uuid} {actions : List ServiceAction} {replies : List Reply}
    (ran : (init nodeId).run uuidOf uuidText nodesOf actions = some (node, replies)) :
    ∃ active : List Uuid,
      node.handle uuidOf uuidText nodesOf .activeSessions = (node, some (.body
        ("[ " ++ ", ".intercalate (active.map fun id => "\"" ++ uuidText id ++ "\"") ++ " ]"))) ∧
      active.Pairwise (· < ·) ∧
      ∀ k, k ∈ active ↔ ∃ session, node.system.agent.sessions.find k = some session ∧
        session.state ≠ .defunct := by
  have ordered : node.system.agent.sessions.Ordered :=
    ordered_run (show UuidMap.Ordered ([] : UuidMap Session) from .nil) ran
  refine ⟨(node.system.agent.sessions.filter fun entry => entry.2.state ≠ .defunct).map Prod.fst,
    ?_, ?_, fun k => ?_⟩
  · rw [handle, activeSessionIds_eq (sessionIds_run (SessionIds.nil nodeId) ran), sessionsText_eq]
    simp only [List.map_map]
    rfl
  · exact List.Pairwise.sublist ((List.filter_sublist _).map Prod.fst) ordered
  · simp only [List.mem_map, List.mem_filter, decide_eq_true_eq]
    constructor
    · rintro ⟨⟨k', session⟩, ⟨member, active⟩, rfl⟩
      exact ⟨session, UuidMap.find_of_mem ordered.nodup member, active⟩
    · rintro ⟨session, found, active⟩
      exact ⟨(k, session), ⟨UuidMap.mem_of_find found, active⟩, rfl⟩

theorem activeSessions_reply_created :
    ∃ node replies, (init 3).run String.length SessionConfig.sampleText (fun _ _ => [])
        [.request (.createSession SessionConfig.sampleDescription)] = some (node, replies) ∧
      ∃ active : List Uuid,
        node.handle String.length SessionConfig.sampleText (fun _ _ => []) .activeSessions =
          (node, some (.body ("[ " ++ ", ".intercalate
            (active.map fun id => "\"" ++ SessionConfig.sampleText id ++ "\"") ++ " ]"))) ∧
        active.Pairwise (· < ·) ∧
        ∀ k, k ∈ active ↔ ∃ session, node.system.agent.sessions.find k = some session ∧
          session.state ≠ .defunct :=
  ⟨_, _, rfl, @activeSessions_reply String.length SessionConfig.sampleText (fun _ _ => []) _ 3
    [.request (.createSession SessionConfig.sampleDescription)] _ rfl⟩

end NodeState

/-! ### GET status: `getIdleStatus` -/

/-- `static_cast<int>` of a `long`: its low 32 bits, as a signed number. -/
def castInt (x : Int) : Int := (x + 2147483648) % 4294967296 - 2147483648

def setSessionField (index : Nat) (field : String) (value : Value) (out : Value) : Option Value :=
  out.modifyMember "sessions" fun list =>
    list.modifyIndex index fun item => item.modifyMember field fun _ => some value

/-- One session of the loop of `getIdleStatus`, given its id and `getLastActivitySecs(true)`. -/
def idleStep (uuidText : Uuid → String) (now : Int) (index : Nat) (acc : Int × Value)
    (session : Uuid × Int) : Option (Int × Value) := do
  let out ← setSessionField index "id" (.string (uuidText session.1)) acc.2
  let out ← setSessionField index "idletime" (.int (castInt (now - session.2))) out
  pure (if session.2 > acc.1 then session.2 else acc.1, out)

/-- `ArrasSessions::getIdleStatus` over the sessions in id order: `index` starts at 0 and is never
incremented. -/
def getIdleStatus (uuidText : Uuid → String) (startTimeSecs now : Int) (sessions : List (Uuid × Int))
    (out : Value) : Option Value := do
  let index := 0
  let result ← sessions.foldlM (idleStep uuidText now index) (startTimeSecs, out)
  result.2.modifyMember "idletime" fun _ => some (.int (castInt (now - result.1)))

def idleEntry (uuidText : Uuid → String) (now : Int) (session : Uuid × Int) : Value :=
  .object [("id", .string (uuidText session.1)), ("idletime", .int (castInt (now - session.2)))]

section IdleStatus

variable {uuidText : Uuid → String} {now : Int}

theorem insert_idletime_new (a w : Value) :
    Members.insert [("id", a)] "idletime" w = [("id", a), ("idletime", w)] := rfl

theorem insert_id_entry (a b v : Value) :
    Members.insert [("id", a), ("idletime", b)] "id" v = [("id", v), ("idletime", b)] := rfl

theorem insert_idletime_entry (a b w : Value) :
    Members.insert [("id", a), ("idletime", b)] "idletime" w = [("id", a), ("idletime", w)] := rfl

/-- One session of the loop on an object whose `sessions` is missing or holds one entry: the
entry becomes the session's, and nothing else changes. -/
theorem idleStep_spec {acc : Int × Value} {members : List (String × Value)}
    (object : acc.2 = .object members)
    (shaped : acc.2.get "sessions" = .null ∨
      ∃ a b, acc.2.get "sessions" = .array [.object [("id", a), ("idletime", b)]])
    (session : Uuid × Int) :
    ∃ members', idleStep uuidText now 0 acc session = some (max acc.1 session.2, .object members') ∧
      (Value.object members').get "sessions" = .array [idleEntry uuidText now session] ∧
      ∀ k, k ≠ "sessions" → (Value.object members').get k = acc.2.get k := by
  obtain ⟨mostRecent, out⟩ := acc
  simp only at object shaped ⊢
  subst object
  have latest : (if session.2 > mostRecent then session.2 else mostRecent) = max mostRecent session.2 := by
    rw [max_def]
    split_ifs <;> omega
  rcases shaped with null | ⟨a, b, entry⟩
  · simp only [Value.get_object] at null
    simp [idleStep, setSessionField, null, Value.modifyIndex, idleEntry, insert_idletime_new, latest]
    exact fun k other => by simp [other]
  · simp only [Value.get_object] at entry
    simp [idleStep, setSessionField, entry, Value.modifyIndex, idleEntry, insert_id_entry,
      insert_idletime_entry, latest]
    exact fun k other => by simp [other]

theorem foldlM_idleStep {sessions : List (Uuid × Int)} {acc : Int × Value}
    {members : List (String × Value)} (object : acc.2 = .object members)
    (shaped : acc.2.get "sessions" = .null ∨
      ∃ a b, acc.2.get "sessions" = .array [.object [("id", a), ("idletime", b)]]) :
    ∃ members', sessions.foldlM (idleStep uuidText now 0) acc =
        some (sessions.foldl (fun m session => max m session.2) acc.1, .object members') ∧
      (Value.object members').get "sessions" =
        (sessions.getLast?.map fun last => .array [idleEntry uuidText now last]).getD
          (acc.2.get "sessions") ∧
      ∀ k, k ≠ "sessions" → (Value.object members').get k = acc.2.get k := by
  induction sessions generalizing acc members with
  | nil =>
    obtain ⟨mostRecent, out⟩ := acc
    simp only at object
    subst object
    exact ⟨members, rfl, rfl, fun _ _ => rfl⟩
  | cons session rest ih =>
    obtain ⟨first, stepped, entry, others⟩ := idleStep_spec object shaped session
    obtain ⟨last, ran, lastEntry, lastOthers⟩ :=
      @ih (max acc.1 session.2, .object first) first rfl (.inr ⟨_, _, entry⟩)
    refine ⟨last, by rw [List.foldlM_cons, stepped]; exact ran, ?_,
      fun k other => (lastOthers k other).trans (others k other)⟩
    rw [lastEntry, entry, List.getLast?_cons]
    cases rest.getLast? <;> rfl

/-- `getIdleStatus` writes the node's idle time since its latest activity, but, its index never
moving, a `sessions` array of one entry, the last session's, however many sessions there are; the
other members of the body are kept. -/
theorem getIdleStatus_one_entry {startTimeSecs : Int} {sessions : List (Uuid × Int)}
    {members : List (String × Value)} (absent : Members.find members "sessions" = none) :
    ∃ result, getIdleStatus uuidText startTimeSecs now sessions (.object members) = some result ∧
      result.get "sessions" =
        (sessions.getLast?.map fun last => .array [idleEntry uuidText now last]).getD .null ∧
      result.get "idletime" =
        .int (castInt (now - sessions.foldl (fun m session => max m session.2) startTimeSecs)) ∧
      ∀ k, k ≠ "sessions" → k ≠ "idletime" → result.get k = (Value.object members).get k := by
  obtain ⟨last, ran, entry, others⟩ := @foldlM_idleStep uuidText now sessions (startTimeSecs, .object members)
    members rfl (.inl (by simp [absent]))
  refine ⟨_, by simp only [getIdleStatus, ran, Option.bind_eq_bind, Option.some_bind]; rfl, ?_, ?_,
    fun k other notIdle => ?_⟩
  · simpa [absent] using entry
  · simp
  · simpa [notIdle] using others k other

theorem getIdleStatus_two_sessions :
    ∃ result, getIdleStatus SessionConfig.sampleText 0 100 [(5, 40), (7, 60)]
        (.object [("status", .string "UP")]) = some result ∧
      result.get "sessions" = (([(5, 40), (7, 60)] : List (Uuid × Int)).getLast?.map
        fun last => .array [idleEntry SessionConfig.sampleText 100 last]).getD .null ∧
      result.get "idletime" = .int (castInt (100 - ([(5, 40), (7, 60)] : List (Uuid × Int)).foldl
        (fun m session => max m session.2) 0)) ∧
      ∀ k, k ≠ "sessions" → k ≠ "idletime" →
        result.get k = (Value.object [("status", .string "UP")]).get k :=
  getIdleStatus_one_entry rfl

end IdleStatus

/-! ### The first update of a new session -/

/-- `Session::applyNewConfig` on a new session, with the computations of an accepted description
and every process spawning: it shuts nothing down, throws nothing, and starts, in ascending id
order, exactly the computations the description places on this node. -/
theorem create_then_applyNewConfig {uuidOf : String → Uuid} {uuidText : Uuid → String}
    {desc : Value} {nodeId : Uuid} {config : SessionConfig}
    (accepted : SessionConfig.create uuidOf uuidText desc nodeId = .ok config) :
    ∃ members,
      ((desc.get "routing").get (uuidText config.sessionId)).get "computations" = .object members ∧
      (applyNewConfig (fun _ => true) (fun _ => true) [] config.computations).error = none ∧
      (applyNewConfig (fun _ => true) (fun _ => true) [] config.computations).terminated = [] ∧
      (applyNewConfig (fun _ => true) (fun _ => true) [] config.computations).started.Pairwise (· < ·) ∧
      ∀ c, c ∈ (applyNewConfig (fun _ => true) (fun _ => true) [] config.computations).started ↔
        c ∈ (SessionConfig.placed uuidOf nodeId members).map Prod.fst := by
  obtain ⟨-, members, listed, collected⟩ := SessionConfig.create_ok accepted
  have applied : applyNewConfig (fun _ => true) (fun _ => true) [] config.computations =
      ⟨config.computations.keys.foldl (fun m c => m.insert c .spawned) [], [], config.computations.keys,
        none⟩ := by
    simp [applyNewConfig, getConfigDelta, waitUntilShutdown_of_exits, startNewComputations_of_spawns,
      UuidMap.keys]
  rw [applied]
  refine ⟨members, listed, rfl, rfl, SessionConfig.create_ordered accepted, fun c => ?_⟩
  rw [UuidMap.mem_keys, SessionConfig.collect_find collected]
  simp

theorem create_then_applyNewConfig_sample :
    ∃ config, SessionConfig.create String.length SessionConfig.sampleText
        SessionConfig.sampleDescription 3 = .ok config ∧
      ∃ members, ((SessionConfig.sampleDescription.get "routing").get
          (SessionConfig.sampleText config.sessionId)).get "computations" = .object members ∧
        (applyNewConfig (fun _ => true) (fun _ => true) [] config.computations).error = none ∧
        (applyNewConfig (fun _ => true) (fun _ => true) [] config.computations).terminated = [] ∧
        (applyNewConfig (fun _ => true) (fun _ => true) [] config.computations).started.Pairwise
          (· < ·) ∧
        ∀ c, c ∈ (applyNewConfig (fun _ => true) (fun _ => true) [] config.computations).started ↔
          c ∈ (SessionConfig.placed String.length 3 members).map Prod.fst :=
  ⟨_, rfl, @create_then_applyNewConfig String.length SessionConfig.sampleText
    SessionConfig.sampleDescription 3 _ rfl⟩

end Arras4.Node
