import ArrasNode.Session.Controller

/-! `ArrasSessions::createSession`'s refusals, and what `deleteSession` leaves in `mSessions`.
`deleteSession` starts `deleteProc` and keeps the `Session`, which ends defunct and is never
removed; only a `createSession` of the same id still waiting in `initializeSession` erases it,
on timeout. So once a session is defunct with no such call pending, every later `createSession`
of its id fails with "Session already exists", over every run of the node's two processes. -/
namespace Arras4.Node

namespace Session

/-- A defunct session stays defunct: no step of it starts an operation or frees it. -/
theorem step_state_of_defunct {session next : Session} {action : Action}
    (defunct : session.state = .defunct) (stepped : session.step action = some next) :
    next.state = .defunct := by
  rcases step_cases stepped with rfl | ⟨-, free, -⟩ | ⟨body, -, -, rfl⟩ | ⟨-, -, rfl⟩ | ⟨-, -, -, rfl⟩ |
    ⟨-, rfl⟩ | ⟨-, -, rfl⟩
  · exact defunct
  · rw [defunct] at free; cases free
  · cases body <;> simp [operationDone, defunct]
  all_goals simp [syncShutdownBegin, defunct]

end Session

namespace Agent

variable {agent : Agent} {sessionId : Uuid}

/-- The checks `ArrasSessions::createSession` makes before it makes the session: `mClosed`, set
by `setClosed`, then the id's presence in `mSessions`. -/
def createSessionError (agent : Agent) (closed : Bool) (sessionId : Uuid) : Option SessionError :=
  if closed then
    some { detail := "Node is closed : cannot accept new sessions", httpCode := httpResourceConflict }
  else
    match agent.sessions.find sessionId with
    | some _ => some { detail := "Session already exists", httpCode := httpResourceConflict }
    | none => none

/-- A session that is defunct, with no `createSession` of its id waiting in `initializeSession`. -/
structure Settled (agent : Agent) (sessionId : Uuid) : Prop where
  defunct : ∃ session, agent.sessions.find sessionId = some session ∧ session.state = .defunct
  notCreating : ∀ call ∈ agent.creating, call.1 ≠ sessionId

theorem Settled.createSessionError (settled : agent.Settled sessionId) :
    agent.createSessionError false sessionId =
      some { detail := "Session already exists", httpCode := httpResourceConflict } := by
  obtain ⟨session, found, -⟩ := settled.defunct
  simp [Agent.createSessionError, found]

/-- The sessions and calls of an agent, and of the agent after a step, agree at `sessionId`. -/
theorem Settled.of_same {next : Agent} (settled : agent.Settled sessionId)
    (sessions : next.sessions.find sessionId = agent.sessions.find sessionId)
    (creating : ∀ call ∈ next.creating, call ∈ agent.creating) : next.Settled sessionId :=
  ⟨sessions ▸ settled.defunct, fun call member => settled.notCreating call (creating call member)⟩

theorem Settled.createSession (settled : agent.Settled sessionId) (s : Uuid)
    (nodes : List NodeEntry) : (agent.createSession s nodes).1.Settled sessionId := by
  obtain ⟨⟨session, found, defunct⟩, notCreating⟩ := settled
  unfold Agent.createSession
  cases present : agent.sessions.find s with
  | some _ => exact ⟨⟨session, found, defunct⟩, notCreating⟩
  | none =>
    have other : s ≠ sessionId := fun same => by simp [same, found] at present
    refine ⟨⟨session, by simp [Ne.symm other, found], defunct⟩, fun call member => ?_⟩
    rcases List.mem_append.mp member with old | new
    · exact notCreating call old
    · rw [List.mem_singleton.mp new]
      exact other

theorem Settled.initialized (settled : agent.Settled sessionId) {s : Uuid} {next : Agent}
    (done : agent.initialized s = some next) : next.Settled sessionId := by
  unfold Agent.initialized at done
  split at done
  · rename_i call session waiting _
    split_ifs at done
    cases done
    have other : s ≠ sessionId := fun same =>
      settled.notCreating call (List.mem_of_find?_eq_some waiting) (by
        simpa [same] using List.find?_some waiting)
    exact settled.of_same (by simp [Ne.symm other]) fun _ member => List.mem_of_mem_erase member
  · cases done

theorem Settled.initializeTimeout (settled : agent.Settled sessionId) {s : Uuid} {next : Agent}
    (done : agent.initializeTimeout s = some next) : next.Settled sessionId := by
  unfold Agent.initializeTimeout at done
  split at done
  · rename_i call waiting
    split_ifs at done
    cases done
    have other : s ≠ sessionId := fun same =>
      settled.notCreating call (List.mem_of_find?_eq_some waiting) (by
        simpa [same] using List.find?_some waiting)
    exact settled.of_same (by simp [Ne.symm other]) fun _ member => List.mem_of_mem_erase member
  · cases done

theorem Settled.deleteSession (settled : agent.Settled sessionId) (s : Uuid) (reason : String) :
    (agent.deleteSession s reason).Settled sessionId := by
  unfold Agent.deleteSession
  split
  · rename_i session found
    split
    · rename_i started accepted
      by_cases same : s = sessionId
      · -- a defunct session refuses `asyncDelete`
        subst same
        obtain ⟨defunctSession, defunctFound, defunct⟩ := settled.defunct
        rw [found, Option.some.injEq] at defunctFound
        subst defunctFound
        obtain ⟨error, refused, -⟩ :=
          session.startOperation_of_not_free (by simp [defunct]) "deleted" .deleteProc
        simp [Session.asyncDelete, refused] at accepted
      · exact settled.of_same (by simp [Ne.symm same]) fun _ member => member
    · exact settled
  · exact settled

theorem Settled.shutdownSession (settled : agent.Settled sessionId) {s : Uuid}
    {result : Agent × List AgentMessage} (done : agent.shutdownSession s = some result) :
    result.1.Settled sessionId := by
  unfold Agent.shutdownSession at done
  split at done
  · cases done
    exact settled.of_same rfl fun _ member => member
  · cases done

theorem Settled.finish (settled : agent.Settled sessionId) {s : Uuid} {body : OperationBody}
    {next : Agent} (done : agent.finish s body = some next) : next.Settled sessionId := by
  unfold Agent.finish at done
  split at done
  · rename_i session found
    split_ifs at done
    all_goals
      obtain ⟨finished, stepped, rfl⟩ := Option.map_eq_some'.mp done
      by_cases same : s = sessionId
      · subst same
        obtain ⟨defunctSession, defunctFound, defunct⟩ := settled.defunct
        rw [found, Option.some.injEq] at defunctFound
        subst defunctFound
        exact ⟨⟨finished, by simp, Session.step_state_of_defunct defunct stepped⟩,
          settled.notCreating⟩
      · exact settled.of_same (by simp [Ne.symm same]) fun _ member => member
  · cases done

theorem Settled.handleMessage (settled : agent.Settled sessionId) (message : RouterMessage) :
    (agent.handleMessage message).1.Settled sessionId := by
  cases message with
  | acknowledge => exact settled.of_same rfl fun _ member => member
  | clientConnectionStatus s reason =>
    simp only [Agent.handleMessage]
    split_ifs
    · split
      · split_ifs <;> exact settled
      · exact settled
    · exact settled

end Agent

namespace AgentRouter

variable {sessionId : Uuid}

theorem settled_step {sys next : AgentRouter} {action : AgentRouterAction}
    (settled : sys.agent.Settled sessionId) (stepped : sys.step action = some next) :
    next.agent.Settled sessionId := by
  cases action with
  | createSession s nodes => cases stepped; exact settled.createSession s nodes
  | initialized s =>
    obtain ⟨agent, done, rfl⟩ := Option.map_eq_some'.mp stepped
    exact settled.initialized done
  | initializeTimeout s =>
    obtain ⟨agent, done, rfl⟩ := Option.map_eq_some'.mp stepped
    exact settled.initializeTimeout done
  | deleteSession s reason => cases stepped; exact settled.deleteSession s reason
  | shutdownSession s =>
    obtain ⟨result, done, rfl⟩ := Option.map_eq_some'.mp stepped
    exact settled.shutdownSession done
  | finish s body =>
    obtain ⟨agent, done, rfl⟩ := Option.map_eq_some'.mp stepped
    exact settled.finish done
  | handleMessage =>
    simp only [step] at stepped
    split at stepped <;> cases stepped
    exact settled.handleMessage _
  | serviceToRouter =>
    simp only [step] at stepped
    split at stepped <;> cases stepped
    exact settled
  | connectClient s =>
    simp only [step] at stepped
    split at stepped <;> cases stepped <;> exact settled
  | destroyEndpoints => cases stepped; exact settled

end AgentRouter

/-- Session 5 is created on its entry node, initialized, and deleted; `deleteProc` runs to its end. -/
def createThenDelete : List AgentRouterAction :=
  [.createSession 5 entryOnly, .serviceToRouter, .handleMessage, .initialized 5,
    .finish 5 .applyNewConfig, .deleteSession 5 "done", .shutdownSession 5, .finish 5 .deleteProc]

/-- After the delete, a second create and a second delete of session 5 are refused. -/
def recreateAndDelete : List AgentRouterAction :=
  [.createSession 5 entryOnly, .deleteSession 5 "again", .destroyEndpoints, .createSession 5 entryOnly]

end Arras4.Node
