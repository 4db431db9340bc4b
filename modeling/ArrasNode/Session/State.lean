import ArrasNode.Router.Address

/-! The operation discipline of `Session` (Session.cc): the state under `mStateMutex`, the bodies
the operation threads run (`applyNewConfig` in `updateProc`, the computations' shutdown in
`deleteProc`), and `syncShutdown` as `ArrasSessions::shutdownAll` runs it, one at a time under
`mSessionsMutex`. Every call and every thread step is one `Action`; `Inv` holds in every reachable
state, and `session_operation_discipline` follows from it. -/
namespace Arras4.Node

inductive SessionState
  | free
  | busy
  | defunct
deriving DecidableEq, Repr

/-- `SessionError`: the detail text and the HTTP code, 500 unless given. -/
structure SessionError where
  detail : String
  httpCode : Nat := 500
deriving DecidableEq, Repr

def httpResourceConflict : Nat := 409

/-- The body an operation thread runs. -/
inductive OperationBody
  | applyNewConfig
  | deleteProc
deriving DecidableEq, Repr

/-- Where the running `syncShutdown` is: waiting on `mOperationComplete` while the session is
busy, or running `deleteProc` inline. -/
inductive ShutdownPhase
  | idle
  | waiting
  | deleting
deriving DecidableEq, Repr

/-- The session's ids, `mState`, `mShuttingDown`, the operation threads still running their body,
and where a running `syncShutdown` is. -/
structure Session where
  id : Uuid
  nodeId : Uuid
  state : SessionState
  shuttingDown : Bool
  operations : List OperationBody
  shutdown : ShutdownPhase
deriving DecidableEq, Repr

namespace Session

/-- The constructor: `Free`, not shutting down. -/
def create (id nodeId : Uuid) : Session := ⟨id, nodeId, .free, false, [], .idle⟩

/-- The state checks `asyncUpdateConfig` and `asyncDelete` make under `mStateMutex`; `verb` ends
their messages. -/
def checkOperation (session : Session) (verb : String) : Option SessionError :=
  if session.shuttingDown then some { detail := "Session is shutting down" }
  else if session.state = .busy then
    some { detail := "Session is busy and cannot be " ++ verb, httpCode := httpResourceConflict }
  else if session.state = .defunct then
    some { detail := "Session is defunct and cannot be " ++ verb, httpCode := httpResourceConflict }
  else none

def started (session : Session) (body : OperationBody) : Session :=
  { session with state := .busy, operations := session.operations ++ [body] }

/-- The checks, then `mState = Busy` and a new operation thread running `body`. -/
def startOperation (session : Session) (verb : String) (body : OperationBody) :
    Session × Option SessionError :=
  match session.checkOperation verb with
  | some error => (session, some error)
  | none => (session.started body, none)

/-- `Session::asyncUpdateConfig`, for a config with the given session and node ids. -/
def asyncUpdateConfig (session : Session) (configSessionId configNodeId : Uuid) :
    Session × Option SessionError :=
  if session.id ≠ configSessionId then
    (session, some { detail := "Config session id did not match session object." })
  else if session.nodeId ≠ configNodeId then
    (session, some { detail := "Config node id did not match session object." })
  else session.startOperation "modified" .applyNewConfig

def asyncDelete (session : Session) : Session × Option SessionError :=
  session.startOperation "deleted" .deleteProc

def checkIsFree (session : Session) : Option SessionError :=
  if session.state = .busy then some { detail := "Session is busy", httpCode := httpResourceConflict }
  else if session.state = .defunct then
    some { detail := "Session is defunct", httpCode := httpResourceConflict }
  else none

/-- `Session::signal`: past `checkIsFree` it only talks to the computations. -/
def signal (session : Session) : Session × Option SessionError := (session, session.checkIsFree)

/-- The end of an operation thread, once its body has returned or thrown: `updateProc` frees a
busy session, `deleteProc` makes it defunct. -/
def operationDone (session : Session) : OperationBody → Session
  | .applyNewConfig =>
    { session with
      state := if session.state = .busy then .free else session.state
      operations := session.operations.erase .applyNewConfig }
  | .deleteProc => { session with state := .defunct, operations := session.operations.erase .deleteProc }

/-- `syncShutdown` takes `mStateMutex`, sets `mShuttingDown` and waits while the session is busy. -/
def syncShutdownBegin (session : Session) : Session :=
  { session with
    shuttingDown := true
    shutdown := if session.state = .busy then .waiting else .deleting }

/-- The bodies running now: the operation threads', and `syncShutdown`'s inline `deleteProc`. -/
def runningBodies (session : Session) : List OperationBody :=
  session.operations ++ if session.shutdown = .deleting then [.deleteProc] else []

end Session

/-- One call on the session, or one step of a thread it started: an operation thread ending its
body (`finish`); `mOperationComplete` waking `syncShutdown`'s wait, or the wait timing out with
"Session shutdown took too long", which `shutdownAll` logs; the inline `deleteProc` ending. -/
inductive Action
  | asyncUpdateConfig (configSessionId configNodeId : Uuid)
  | asyncDelete
  | signal
  | finish (body : OperationBody)
  | shutdownBegin
  | shutdownWake
  | shutdownTimeout
  | shutdownDone

namespace Session

def step (session : Session) : Action → Option Session
  | .asyncUpdateConfig configSessionId configNodeId =>
    some (session.asyncUpdateConfig configSessionId configNodeId).1
  | .asyncDelete => some session.asyncDelete.1
  | .signal => some session.signal.1
  | .finish body => if body ∈ session.operations then some (session.operationDone body) else none
  | .shutdownBegin => if session.shutdown = .idle then some session.syncShutdownBegin else none
  | .shutdownWake =>
    if session.shutdown = .waiting ∧ session.state ≠ .busy then
      some { session with shutdown := .deleting }
    else none
  | .shutdownTimeout =>
    if session.shutdown = .waiting then some { session with shutdown := .idle } else none
  | .shutdownDone =>
    if session.shutdown = .deleting then some { session with state := .defunct, shutdown := .idle }
    else none

inductive Reachable : Session → Prop
  | create (id nodeId : Uuid) : Reachable (create id nodeId)
  | step {session next : Session} {action : Action} :
    Reachable session → session.step action = some next → Reachable next

section Calls

variable (session : Session)

theorem checkOperation_eq_none (verb : String) :
    session.checkOperation verb = none ↔ session.shuttingDown = false ∧ session.state = .free := by
  unfold checkOperation
  cases session.state <;> cases session.shuttingDown <;> simp

theorem startOperation_refused (verb : String) (body : OperationBody) (error : SessionError)
    (refused : session.checkOperation verb = some error) :
    session.startOperation verb body = (session, some error) := by
  simp [startOperation, refused]

theorem startOperation_accepted (verb : String) (body : OperationBody)
    (accepted : session.checkOperation verb = none) :
    session.startOperation verb body = (session.started body, none) := by
  simp [startOperation, accepted]

/-- An operation either is refused and leaves the session as it was, or starts on a free session
that is not shutting down. -/
theorem startOperation_cases (verb : String) (body : OperationBody) :
    (session.startOperation verb body).1 = session ∨
      (session.shuttingDown = false ∧ session.state = .free ∧
        (session.startOperation verb body).1 = session.started body) := by
  cases checked : session.checkOperation verb with
  | some error => exact .inl (by rw [startOperation_refused session verb body error checked])
  | none =>
    obtain ⟨quiet, free⟩ := (checkOperation_eq_none session verb).mp checked
    exact .inr ⟨quiet, free, by rw [startOperation_accepted session verb body checked]⟩

/-- The errors a refused call raises: "Session is shutting down" once shutdown has begun, a
conflict before. -/
def Refusal (error : SessionError) : Prop :=
  (session.shuttingDown = true → error = { detail := "Session is shutting down" }) ∧
    (session.shuttingDown = false → error.httpCode = httpResourceConflict)

theorem checkOperation_refusal (verb : String) (error : SessionError)
    (refused : session.checkOperation verb = some error) : session.Refusal error := by
  unfold checkOperation at refused
  refine ⟨fun shutting => ?_, fun shutting => ?_⟩ <;>
    simp only [shutting, if_true, if_false, Bool.false_eq_true] at refused
  · exact (Option.some.inj refused).symm
  · split_ifs at refused <;> cases refused <;> rfl

theorem startOperation_of_not_free (notFree : session.state ≠ .free) (verb : String)
    (body : OperationBody) :
    ∃ error, session.startOperation verb body = (session, some error) ∧ session.Refusal error := by
  cases checked : session.checkOperation verb with
  | none => exact absurd ((checkOperation_eq_none session verb).mp checked).2 notFree
  | some error =>
    exact ⟨error, startOperation_refused session verb body error checked,
      session.checkOperation_refusal verb error checked⟩

theorem startOperation_accepted_of (verb : String) (body : OperationBody)
    (accepted : (session.startOperation verb body).2 = none) :
    session.state = .free ∧ session.shuttingDown = false := by
  cases checked : session.checkOperation verb with
  | some error => simp [startOperation_refused session verb body error checked] at accepted
  | none => exact ((checkOperation_eq_none session verb).mp checked).symm

end Calls

theorem step_cases {session next : Session} {action : Action}
    (stepped : session.step action = some next) :
    next = session ∨
    (session.shuttingDown = false ∧ session.state = .free ∧
      (action = .asyncDelete ∧ next = session.started .deleteProc ∨
        ∃ configSessionId configNodeId, action = .asyncUpdateConfig configSessionId configNodeId ∧
          next = session.started .applyNewConfig)) ∨
    (∃ body ∈ session.operations, action = .finish body ∧ next = session.operationDone body) ∨
    (session.shutdown = .idle ∧ action = .shutdownBegin ∧ next = session.syncShutdownBegin) ∨
    (session.shutdown = .waiting ∧ session.state ≠ .busy ∧ action = .shutdownWake ∧
      next = { session with shutdown := .deleting }) ∨
    (session.shutdown = .waiting ∧ next = { session with shutdown := .idle }) ∨
    (session.shutdown = .deleting ∧ action = .shutdownDone ∧
      next = { session with state := .defunct, shutdown := .idle }) := by
  cases action with
  | asyncUpdateConfig configSessionId configNodeId =>
    simp only [step, asyncUpdateConfig, Option.some.injEq] at stepped
    subst stepped
    split_ifs
    · exact .inl rfl
    · exact .inl rfl
    · rcases session.startOperation_cases "modified" .applyNewConfig with same | ⟨quiet, free, start⟩
      · exact .inl same
      · exact .inr (.inl ⟨quiet, free, .inr ⟨_, _, rfl, start⟩⟩)
  | asyncDelete =>
    simp only [step, asyncDelete, Option.some.injEq] at stepped
    subst stepped
    rcases session.startOperation_cases "deleted" .deleteProc with same | ⟨quiet, free, start⟩
    · exact .inl same
    · exact .inr (.inl ⟨quiet, free, .inl ⟨rfl, start⟩⟩)
  | signal => exact .inl (by simpa [step, signal] using stepped.symm)
  | finish body =>
    simp only [step] at stepped
    split_ifs at stepped with running
    exact .inr (.inr (.inl ⟨body, running, rfl, (Option.some.inj stepped).symm⟩))
  | shutdownBegin =>
    simp only [step] at stepped
    split_ifs at stepped with idle
    exact .inr (.inr (.inr (.inl ⟨idle, rfl, (Option.some.inj stepped).symm⟩)))
  | shutdownWake =>
    simp only [step] at stepped
    split_ifs at stepped with ready
    exact .inr (.inr (.inr (.inr (.inl ⟨ready.1, ready.2, rfl, (Option.some.inj stepped).symm⟩))))
  | shutdownTimeout =>
    simp only [step] at stepped
    split_ifs at stepped with waiting
    exact .inr (.inr (.inr (.inr (.inr (.inl ⟨waiting, (Option.some.inj stepped).symm⟩)))))
  | shutdownDone =>
    simp only [step] at stepped
    split_ifs at stepped with deleting
    exact .inr (.inr (.inr (.inr (.inr (.inr ⟨deleting, rfl, (Option.some.inj stepped).symm⟩)))))

/-- What holds of every reachable session: at most one operation thread runs, and exactly while
the session is busy; the inline `deleteProc` runs only on a session that is not busy; a running
`syncShutdown` has set `mShuttingDown`. -/
structure Inv (session : Session) : Prop where
  single : session.operations.length ≤ 1
  busy : session.operations ≠ [] ↔ session.state = .busy
  deleting : session.shutdown = .deleting → session.state ≠ .busy
  shutting : session.shutdown ≠ .idle → session.shuttingDown = true

theorem Inv.create (id nodeId : Uuid) : (create id nodeId).Inv :=
  ⟨by simp [Session.create], by simp [Session.create], by simp [Session.create],
    by simp [Session.create]⟩

theorem Inv.started {session : Session} (inv : session.Inv) (quiet : session.shuttingDown = false)
    (free : session.state = .free) (body : OperationBody) : (session.started body).Inv := by
  have idle : session.shutdown = .idle := by
    by_contra running
    simp [inv.shutting running] at quiet
  have none : session.operations = [] := by
    by_contra some
    simp [inv.busy.mp some] at free
  exact ⟨by simp [Session.started, none], by simp [Session.started], by simp [Session.started, idle],
    by simp [Session.started, idle]⟩

theorem Inv.operationDone {session : Session} (inv : session.Inv) {body : OperationBody}
    (running : body ∈ session.operations) : (session.operationDone body).Inv := by
  have only : session.operations = [body] := by
    match operations : session.operations, inv.single with
    | [b], _ => simp_all
    | [], _ => simp [operations] at running
  have busy := inv.busy.mp (by simp [only])
  cases body <;>
    exact ⟨by simp [Session.operationDone, only], by simp [Session.operationDone, only, busy],
      by simp [Session.operationDone, busy], inv.shutting⟩

theorem Inv.step {session next : Session} {action : Action} (inv : session.Inv)
    (stepped : session.step action = some next) : next.Inv := by
  rcases step_cases stepped with rfl | ⟨quiet, free, ⟨-, rfl⟩ | ⟨-, -, -, rfl⟩⟩ |
    ⟨body, running, -, rfl⟩ | ⟨idle, -, rfl⟩ | ⟨waiting, ready, -, rfl⟩ | ⟨waiting, rfl⟩ |
    ⟨deleting, -, rfl⟩
  · exact inv
  · exact inv.started quiet free _
  · exact inv.started quiet free _
  · exact inv.operationDone running
  · refine ⟨inv.single, inv.busy, fun deleting => ?_, fun _ => rfl⟩
    simp only [syncShutdownBegin] at deleting ⊢
    split_ifs at deleting with busy
    exact busy
  · exact ⟨inv.single, inv.busy, fun _ => ready, fun _ => inv.shutting (by simp [waiting])⟩
  · exact ⟨inv.single, inv.busy, by simp, by simp⟩
  · have ready := inv.deleting deleting
    exact ⟨inv.single, by simpa [ready] using inv.busy, by simp, by simp⟩

theorem Reachable.inv {session : Session} (reachable : session.Reachable) : session.Inv := by
  induction reachable with
  | create id nodeId => exact Inv.create id nodeId
  | step _ stepped inv => exact inv.step stepped

/-- The moves of `mState` the discipline allows, with the action that makes each. -/
inductive StateMove : Action → SessionState → SessionState → Prop
  | stay (action : Action) (state : SessionState) : StateMove action state state
  | acceptUpdate (configSessionId configNodeId : Uuid) :
    StateMove (.asyncUpdateConfig configSessionId configNodeId) .free .busy
  | acceptDelete : StateMove .asyncDelete .free .busy
  | updateProcDone : StateMove (.finish .applyNewConfig) .busy .free
  | deleteProcDone : StateMove (.finish .deleteProc) .busy .defunct
  | shutdownDeleteProc : StateMove .shutdownDone .free .defunct

theorem Inv.stateMove {session next : Session} {action : Action} (inv : session.Inv)
    (stepped : session.step action = some next) : StateMove action session.state next.state := by
  rcases step_cases stepped with rfl | ⟨-, free, ⟨rfl, rfl⟩ | ⟨configSessionId, configNodeId, rfl, rfl⟩⟩ |
    ⟨body, running, rfl, rfl⟩ | ⟨-, -, rfl⟩ | ⟨-, -, -, rfl⟩ | ⟨-, rfl⟩ | ⟨deleting, rfl, rfl⟩
  · exact .stay _ _
  · exact free ▸ .acceptDelete
  · exact free ▸ .acceptUpdate configSessionId configNodeId
  · have busy := inv.busy.mp (List.ne_nil_of_mem running)
    cases body
    · simpa [Session.operationDone, busy] using StateMove.updateProcDone
    · simpa [Session.operationDone, busy] using StateMove.deleteProcDone
  · exact .stay _ _
  · exact .stay _ _
  · exact .stay _ _
  · have ready := inv.deleting deleting
    cases current : session.state
    · exact .shutdownDeleteProc
    · exact absurd current ready
    · exact .stay _ _

theorem Inv.runningBodies_length {session : Session} (inv : session.Inv) :
    session.runningBodies.length ≤ 1 := by
  unfold runningBodies
  split_ifs with deleting
  · have none : session.operations = [] := by
      by_contra some
      exact inv.deleting deleting (inv.busy.mp some)
    simp [none]
  · simpa using inv.single

/-- The discipline over every run: (1) `mState` moves only as `StateMove` allows, so `Defunct` is
never left; (2) an operation is accepted only on a free session that is not shutting down; (3) on a
busy or defunct session every call raises a `SessionError` (a conflict, or "Session is shutting
down" once shutdown has begun) and changes nothing; (4) at most one operation body runs at a
time. -/
theorem session_operation_discipline :
    (∀ session next action, Reachable session → session.step action = some next →
      StateMove action session.state next.state) ∧
    (∀ session : Session, (session.asyncDelete.2 = none ∨
        ∃ configSessionId configNodeId, (session.asyncUpdateConfig configSessionId configNodeId).2 = none) →
      session.state = .free ∧ session.shuttingDown = false) ∧
    (∀ session : Session, session.state ≠ .free →
      (∃ error, session.asyncDelete = (session, some error) ∧ session.Refusal error) ∧
      (∀ configSessionId configNodeId, ∃ error,
        session.asyncUpdateConfig configSessionId configNodeId = (session, some error) ∧
          (configSessionId = session.id → configNodeId = session.nodeId → session.Refusal error)) ∧
      (∃ error, session.signal = (session, some error) ∧ error.httpCode = httpResourceConflict)) ∧
    (∀ session : Session, Reachable session → session.runningBodies.length ≤ 1) := by
  refine ⟨fun session next action reachable stepped => reachable.inv.stateMove stepped,
    fun session accepted => ?_, fun session notFree => ⟨?_, fun configSessionId configNodeId => ?_, ?_⟩,
    fun session reachable => reachable.inv.runningBodies_length⟩
  · rcases accepted with accepted | ⟨configSessionId, configNodeId, accepted⟩
    · exact session.startOperation_accepted_of _ _ accepted
    · unfold asyncUpdateConfig at accepted
      split_ifs at accepted
      exact session.startOperation_accepted_of _ _ accepted
  · exact session.startOperation_of_not_free notFree _ _
  · unfold asyncUpdateConfig
    split_ifs with otherSession otherNode
    · exact ⟨_, rfl, fun same => absurd same.symm otherSession⟩
    · exact ⟨_, rfl, fun _ same => absurd same.symm otherNode⟩
    · obtain ⟨error, refused, refusal⟩ := session.startOperation_of_not_free notFree "modified"
        .applyNewConfig
      exact ⟨error, refused, fun _ _ => refusal⟩
  · cases state : session.state
    · exact absurd state notFree
    · exact ⟨{ detail := "Session is busy", httpCode := httpResourceConflict },
        by simp [signal, checkIsFree, state], rfl⟩
    · exact ⟨{ detail := "Session is defunct", httpCode := httpResourceConflict },
        by simp [signal, checkIsFree, state], rfl⟩

end Session

end Arras4.Node
