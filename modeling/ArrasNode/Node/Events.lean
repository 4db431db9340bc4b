import ArrasNode.Json.Value
import ArrasNode.Session.Computation

/-! The notifications the node sends Coordinator: `handleEvent` pushes an event on `mEventQueue`,
and one thread of `sendEventsProc` pops the events in order and sends each as a request, or as
`ArrasNode::stopRunning`. `ThreadsafeQueue` is outside the repository: a pop takes the head, or on
a shut-down queue throws `ShutdownException`. -/
namespace Arras4.Node

structure EventObj where
  sessionId : Uuid
  compId : Uuid
  data : Value

inductive Method
  | put
  | delete
deriving DecidableEq, Repr

/-- An `HttpRequest` to Coordinator as the notifications set it up. -/
structure CoordinatorRequest where
  method : Method
  url : String
  contentType : String
  userAgent : String
  headers : List (String × String)
  body : Option String
deriving DecidableEq, Repr

/-- What sending one event does. -/
inductive Notification
  | request (request : CoordinatorRequest)
  | stopRunning
deriving DecidableEq, Repr

def userAgent : String := "Node Service"

def applicationJson : String := "application/json"

/-- `replaceNewlines`: each newline becomes a backslash and an `n`. -/
def replaceNewlines (s : String) : String :=
  ⟨s.data.flatMap fun c => if c = '\n' then ['\\', 'n'] else [c]⟩

theorem replaceNewlines_no_newline (s : String) : '\n' ∉ (replaceNewlines s).data := by
  simp only [replaceNewlines, List.mem_flatMap, not_exists, not_and]
  intro c _
  split_ifs with newline
  · simp
  · simpa [eq_comm] using newline

def newRequest (method : Method) (url : String) : CoordinatorRequest :=
  ⟨method, url, applicationJson, userAgent, [], none⟩

section Notify

variable (uuidText : Uuid → String) (coordinatorBaseUrl : String)

/-- `NodeService::notifyTerminated`; reading `reason` throws on data that is not an object. -/
def notifyTerminated (sessionId compId : Uuid) (eventData : Value) : Option Notification :=
  (eventData.index? "reason").map fun reason =>
    let request := newRequest .delete
      (coordinatorBaseUrl ++ "/sessions/" ++ uuidText sessionId ++ "/computations/" ++ uuidText compId)
    .request (match reason with
      | .string reason => { request with headers := [("X-Host-Delete-Reason", replaceNewlines reason)] }
      | _ => request)

def notifyReady (sessionId compId : Uuid) : Notification :=
  .request { newRequest .put
      (coordinatorBaseUrl ++ "/sessions/" ++ uuidText sessionId ++ "/hosts/" ++ uuidText compId) with
    body := some "\x7b \"status\": \"ready\" \x7d" }

/-- `NodeService::notifyTerminateSession`: DELETE of the session, the event type and the reason,
or the event type again, as headers. -/
def notifyTerminateSession (sessionId : Uuid) (data : Value) : Option Notification := do
  let eventType ← (← data.index? "eventType").asString
  let reason ← data.index? "reason"
  pure (.request { newRequest .delete (coordinatorBaseUrl ++ "/sessions/" ++ uuidText sessionId) with
    headers := [("X-Arras-Event-Type", replaceNewlines eventType),
      ("X-Session-Delete-Reason", replaceNewlines (match reason with
        | .string reason => reason
        | _ => eventType))] })

/-- `NodeService::sendEvent`: the notification an event causes; none when it is only logged, or
when reading its data throws (`sendEventsProc` catches and logs that). The three session events
run the same `notifyTerminateSession`. -/
def sendEvent (event : EventObj) : Option Notification :=
  match event.data.index? "eventType" with
  | some (.string eventType) =>
    if eventType = "computationTerminated" then
      notifyTerminated uuidText coordinatorBaseUrl event.sessionId event.compId event.data
    else if eventType = "computationReady" then
      some (notifyReady uuidText coordinatorBaseUrl event.sessionId event.compId)
    else if eventType = "sessionClientDisconnected" ∨ eventType = "sessionOperationFailed" ∨
        eventType = "sessionExpired" then
      notifyTerminateSession uuidText coordinatorBaseUrl event.sessionId event.data
    else if eventType = "shutdownWithError" then some .stopRunning
    else none
  | _ => none

end Notify

/-! ### The producers -/

namespace ArrasController

variable (uuidText : Uuid → String)

/-- The event of `ArrasController::onDispatcherExit`, unless the controller is exiting; the
object's members are in key order. -/
def onDispatcherExit (exiting : Bool) (nodeId routerProcessId : Uuid) (reason : Int) :
    Option EventObj :=
  if exiting then none
  else some ⟨Uuid.null, Uuid.null, .object [("DispatcherExitReason", .int reason),
    ("eventType", .string "shutdownWithError"), ("nodeId", .string (uuidText nodeId)),
    ("reason", .string "Lost router connection"), ("routerProcessId", .string (uuidText routerProcessId))]⟩

def computationReady (sessionId computationId : Uuid) : EventObj :=
  ⟨sessionId, computationId, .object [("eventType", .string "computationReady")]⟩

def clientDisconnected (sessionId : Uuid) (reason : String) : EventObj :=
  ⟨sessionId, Uuid.null, .object [("eventType", .string "sessionClientDisconnected"),
    ("reason", .string reason)]⟩

/-- The event of `ArrasController::sessionOperationFailed`; `opname` is only logged. -/
def sessionOperationFailed (sessionId : Uuid) (_opname message : String) : EventObj :=
  ⟨sessionId, Uuid.null, .object [("eventType", .string "sessionOperationFailed"),
    ("reason", .string message)]⟩

def sessionExpired (sessionId : Uuid) (message : String) : EventObj :=
  ⟨sessionId, Uuid.null, .object [("eventType", .string "sessionExpired"), ("reason", .string message)]⟩

/-- The event `Computation::onTerminate` hands the controller for a terminated effect. -/
def computationTerminated (sessionId compId : Uuid) (reason : String) : EventObj :=
  ⟨sessionId, compId, .object [("eventType", .string "computationTerminated"),
    ("reason", .string reason)]⟩

end ArrasController

/-! ### What an event sends -/

/-- A request about session `sessionText`: JSON, from the node service, under the session's URL,
and with no newline in a header value. -/
def SessionRequest (coordinatorBaseUrl sessionText : String) (request : CoordinatorRequest) : Prop :=
  request.contentType = applicationJson ∧ request.userAgent = userAgent ∧
    (∃ path, request.url = coordinatorBaseUrl ++ "/sessions/" ++ sessionText ++ path) ∧
    ∀ header ∈ request.headers, '\n' ∉ header.2.data

section Sent

variable {uuidText : Uuid → String} {coordinatorBaseUrl : String}

theorem notifyTerminated_request {sessionId compId : Uuid} {eventData : Value} {request : CoordinatorRequest}
    (sent : notifyTerminated uuidText coordinatorBaseUrl sessionId compId eventData = some (.request request)) :
    SessionRequest coordinatorBaseUrl (uuidText sessionId) request := by
  obtain ⟨reason, -, sent⟩ := Option.map_eq_some'.mp sent
  injection sent with sent
  subst sent
  cases reason <;>
    exact ⟨rfl, rfl, ⟨_, String.append_assoc _ _ _⟩, by simp [newRequest, replaceNewlines_no_newline]⟩

theorem notifyTerminateSession_request {sessionId : Uuid} {data : Value} {request : CoordinatorRequest}
    (sent : notifyTerminateSession uuidText coordinatorBaseUrl sessionId data = some (.request request)) :
    SessionRequest coordinatorBaseUrl (uuidText sessionId) request := by
  simp only [notifyTerminateSession, Option.bind_eq_bind, Option.bind_eq_some, Option.pure_def,
    Option.some.injEq] at sent
  obtain ⟨_, -, eventType, -, reason, -, sent⟩ := sent
  injection sent with sent
  subst sent
  exact ⟨rfl, rfl, ⟨"", (String.append_empty _).symm⟩, by simp [replaceNewlines_no_newline]⟩

/-- Every request the node sends Coordinator for an event is JSON from the node service, under the
URL of the event's session, with no newline in a header value. -/
theorem sendEvent_request {event : EventObj} {request : CoordinatorRequest}
    (sent : sendEvent uuidText coordinatorBaseUrl event = some (.request request)) :
    SessionRequest coordinatorBaseUrl (uuidText event.sessionId) request := by
  unfold sendEvent at sent
  split at sent
  · split_ifs at sent
    · exact notifyTerminated_request sent
    · injection sent with sent
      injection sent with sent
      subst sent
      exact ⟨rfl, rfl, ⟨_, String.append_assoc _ _ _⟩, nofun⟩
    · exact notifyTerminateSession_request sent
    all_goals cases sent
  · cases sent

/-- A reason with a newline reaches Coordinator on one header line. -/
theorem sendEvent_request_multiline_reason :
    ∃ request, sendEvent toString "http://coordinator"
        (ArrasController.computationTerminated 1 2 "render exit 1\nstack") = some (.request request) ∧
      SessionRequest "http://coordinator" (toString (1 : Uuid)) request :=
  ⟨_, rfl, @sendEvent_request toString "http://coordinator"
    (ArrasController.computationTerminated 1 2 "render exit 1\nstack") _ rfl⟩

end Sent

/-- The events `ArrasController` hands `NodeService::handleEvent`, with those of
`Computation::onTerminate`. -/
inductive Produced (uuidText : Uuid → String) : EventObj → Prop
  | dispatcherExit {nodeId routerProcessId : Uuid} {reason : Int} {event : EventObj} :
    ArrasController.onDispatcherExit uuidText false nodeId routerProcessId reason = some event →
      Produced uuidText event
  | computationReady (sessionId computationId : Uuid) :
    Produced uuidText (ArrasController.computationReady sessionId computationId)
  | clientDisconnected (sessionId : Uuid) (reason : String) :
    Produced uuidText (ArrasController.clientDisconnected sessionId reason)
  | sessionOperationFailed (sessionId : Uuid) (opname message : String) :
    Produced uuidText (ArrasController.sessionOperationFailed sessionId opname message)
  | sessionExpired (sessionId : Uuid) (message : String) :
    Produced uuidText (ArrasController.sessionExpired sessionId message)
  | computationTerminated (lib : ProcessLibrary) (sessionId : Uuid) {c : Computation}
    {status : ExitStatus} {reason : String} :
    c.onTerminate lib status = .terminated reason →
      Produced uuidText (ArrasController.computationTerminated sessionId c.id reason)

theorem produced_sendEvent {uuidText : Uuid → String} {coordinatorBaseUrl : String} {event : EventObj}
    (produced : Produced uuidText event) : (sendEvent uuidText coordinatorBaseUrl event).isSome := by
  cases produced with
  | dispatcherExit built =>
    simp only [ArrasController.onDispatcherExit, Bool.false_eq_true, ite_false, Option.some.injEq] at built
    subst built
    rfl
  | _ => rfl

/-! ### The sending thread -/

/-- Where `sendEventsProc` is: at its loop's check, inside `pop`, or returned. -/
inductive SenderPc
  | check
  | popping
  | exited
deriving DecidableEq, Repr

/-- `mEventQueue` with its shutdown flag, `mRunThreads`, the sending thread, and what it has sent,
in order. -/
structure EventSender where
  queue : List EventObj
  shutdown : Bool
  runThreads : Bool
  pc : SenderPc
  sent : List Notification

/-- A call of `handleEvent`; a step of the sending thread: the check of `while (mRunThreads)`, a
`pop` that returns the head for `sendEvent`, or one that throws `ShutdownException`; and the two
steps of `~NodeService`, `mRunThreads = false` then `mEventQueue.shutdown()`. -/
inductive EventAction
  | handleEvent (event : EventObj)
  | check
  | pop
  | popShutdown
  | stopThreads
  | shutdownQueue

def EventAction.event? : EventAction → Option EventObj
  | .handleEvent event => some event
  | _ => none

namespace EventSender

variable (uuidText : Uuid → String) (coordinatorBaseUrl : String)

/-- The queue and the thread as `NodeService::NodeService` starts them. -/
def init : EventSender := ⟨[], false, true, .check, []⟩

def step (s : EventSender) : EventAction → Option EventSender
  | .handleEvent event => some { s with queue := s.queue ++ [event] }
  | .check =>
    if s.pc = .check then some { s with pc := if s.runThreads then .popping else .exited } else none
  | .pop =>
    match s.pc, s.queue with
    | .popping, event :: rest =>
      some { s with
        queue := rest, pc := .check, sent := s.sent ++ (sendEvent uuidText coordinatorBaseUrl event).toList }
    | _, _ => none
  | .popShutdown => if s.pc = .popping ∧ s.shutdown then some { s with pc := .check } else none
  | .stopThreads => some { s with runThreads := false }
  | .shutdownQueue => if s.runThreads then none else some { s with shutdown := true }

def run (s : EventSender) : List EventAction → Option EventSender
  | [] => some s
  | action :: rest => (s.step uuidText coordinatorBaseUrl action).bind fun t => t.run rest

def notified (events : List EventObj) : List Notification :=
  events.filterMap (sendEvent uuidText coordinatorBaseUrl)

variable {uuidText coordinatorBaseUrl} {s t : EventSender} {action : EventAction}

theorem step_cases (stepped : s.step uuidText coordinatorBaseUrl action = some t) :
    (∃ event, action = .handleEvent event ∧ t = { s with queue := s.queue ++ [event] }) ∨
      (action = .check ∧ s.pc = .check ∧
        t = { s with pc := if s.runThreads then .popping else .exited }) ∨
      (∃ event rest, action = .pop ∧ s.pc = .popping ∧ s.queue = event :: rest ∧
        t = { s with
          queue := rest, pc := .check, sent := s.sent ++ (sendEvent uuidText coordinatorBaseUrl event).toList }) ∨
      (action = .popShutdown ∧ s.pc = .popping ∧ s.shutdown = true ∧ t = { s with pc := .check }) ∨
      (action = .stopThreads ∧ t = { s with runThreads := false }) ∨
      (action = .shutdownQueue ∧ s.runThreads = false ∧ t = { s with shutdown := true }) := by
  cases action with
  | handleEvent event => exact .inl ⟨event, rfl, (Option.some.inj stepped).symm⟩
  | check =>
    by_cases atCheck : s.pc = .check
    · simp only [step, if_pos atCheck] at stepped
      exact .inr (.inl ⟨rfl, atCheck, (Option.some.inj stepped).symm⟩)
    · simp [step, atCheck] at stepped
  | pop =>
    simp only [step] at stepped
    split at stepped
    · rename_i event rest pcIs queueIs
      exact .inr (.inr (.inl ⟨event, rest, rfl, pcIs, queueIs, (Option.some.inj stepped).symm⟩))
    · cases stepped
  | popShutdown =>
    simp only [step] at stepped
    split_ifs at stepped with ready
    exact .inr (.inr (.inr (.inl ⟨rfl, ready.1, ready.2, (Option.some.inj stepped).symm⟩)))
  | stopThreads => exact .inr (.inr (.inr (.inr (.inl ⟨rfl, (Option.some.inj stepped).symm⟩))))
  | shutdownQueue =>
    simp only [step] at stepped
    split_ifs at stepped with running
    exact .inr (.inr (.inr (.inr (.inr ⟨rfl, by simpa using running, (Option.some.inj stepped).symm⟩))))

theorem run_preserves (P : EventSender → Prop)
    (preserved : ∀ {s t : EventSender} {action : EventAction}, P s →
      s.step uuidText coordinatorBaseUrl action = some t → P t)
    {actions : List EventAction} (holds : P s) (ran : s.run uuidText coordinatorBaseUrl actions = some t) :
    P t := by
  induction actions generalizing s with
  | nil =>
    cases ran
    exact holds
  | cons action rest ih =>
    obtain ⟨middle, stepped, ran⟩ := Option.bind_eq_some.mp ran
    exact ih (preserved holds stepped) ran

/-! ### No event lost or duplicated -/

theorem step_notified (stepped : s.step uuidText coordinatorBaseUrl action = some t) :
    t.sent ++ notified uuidText coordinatorBaseUrl t.queue =
      s.sent ++ notified uuidText coordinatorBaseUrl (s.queue ++ action.event?.toList) := by
  rcases step_cases stepped with ⟨event, rfl, rfl⟩ | ⟨rfl, -, rfl⟩ |
    ⟨event, rest, rfl, -, queueIs, rfl⟩ | ⟨rfl, -, -, rfl⟩ | ⟨rfl, rfl⟩ | ⟨rfl, -, rfl⟩
  · rfl
  all_goals simp only [EventAction.event?, Option.toList_none, List.append_nil]
  cases sent : sendEvent uuidText coordinatorBaseUrl event <;> simp [notified, sent, queueIs]

theorem run_notified {actions : List EventAction} (ran : s.run uuidText coordinatorBaseUrl actions = some t) :
    t.sent ++ notified uuidText coordinatorBaseUrl t.queue =
      s.sent ++ notified uuidText coordinatorBaseUrl (s.queue ++ actions.filterMap EventAction.event?) := by
  induction actions generalizing s with
  | nil =>
    cases ran
    simp
  | cons action rest ih =>
    obtain ⟨middle, stepped, ran⟩ := Option.bind_eq_some.mp ran
    have stepped := step_notified stepped
    simp only [notified, List.filterMap_append, ← List.append_assoc] at stepped ih ⊢
    rw [ih ran, stepped]
    cases action <;> simp [EventAction.event?]
    exact (List.filterMap_append _ _ _).symm

/-- A computation of session 1 becomes ready and is sent; then session 1 expires. -/
def readyThenExpired : List EventAction :=
  [.handleEvent (ArrasController.computationReady 1 2), .check, .pop,
    .handleEvent (ArrasController.sessionExpired 1 "Client did not connect")]

/-- Over every run from the start, the notifications sent, followed by those the queued events
would give, are those of the events handed in, in order, each once. -/
theorem sent_run {actions : List EventAction} {s : EventSender}
    (ran : init.run uuidText coordinatorBaseUrl actions = some s) :
    s.sent ++ (s.queue.filterMap (sendEvent uuidText coordinatorBaseUrl)) =
      (actions.filterMap EventAction.event?).filterMap (sendEvent uuidText coordinatorBaseUrl) := by
  simpa [notified, init] using run_notified ran

theorem sent_run_ready_then_expired :
    ∃ s, init.run toString "http://coordinator" readyThenExpired = some s ∧
      s.sent ++ s.queue.filterMap (sendEvent toString "http://coordinator") =
        (readyThenExpired.filterMap EventAction.event?).filterMap (sendEvent toString "http://coordinator") :=
  ⟨_, rfl, @sent_run toString "http://coordinator" readyThenExpired _ rfl⟩

theorem step_queue (stepped : s.step uuidText coordinatorBaseUrl action = some t) :
    List.Sublist t.queue (s.queue ++ action.event?.toList) := by
  rcases step_cases stepped with ⟨event, rfl, rfl⟩ | ⟨rfl, -, rfl⟩ |
    ⟨event, rest, rfl, -, queueIs, rfl⟩ | ⟨rfl, -, -, rfl⟩ | ⟨rfl, rfl⟩ | ⟨rfl, -, rfl⟩
  · exact List.Sublist.refl _
  all_goals simp only [EventAction.event?, Option.toList_none, List.append_nil]
  all_goals first
    | exact List.Sublist.refl _
    | exact queueIs ▸ List.sublist_cons_self event rest

theorem run_queue {actions : List EventAction} (ran : s.run uuidText coordinatorBaseUrl actions = some t) :
    List.Sublist t.queue (s.queue ++ actions.filterMap EventAction.event?) := by
  induction actions generalizing s with
  | nil =>
    cases ran
    simp
  | cons action rest ih =>
    obtain ⟨middle, stepped, ran⟩ := Option.bind_eq_some.mp ran
    refine (ih ran).trans ?_
    have grown := (step_queue stepped).append_right (rest.filterMap EventAction.event?)
    cases action <;> simpa [EventAction.event?] using grown

theorem length_filterMap_of_isSome {α β : Type} {f : α → Option β} :
    ∀ {l : List α}, (∀ a ∈ l, (f a).isSome) → (l.filterMap f).length = l.length
  | [], _ => rfl
  | a :: l, allSome => by
    obtain ⟨b, found⟩ := Option.isSome_iff_exists.mp (allSome a (List.mem_cons_self a l))
    simp [List.filterMap_cons, found,
      length_filterMap_of_isSome fun x member => allSome x (List.mem_cons_of_mem a member)]

/-- Over every run from the start in which only the node's producers hand in events, each event
handed in has been sent or is still queued: none is dropped by `sendEvent`, none is sent twice. -/
theorem produced_run {actions : List EventAction} {s : EventSender}
    (produced : ∀ event ∈ actions.filterMap EventAction.event?, Produced uuidText event)
    (ran : init.run uuidText coordinatorBaseUrl actions = some s) :
    s.sent.length + s.queue.length = (actions.filterMap EventAction.event?).length := by
  have handed := @length_filterMap_of_isSome _ _ (sendEvent uuidText coordinatorBaseUrl) _ fun event member =>
    @produced_sendEvent uuidText coordinatorBaseUrl _ (produced event member)
  have queued := @length_filterMap_of_isSome _ _ (sendEvent uuidText coordinatorBaseUrl) _ fun event member =>
    @produced_sendEvent uuidText coordinatorBaseUrl _
      (produced event (by simpa [init] using (run_queue ran).subset member))
  have conserved := congrArg List.length (run_notified ran)
  simp only [notified, List.length_append, init, List.nil_append, List.length_nil] at conserved
  omega

theorem produced_run_ready_then_expired :
    (∀ event ∈ readyThenExpired.filterMap EventAction.event?, Produced toString event) ∧
      ∃ s, init.run toString "http://coordinator" readyThenExpired = some s ∧
        s.sent.length + s.queue.length = (readyThenExpired.filterMap EventAction.event?).length := by
  have produced : ∀ event ∈ readyThenExpired.filterMap EventAction.event?, Produced toString event := by
    intro event member
    simp only [readyThenExpired, List.filterMap_cons, EventAction.event?, List.filterMap_nil,
      List.mem_cons, List.not_mem_nil, or_false] at member
    rcases member with rfl | rfl
    exacts [.computationReady 1 2, .sessionExpired 1 _]
  exact ⟨produced, _, rfl, @produced_run toString "http://coordinator" readyThenExpired _ produced rfl⟩

/-! ### Progress and shutdown -/

def twoQueued : EventSender :=
  { init with queue := [ArrasController.computationReady 1 2, ArrasController.sessionExpired 1 "late"] }

def drainActions : Nat → List EventAction
  | 0 => []
  | n + 1 => .check :: .pop :: drainActions n

/-- A thread at its check with `mRunThreads` set sends every queued event, in order, and empties
the queue. -/
theorem drain_run (running : s.runThreads = true) (atCheck : s.pc = .check) :
    s.run uuidText coordinatorBaseUrl (drainActions s.queue.length) =
      some { s with queue := [], sent := s.sent ++ s.queue.filterMap (sendEvent uuidText coordinatorBaseUrl) } := by
  obtain ⟨queue, shutdown, runThreads, pc, sent⟩ := s
  simp only at running atCheck ⊢
  subst running atCheck
  induction queue generalizing sent with
  | nil => simp [drainActions, run]
  | cons event rest ih =>
    simp only [List.length_cons, drainActions, run, step, if_true, Option.some_bind, ih,
      List.filterMap_cons]
    cases sendEvent uuidText coordinatorBaseUrl event <;> simp

theorem drain_run_two_queued :
    twoQueued.runThreads = true ∧ twoQueued.pc = .check ∧
      twoQueued.run toString "http://coordinator" (drainActions twoQueued.queue.length) =
        some { twoQueued with
          queue := [], sent := twoQueued.sent ++ twoQueued.queue.filterMap (sendEvent toString "http://coordinator") } :=
  ⟨rfl, rfl, @drain_run toString "http://coordinator" twoQueued rfl rfl⟩

/-- The sent notifications with one more for a thread inside `pop`. -/
def budget (s : EventSender) : Nat := s.sent.length + if s.pc = .popping then 1 else 0

theorem step_budget (stopped : s.runThreads = false)
    (stepped : s.step uuidText coordinatorBaseUrl action = some t) :
    t.runThreads = false ∧ budget t ≤ budget s := by
  rcases step_cases stepped with ⟨event, rfl, rfl⟩ | ⟨rfl, -, rfl⟩ |
    ⟨event, rest, rfl, popping, -, rfl⟩ | ⟨rfl, popping, -, rfl⟩ | ⟨rfl, rfl⟩ | ⟨rfl, -, rfl⟩
  all_goals refine ⟨by first | exact stopped | rfl, ?_⟩
  · exact Nat.le_refl _
  · simp [budget, stopped]
  · cases sendEvent uuidText coordinatorBaseUrl event <;> simp [budget, popping]
  · simp [budget, popping]
  all_goals exact Nat.le_refl _

/-- Once `mRunThreads` is cleared, whatever runs, at most one more notification is sent. -/
theorem stopped_run {actions : List EventAction} (stopped : s.runThreads = false)
    (ran : s.run uuidText coordinatorBaseUrl actions = some t) : t.sent.length ≤ s.sent.length + 1 := by
  have bounded := run_preserves (fun t => t.runThreads = false ∧ budget t ≤ budget s)
    (fun held stepped => by
      obtain ⟨stays, lower⟩ := step_budget held.1 stepped
      exact ⟨stays, lower.trans held.2⟩) ⟨stopped, Nat.le_refl _⟩ ran
  have : budget s ≤ s.sent.length + 1 := by
    unfold budget
    split <;> omega
  exact (Nat.le_add_right _ _).trans (bounded.2.trans this)

/-- Stopped inside `pop`, the thread still sends the head it pops, then returns. -/
theorem stopped_run_inside_pop :
    ({ twoQueued with runThreads := false, pc := .popping } : EventSender).runThreads = false ∧
      ∃ t, ({ twoQueued with runThreads := false, pc := .popping } : EventSender).run toString
          "http://coordinator" [.pop, .check] = some t ∧
        t.sent.length ≤ ({ twoQueued with runThreads := false, pc := .popping } : EventSender).sent.length + 1 :=
  ⟨rfl, _, rfl, @stopped_run toString "http://coordinator" _ _ [.pop, .check] rfl rfl⟩

/-- A thread that has returned sends nothing more: the events still queued are never sent. -/
theorem exited_run {actions : List EventAction} (exited : s.pc = .exited)
    (ran : s.run uuidText coordinatorBaseUrl actions = some t) : t.pc = .exited ∧ t.sent = s.sent :=
  run_preserves (fun t => t.pc = .exited ∧ t.sent = s.sent)
    (fun held stepped => by
      rcases step_cases stepped with ⟨_, rfl, rfl⟩ | ⟨rfl, atCheck, -⟩ | ⟨_, _, rfl, popping, -⟩ |
        ⟨rfl, popping, -⟩ | ⟨rfl, rfl⟩ | ⟨rfl, -, rfl⟩
      all_goals first
        | exact held
        | simp_all) ⟨exited, rfl⟩ ran

end EventSender

end Arras4.Node
