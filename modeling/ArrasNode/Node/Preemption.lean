import ArrasNode.Json.Value

/-! The preemption monitors of PreemptionMonitor.cc and the lifetime `mainloop` gives them. One
query of a monitor is a function of the reply `ServiceClient::doGet` returned (none when it
throws). `Mainloop` runs `mainloop`, `ArrasNode::run`, the monitor thread and `termhandler` side by
side; the 15 s `wait_for` is a wake that may come at any time. -/
namespace Arras4.Node

inductive PreemptionMonitorType
  | none
  | aws
  | azure
deriving DecidableEq, Repr

/-- `parseCmdLine`: `azure-monitor` is ignored when `spot-monitor` is also given. -/
def parseMonitorOptions (spotMonitor azureMonitor : Bool) : PreemptionMonitorType :=
  let chosen := if spotMonitor then PreemptionMonitorType.aws else .none
  if azureMonitor ∧ chosen = .none then .azure else chosen

/-! ### One query -/

/-- One query of `AWSSpotMonitor::threadProc`: whether it calls `mNode->stopRunning()`. The
non-const `operator[]` throws on a reply that is neither null nor an object. -/
def awsSpotQuery (value : Value) : Bool :=
  match value.index? "action", value.index? "time" with
  | some (.string action), some (.string _) => action = "stop" || action = "terminate"
  | _, _ => false

/-- What `api::ObjectIterator` visits: an array's items, an object's values. -/
def Value.elements : Value → List Value
  | .array items => items
  | .object members => members.map Prod.snd
  | _ => []

def preempting (eventType : String) : Bool :=
  eventType = "Reboot" || eventType = "Redeploy" || eventType = "Preempt"

/-- The loop of `AzurePreemptionMonitor::threadProc` over the events: an event that is neither
null nor an object makes `event["EventType"]` throw, which ends it. -/
def azureEvents : List Value → Nat
  | [] => 0
  | event :: rest =>
    match event.index? "EventType" with
    | none => 0
    | some (.string eventType) => (if preempting eventType then 1 else 0) + azureEvents rest
    | some _ => azureEvents rest

def azurePreemptionQuery (root : Value) : Nat :=
  match root.index? "Events" with
  | none => 0
  | some events => azureEvents events.elements

/-- The `stopRunning` calls one query of a monitor of this type makes. -/
def PreemptionMonitorType.query : PreemptionMonitorType → Option Value → Nat
  | .aws, some value => if awsSpotQuery value then 1 else 0
  | .azure, some value => azurePreemptionQuery value
  | _, _ => 0

theorem index?_eq_some_string {v : Value} {key text : String} :
    v.index? key = some (.string text) ↔ v.get key = .string text := by
  cases v <;> simp [Value.index?, Value.get]

theorem awsSpotQuery_iff {value : Value} :
    awsSpotQuery value = true ↔ ∃ action time, value.get "action" = .string action ∧
      value.get "time" = .string time ∧ (action = "stop" ∨ action = "terminate") := by
  simp only [← index?_eq_some_string]
  unfold awsSpotQuery
  split <;> simp_all

def preemptingEvent (event : Value) : Bool :=
  match event.get "EventType" with
  | .string eventType => preempting eventType
  | _ => false

theorem azureEvents_eq (events : List Value) :
    azureEvents events =
      (events.takeWhile fun event => event.isNull || event.isObject).countP preemptingEvent := by
  induction events with
  | nil => rfl
  | cons event rest ih =>
    cases event <;> simp [azureEvents, Value.index?, Value.isNull, Value.isObject, preemptingEvent,
      Value.get, ih, List.countP_cons]
    split <;> simp_all [Nat.add_comm]

/-- An Azure reply makes one `stopRunning` call per preempting event among those before the first
event that is neither null nor an object; the events after it are never read. -/
theorem azurePreemptionQuery_eq (root : Value) :
    azurePreemptionQuery root =
      ((root.get "Events").elements.takeWhile fun event => event.isNull || event.isObject).countP
        preemptingEvent := by
  rw [← azureEvents_eq]
  cases root <;> rfl

/-- A string among the events hides the `Preempt` event after it. -/
example : azurePreemptionQuery (.object [("Events", .array [.string "x",
    .object [("EventType", .string "Preempt")]])]) = 0 := by decide

/-! ### The monitor's lifetime -/

/-- Where `mainloop` is once `PreemptionMonitor::start` has returned: before `node->run()`, inside
it, past it, joining the monitor in `monitor.reset`, past the join, and past `node.reset`. -/
inductive MainPc
  | beforeRun
  | running
  | returned
  | joining
  | joined
  | nodeReset
deriving DecidableEq, Repr

@[simp] def MainPc.pastRun : MainPc → Bool
  | .beforeRun | .running => false
  | _ => true

/-- Where `threadProc` is: the `while (mRun)` test, inside `wait_for`, making the query, returned. -/
inductive MonitorPc
  | check
  | waiting
  | querying
  | exited
deriving DecidableEq, Repr

/-- `ArrasNode::mRun`, `PreemptionMonitor::mRun`, the `termhandler` runs that have found the node
and not yet called it, and where `mainloop` was at each `stopRunning` call, and at each of the
monitor's. -/
structure Mainloop where
  main : MainPc
  nodeRun : Bool
  monitorRun : Bool
  thread : MonitorPc
  handlers : Nat
  stopCalls : List MainPc
  monitorCalls : List MainPc
deriving DecidableEq, Repr

/-- Steps of `mainloop` (`node->run()` entered and left, `~PreemptionMonitor` clearing `mRun`, the
join, `node.reset`), of `termhandler` (its `if (node)`, then its call), and of the monitor thread
(the loop test, the return of `wait_for`, the reply of a query). -/
inductive MainloopAction
  | enterRun
  | leaveRun
  | resetMonitor
  | join
  | resetNode
  | signalCheck
  | signalCall
  | check
  | wake
  | reply (reply : Option Value)

@[simp] def MainloopAction.isThreadStep : MainloopAction → Bool
  | .check | .wake | .reply _ => true
  | _ => false

@[simp] def MainloopAction.isReply : MainloopAction → Bool
  | .reply _ => true
  | _ => false

namespace Mainloop

variable (type : PreemptionMonitorType)

/-- `run()` sets the monitor's `mRun` before it starts the thread; `start` makes no monitor for
`None`. -/
def init : Mainloop :=
  if type = .none then ⟨.beforeRun, false, false, .exited, 0, [], []⟩
  else ⟨.beforeRun, false, true, .check, 0, [], []⟩

/-- `count` calls of `ArrasNode::stopRunning`. -/
def stopRunning (s : Mainloop) (count : Nat) : Mainloop :=
  { s with
    nodeRun := if count = 0 then s.nodeRun else false
    stopCalls := s.stopCalls ++ List.replicate count s.main }

/-- The calls of one Azure query are one step: between them `mainloop` gets no further than the
join, which waits for this thread. -/
def step (s : Mainloop) : MainloopAction → Option Mainloop
  | .enterRun => if s.main = .beforeRun then some { s with main := .running, nodeRun := true } else none
  | .leaveRun => if s.main = .running ∧ s.nodeRun = false then some { s with main := .returned } else none
  | .resetMonitor =>
    if s.main = .returned then some { s with main := .joining, monitorRun := false } else none
  | .join => if s.main = .joining ∧ s.thread = .exited then some { s with main := .joined } else none
  | .resetNode => if s.main = .joined then some { s with main := .nodeReset } else none
  | .signalCheck => some (if s.main = .nodeReset then s else { s with handlers := s.handlers + 1 })
  | .signalCall =>
    if 0 < s.handlers then some { s.stopRunning 1 with handlers := s.handlers - 1 } else none
  | .check =>
    if s.thread = .check then some { s with thread := if s.monitorRun then .waiting else .exited }
    else none
  | .wake =>
    if s.thread = .waiting then some { s with thread := if s.monitorRun then .querying else .exited }
    else none
  | .reply reply =>
    if s.thread = .querying then
      some { s.stopRunning (type.query reply) with
             thread := .check
             monitorCalls := s.monitorCalls ++ List.replicate (type.query reply) s.main }
    else none

def run (s : Mainloop) : List MainloopAction → Option Mainloop
  | [] => some s
  | action :: rest => (s.step type action).bind fun t => t.run rest

variable {type} {s t : Mainloop} {action : MainloopAction} {count : Nat}

@[simp] theorem stopRunning_main : (s.stopRunning count).main = s.main := rfl
@[simp] theorem stopRunning_monitorRun : (s.stopRunning count).monitorRun = s.monitorRun := rfl
@[simp] theorem stopRunning_thread : (s.stopRunning count).thread = s.thread := rfl
@[simp] theorem stopRunning_monitorCalls : (s.stopRunning count).monitorCalls = s.monitorCalls := rfl
@[simp] theorem stopRunning_stopCalls :
    (s.stopRunning count).stopCalls = s.stopCalls ++ List.replicate count s.main := rfl
@[simp] theorem stopRunning_nodeRun :
    (s.stopRunning count).nodeRun = if count = 0 then s.nodeRun else false := rfl

/-- Everything one action can do. -/
theorem step_cases (stepped : s.step type action = some t) :
    (action = .enterRun ∧ s.main = .beforeRun ∧ t = { s with main := .running, nodeRun := true }) ∨
    (action = .leaveRun ∧ s.main = .running ∧ s.nodeRun = false ∧ t = { s with main := .returned }) ∨
    (action = .resetMonitor ∧ s.main = .returned ∧ t = { s with main := .joining, monitorRun := false }) ∨
    (action = .join ∧ s.main = .joining ∧ s.thread = .exited ∧ t = { s with main := .joined }) ∨
    (action = .resetNode ∧ s.main = .joined ∧ t = { s with main := .nodeReset }) ∨
    (action = .signalCheck ∧
      t = if s.main = .nodeReset then s else { s with handlers := s.handlers + 1 }) ∨
    (action = .signalCall ∧ 0 < s.handlers ∧ t = { s.stopRunning 1 with handlers := s.handlers - 1 }) ∨
    (action = .check ∧ s.thread = .check ∧
      t = { s with thread := if s.monitorRun then .waiting else .exited }) ∨
    (action = .wake ∧ s.thread = .waiting ∧
      t = { s with thread := if s.monitorRun then .querying else .exited }) ∨
    (∃ reply, action = .reply reply ∧ s.thread = .querying ∧
      t = { s.stopRunning (type.query reply) with
            thread := .check
            monitorCalls := s.monitorCalls ++ List.replicate (type.query reply) s.main }) := by
  cases action <;> simp only [step] at stepped <;> split at stepped <;> cases stepped <;>
    simp only [reduceCtorEq, MainloopAction.reply.injEq, false_and, false_or, true_and, and_true, true_or,
      exists_false, or_false, exists_eq_left', reduceIte, *]

theorem run_preserves (P : Mainloop → Prop)
    (preserved : ∀ {s t : Mainloop} {action : MainloopAction}, P s → s.step type action = some t → P t)
    {actions : List MainloopAction} (holds : P s) (ran : s.run type actions = some t) : P t := by
  induction actions generalizing s with
  | nil =>
    cases ran
    exact holds
  | cons action rest ih =>
    obtain ⟨middle, stepped, ran⟩ := Option.bind_eq_some.mp ran
    exact ih (preserved holds stepped) ran

/-! ### The monitor outlives no node -/

/-- Once `mainloop` has joined the thread, the thread has returned, and the monitor made no call
after `node.reset`. -/
def Outlived (s : Mainloop) : Prop :=
  (s.main = .joined ∨ s.main = .nodeReset → s.thread = .exited) ∧ .nodeReset ∉ s.monitorCalls

theorem Outlived.step (outlived : Outlived s) (stepped : s.step type action = some t) : Outlived t := by
  obtain ⟨joined, calls⟩ := outlived
  rcases step_cases stepped with ⟨-, -, rfl⟩ | ⟨-, -, -, rfl⟩ | ⟨-, -, rfl⟩ | ⟨-, -, exited, rfl⟩ |
    ⟨-, atJoined, rfl⟩ | ⟨-, rfl⟩ | ⟨-, -, rfl⟩ | ⟨-, atCheck, rfl⟩ | ⟨-, waiting, rfl⟩ |
    ⟨reply, -, querying, rfl⟩
  iterate 3 simp [Outlived, calls]
  · simp [Outlived, calls, exited]
  · simp [Outlived, calls, joined (.inl atJoined)]
  · split <;> exact ⟨joined, calls⟩
  · exact ⟨joined, calls⟩
  · exact ⟨fun final => absurd (joined final) (by simp [atCheck]), calls⟩
  · exact ⟨fun final => absurd (joined final) (by simp [waiting]), calls⟩
  · have live : s.main ≠ .nodeReset := fun reset => absurd (joined (.inr reset)) (by simp [querying])
    exact ⟨fun final => absurd (joined final) (by simp [querying]), by simp [calls, Ne.symm live]⟩

/-- Over every run from the start, the monitor never calls `stopRunning` on a deleted node: it is
joined before `node.reset`. -/
theorem monitor_stops_before_node_reset {actions : List MainloopAction}
    (ran : (init type).run type actions = some s) :
    .nodeReset ∉ s.monitorCalls ∧ (s.main = .joined ∨ s.main = .nodeReset → s.thread = .exited) :=
  have outlived := run_preserves Outlived (fun held stepped => held.step stepped)
    (by unfold init; split <;> simp [Outlived]) ran
  ⟨outlived.2, outlived.1⟩

def spotTerminate : Value :=
  .object [("action", .string "terminate"), ("time", .string "2026-11-09T10:02:00Z")]

/-- The spot monitor stops a running node; `mainloop` then deletes the monitor and the node, and a
late signal finds no node. -/
def spotTerminated : List MainloopAction :=
  [.enterRun, .check, .wake, .reply (some spotTerminate), .leaveRun, .resetMonitor, .check, .join,
    .resetNode, .signalCheck]

theorem monitor_stops_before_node_reset_spot :
    ∃ s, (init .aws).run .aws spotTerminated = some s ∧
      .nodeReset ∉ s.monitorCalls ∧ (s.main = .joined ∨ s.main = .nodeReset → s.thread = .exited) :=
  ⟨_, rfl, @monitor_stops_before_node_reset .aws _ spotTerminated rfl⟩

/-- `termhandler` is installed for the whole process: run on another thread, it can find the node,
then call `stopRunning` after `mainloop` has deleted it. -/
example : ∃ s, (init .none).run .none [.enterRun, .signalCheck, .signalCheck, .signalCall, .leaveRun,
    .resetMonitor, .join, .resetNode, .signalCall] = some s ∧ .nodeReset ∈ s.stopCalls :=
  ⟨_, rfl, by decide⟩

/-! ### `node->run()` returns only after a stop made inside it -/

def StopsSeen (s : Mainloop) : Prop :=
  (s.main = .beforeRun → .running ∉ s.stopCalls) ∧
    (s.main = .running → (s.nodeRun = false ↔ .running ∈ s.stopCalls)) ∧
    (s.main.pastRun → .running ∈ s.stopCalls)

theorem StopsSeen.stopRunning (seen : StopsSeen s) (count : Nat) : StopsSeen (s.stopRunning count) := by
  obtain ⟨before, during, after⟩ := seen
  cases count with
  | zero => simpa [StopsSeen] using ⟨before, during, after⟩
  | succ count =>
    refine ⟨fun atBefore => ?_, fun atRunning => ?_, fun past => ?_⟩ <;>
      simp only [stopRunning_main, stopRunning_stopCalls, List.mem_append, List.mem_replicate] at *
    · simp [before atBefore, atBefore]
    · simp [atRunning]
    · exact .inl (after past)

theorem StopsSeen.step (seen : StopsSeen s) (stepped : s.step type action = some t) : StopsSeen t := by
  obtain ⟨before, during, after⟩ := seen
  rcases step_cases stepped with ⟨-, atBefore, rfl⟩ | ⟨-, atRunning, stopped, rfl⟩ |
    ⟨-, atReturned, rfl⟩ | ⟨-, atJoining, -, rfl⟩ | ⟨-, atJoined, rfl⟩ | ⟨-, rfl⟩ | ⟨-, -, rfl⟩ |
    ⟨-, -, rfl⟩ | ⟨-, -, rfl⟩ | ⟨reply, -, -, rfl⟩
  · simp [StopsSeen, before atBefore]
  · simp [StopsSeen, (during atRunning).mp stopped]
  · simp [StopsSeen, after (by simp [atReturned])]
  · simp [StopsSeen, after (by simp [atJoining])]
  · simp [StopsSeen, after (by simp [atJoined])]
  · split <;> exact ⟨before, during, after⟩
  · exact StopsSeen.stopRunning ⟨before, during, after⟩ 1
  · exact ⟨before, during, after⟩
  · exact ⟨before, during, after⟩
  · exact StopsSeen.stopRunning ⟨before, during, after⟩ _

/-- Over every run from the start, the running node is told to stop exactly when a `stopRunning`
was made inside `node->run()`, and `node->run()` has returned only after one: a stop made before
it began is overwritten when it sets `mRun`. -/
theorem run_returns_after_inside_stop {actions : List MainloopAction}
    (ran : (init type).run type actions = some s) :
    (s.main = .running → (s.nodeRun = false ↔ .running ∈ s.stopCalls)) ∧
      (s.main.pastRun → .running ∈ s.stopCalls) :=
  (run_preserves StopsSeen (fun held stepped => held.step stepped)
    (by unfold init; split <;> simp [StopsSeen]) ran).2

theorem run_returns_after_inside_stop_spot :
    ∃ s, (init .aws).run .aws spotTerminated = some s ∧
      (s.main = .running → (s.nodeRun = false ↔ .running ∈ s.stopCalls)) ∧
        (s.main.pastRun → .running ∈ s.stopCalls) :=
  ⟨_, rfl, @run_returns_after_inside_stop .aws _ spotTerminated rfl⟩

/-- A spot notice answered before `node->run()` begins is lost: the node then runs on. -/
example : ∃ s, (init .aws).run .aws [.check, .wake, .reply (some spotTerminate), .enterRun] = some s ∧
    s.main = .running ∧ s.nodeRun = true ∧ s.stopCalls = [.beforeRun] := ⟨_, rfl, rfl, rfl, rfl⟩

/-! ### The join returns -/

/-- The steps the monitor thread can still take once `mRun` is cleared. -/
@[simp] def threadBudget : MonitorPc → Nat
  | .check | .waiting => 1
  | .querying => 2
  | .exited => 0

@[simp] def replyBudget : MonitorPc → Nat
  | .querying => 1
  | _ => 0

theorem step_budget (stopped : s.monitorRun = false) (stepped : s.step type action = some t) :
    t.monitorRun = false ∧
      threadBudget t.thread + (if action.isThreadStep then 1 else 0) ≤ threadBudget s.thread ∧
      replyBudget t.thread + (if action.isReply then 1 else 0) ≤ replyBudget s.thread := by
  rcases step_cases stepped with ⟨rfl, -, rfl⟩ | ⟨rfl, -, -, rfl⟩ | ⟨rfl, -, rfl⟩ | ⟨rfl, -, -, rfl⟩ |
    ⟨rfl, -, rfl⟩ | ⟨rfl, rfl⟩ | ⟨rfl, -, rfl⟩ | ⟨rfl, atCheck, rfl⟩ | ⟨rfl, waiting, rfl⟩ |
    ⟨reply, rfl, querying, rfl⟩
  iterate 5 simp [stopped]
  · split <;> simp [stopped]
  · simp [stopped]
  · simp [stopped, atCheck]
  · simp [stopped, waiting]
  · simp [stopped, querying]

theorem run_budget (stopped : s.monitorRun = false) {actions : List MainloopAction}
    (ran : s.run type actions = some t) :
    actions.countP MainloopAction.isThreadStep + threadBudget t.thread ≤ threadBudget s.thread ∧
      actions.countP MainloopAction.isReply + replyBudget t.thread ≤ replyBudget s.thread := by
  induction actions generalizing s with
  | nil =>
    cases ran
    simp
  | cons action rest ih =>
    obtain ⟨middle, stepped, ran⟩ := Option.bind_eq_some.mp ran
    obtain ⟨stays, steps, replies⟩ := step_budget stopped stepped
    obtain ⟨restSteps, restReplies⟩ := ih stays ran
    simp only [List.countP_cons]
    split_ifs at steps replies ⊢ <;> omega

theorem thread_step_enabled (running : s.thread ≠ .exited) :
    ∃ action, action.isThreadStep ∧ (s.step type action).isSome := by
  cases atPc : s.thread with
  | check => exact ⟨.check, rfl, by simp [step, atPc]⟩
  | waiting => exact ⟨.wake, rfl, by simp [step, atPc]⟩
  | querying => exact ⟨.reply none, rfl, by simp [step, atPc]⟩
  | exited => exact absurd atPc running

/-- Once `~PreemptionMonitor` has cleared `mRun`, whatever runs, the thread takes at most two more
steps, at most one of them a query, and until it has returned it can always take one: the join
returns. -/
theorem stopped_thread_steps (stopped : s.monitorRun = false) {actions : List MainloopAction}
    (ran : s.run type actions = some t) :
    actions.countP MainloopAction.isThreadStep ≤ 2 ∧ actions.countP MainloopAction.isReply ≤ 1 ∧
      (t.thread ≠ .exited → ∃ action, action.isThreadStep ∧ (t.step type action).isSome) := by
  obtain ⟨steps, replies⟩ := run_budget stopped ran
  have bounded : threadBudget s.thread ≤ 2 ∧ replyBudget s.thread ≤ 1 := by
    cases s.thread <;> simp
  exact ⟨by omega, by omega, thread_step_enabled⟩

/-- `mainloop` joining a thread that is making a query. -/
def joiningInQuery : Mainloop := ⟨.joining, false, false, .querying, 0, [], []⟩

theorem stopped_thread_steps_in_query :
    joiningInQuery.monitorRun = false ∧
      ∃ t, joiningInQuery.run .aws [.reply (some spotTerminate), .signalCheck, .check, .join] = some t ∧
        [MainloopAction.reply (some spotTerminate), .signalCheck, .check, .join].countP
            MainloopAction.isThreadStep ≤ 2 ∧
          [MainloopAction.reply (some spotTerminate), .signalCheck, .check, .join].countP
            MainloopAction.isReply ≤ 1 ∧
          (t.thread ≠ .exited → ∃ action, action.isThreadStep ∧ (t.step .aws action).isSome) :=
  ⟨rfl, _, rfl, @stopped_thread_steps .aws joiningInQuery _ rfl _ rfl⟩

end Mainloop

end Arras4.Node
