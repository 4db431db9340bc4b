import ArrasNode.Router.Address

/-! A computation of a session (Computation.cc), and the protocol `Phase.next` that what it
causes follows. Its process belongs to the process library, outside this repository:
`ProcessLibrary` holds the helpers `Computation` calls, a spawn succeeds as an argument says, and
the process exits by a step of its own. -/
namespace Arras4.Node

inductive ExitType
  | exit
  | signal
  | internal
deriving DecidableEq, Repr

structure ExitStatus where
  exitType : ExitType
  status : Int
deriving DecidableEq, Repr

/-- `impl::exitCodeString` (given whether the exit was expected), `internalCodeString`,
`convertHighExitToSignal` (applied to a copy) and `UNINTERRUPTABLE`. -/
structure ProcessLibrary where
  exitCodeString : Int → Bool → String
  internalCodeString : Int → String
  convertHighExitToSignal : ExitStatus → ExitStatus
  uninterruptable : Int

/-- `impl::ProcessState`, with the exit status once the process has terminated. -/
inductive ProcessStage
  | notSpawned
  | spawned
  | terminating
  | terminated (status : ExitStatus)
deriving DecidableEq, Repr

@[simp] def ProcessStage.isTerminated : ProcessStage → Bool
  | .terminated _ => true
  | _ => false

/-- The members of a signal's object that `Session::signal` and `Computation::signal` read:
"status" when it is a string, and whether "routing" is not null. The whole object is what a
control message carries. -/
structure SignalData where
  status : Option String
  routing : Bool
deriving DecidableEq, Repr

/-- What a computation causes outside itself: a control message to it through the router
(`ArrasController::sendControl`), SIGSTOP to its process group, and a computationTerminated event
with its reason (`ArrasController::handleEvent`). -/
inductive Effect
  | control (command : String) (data : SignalData)
  | suspend
  | terminated (reason : String)
deriving DecidableEq, Repr

def Effect.isGo : Effect → Bool
  | .control command _ => command = "go"
  | _ => false

structure Computation where
  id : Uuid
  name : String
  process : ProcessStage
  sentGo : Bool
  terminationExpected : Bool
deriving DecidableEq, Repr

structure ComputationStatus where
  state : String
  stoppedReason : Option String := none
  exitType : Option String := none
  exitCode : Option Int := none
  signal : Option Int := none
deriving DecidableEq, Repr

section Library

variable (lib : ProcessLibrary)

def exitStatusString (es : ExitStatus) (expected : Bool) : String :=
  match es.exitType with
  | .exit => lib.exitCodeString es.status expected
  | .signal => "exited due to signal " ++ toString es.status
  | .internal => lib.internalCodeString es.status

namespace Computation

/-- The constructor: `addProcess` gives a process object not yet spawned. -/
def create (id : Uuid) (name : String) : Computation := ⟨id, name, .notSpawned, false, false⟩

/-- `Computation::start`: when the spawn succeeds the process runs and the termination is not
expected. -/
def start (c : Computation) (spawned : Bool) : Computation × Bool :=
  if spawned then ({ c with process := .spawned, terminationExpected := false }, true) else (c, false)

/-- `Computation::shutdown`: `terminate` moves a running process to terminating. -/
def shutdown (c : Computation) : Computation :=
  { c with
    terminationExpected := true
    process := if c.process = .spawned then .terminating else c.process }

/-- `Computation::signal`: a "run" signal to a spawned process sends "go" the first time, followed
by SIGSTOP under autoSuspend, and "update" after that. -/
def signal (c : Computation) (autoSuspend : Bool) (data : SignalData) : Computation × List Effect :=
  if data.status = some "run" ∧ c.process = .spawned then
    if c.sentGo then (c, [.control "update" data])
    else ({ c with sentGo := true }, .control "go" data :: if autoSuspend then [.suspend] else [])
  else (c, [])

/-- `Computation::onTerminate`: the event reason is the name and the exit status. -/
def onTerminate (c : Computation) (status : ExitStatus) : Effect :=
  .terminated (c.name ++ " " ++ exitStatusString lib (lib.convertHighExitToSignal status) c.terminationExpected)

def getStatus (c : Computation) : ComputationStatus :=
  match c.process with
  | .notSpawned => { state := "NotStarted" }
  | .spawned => { state := if c.sentGo then "Running" else "Starting" }
  | .terminating => { state := "Stopping" }
  | .terminated status =>
    let es := lib.convertHighExitToSignal status
    let reason := some (exitStatusString lib es c.terminationExpected)
    match es.exitType with
    | .exit => { state := "Stopped", stoppedReason := reason, exitType := some "Exit", exitCode := some es.status }
    | .signal => { state := "Stopped", stoppedReason := reason, exitType := some "Signal", signal := some es.status }
    | .internal =>
      { state := if es.status = lib.uninterruptable then "Uninterruptable" else "LaunchError",
        stoppedReason := reason }

end Computation

end Library

/-- What happens to one computation: `startNewComputation` starting it once, right after
constructing it, the session's other calls, and its process exiting, which calls `onTerminate`. -/
inductive ComputationAction
  | start (spawned : Bool)
  | signal (autoSuspend : Bool) (data : SignalData)
  | shutdown
  | exit (status : ExitStatus)
deriving DecidableEq, Repr

namespace Computation

variable (lib : ProcessLibrary)

def step (c : Computation) : ComputationAction → Option (Computation × List Effect)
  | .start spawned => if c.process = .notSpawned then some ((c.start spawned).1, []) else none
  | .signal autoSuspend data => some (c.signal autoSuspend data)
  | .shutdown => some (c.shutdown, [])
  | .exit status =>
    if c.process = .spawned ∨ c.process = .terminating then
      some ({ c with process := .terminated status }, [c.onTerminate lib status])
    else none

def run (c : Computation) : List ComputationAction → Option (Computation × List Effect)
  | [] => some (c, [])
  | action :: rest =>
    (c.step lib action).bind fun first =>
      (first.1.run rest).map fun last => (last.1, first.2 ++ last.2)

end Computation

/-- Where a computation is in what it causes: no "go" yet, "go" just sent, running, terminated. -/
inductive Phase
  | waiting
  | went
  | running
  | stopped
deriving DecidableEq, Repr

namespace Phase

/-- The protocol: "go" once and before any "update", SIGSTOP only right after "go", and the
termination event after everything else. -/
def next : Phase → Effect → Option Phase
  | .waiting, .control "go" _ => some .went
  | .went, .suspend => some .running
  | .went, .control "update" _ => some .running
  | .running, .control "update" _ => some .running
  | .waiting, .terminated _ => some .stopped
  | .went, .terminated _ => some .stopped
  | .running, .terminated _ => some .stopped
  | _, _ => none

def follow (phase : Phase) (effects : List Effect) : Option Phase := effects.foldlM next phase

theorem follow_append (phase : Phase) (first rest : List Effect) :
    phase.follow (first ++ rest) = (phase.follow first).bind (·.follow rest) :=
  List.foldlM_append _ _ _ _

theorem follow_stopped {effects : List Effect} {phase : Phase} (followed : stopped.follow effects = some phase) :
    effects = [] := by
  cases effects with
  | nil => rfl
  | cons effect rest => cases effect <;> simp [follow, next] at followed

theorem follow_terminated {phase phase' : Phase} {before after : List Effect} {reason : String}
    (followed : phase.follow (before ++ .terminated reason :: after) = some phase') : after = [] := by
  rw [follow_append] at followed
  obtain ⟨middle, -, followed⟩ := Option.bind_eq_some.mp followed
  obtain ⟨final, stepped, followed⟩ := Option.bind_eq_some.mp followed
  obtain rfl : final = .stopped := by cases middle <;> simp [next] at stepped <;> exact stepped.symm
  exact follow_stopped followed

def goes : Phase → Nat
  | .waiting => 1
  | _ => 0

theorem goes_next {phase phase' : Phase} {effect : Effect} (stepped : phase.next effect = some phase') :
    phase'.goes + (if effect.isGo then 1 else 0) ≤ phase.goes := by
  unfold next at stepped
  split at stepped <;> cases stepped <;> simp_all [goes, Effect.isGo]

/-- The protocol allows at most one "go". -/
theorem follow_goes {effects : List Effect} {phase phase' : Phase} (followed : phase.follow effects = some phase') :
    (effects.filter Effect.isGo).length ≤ phase.goes := by
  induction effects generalizing phase with
  | nil => exact Nat.zero_le _
  | cons effect rest ih =>
    obtain ⟨middle, stepped, followed⟩ := Option.bind_eq_some.mp followed
    have bound := goes_next stepped
    have restBound := ih followed
    cases go : effect.isGo <;> simp only [List.filter_cons, go, if_true, if_false] at bound ⊢ <;>
      simp only [Bool.false_eq_true, ↓reduceIte, List.length_cons] at bound ⊢ <;> omega

/-- What the protocol allows from the start: "go" at most once, and nothing after the
termination event. -/
theorem protocol_of_follow {effects : List Effect} {phase : Phase}
    (followed : waiting.follow effects = some phase) :
    (∃ phase, waiting.follow effects = some phase) ∧ (effects.filter Effect.isGo).length ≤ 1 ∧
      ∀ before reason after, effects = before ++ .terminated reason :: after → after = [] :=
  ⟨⟨phase, followed⟩, follow_goes followed, fun _ _ _ split => follow_terminated (split ▸ followed)⟩

end Phase

namespace Computation

def phase (c : Computation) : Phase :=
  if c.process.isTerminated then .stopped else if c.sentGo then .running else .waiting

/-- The protocol's phase `p` abstracts computation `c`: it is `c`'s own phase, or "go" was the
last thing sent and `c` runs. -/
def Abstracts (c : Computation) (p : Phase) : Prop := p = c.phase ∨ (p = .went ∧ c.phase = .running)

variable {lib : ProcessLibrary} {c c' : Computation} {p : Phase} {effects : List Effect}

theorem Abstracts.refl (c : Computation) : c.Abstracts c.phase := .inl rfl

theorem Abstracts.eq_waiting (abstracts : c.Abstracts p) (waiting : c.phase = .waiting) : p = .waiting := by
  rcases abstracts with rfl | ⟨-, running⟩
  exacts [waiting, absurd (waiting.symm.trans running) (by decide)]

/-- Every step of the code is allowed by the protocol. -/
theorem Abstracts.step (abstracts : c.Abstracts p) {action : ComputationAction}
    (stepped : c.step lib action = some (c', effects)) : ∃ p', p.follow effects = some p' ∧ c'.Abstracts p' := by
  cases action with
  | start spawned =>
    simp only [Computation.step] at stepped
    split_ifs at stepped with fresh
    cases stepped
    refine ⟨p, rfl, ?_⟩
    unfold Computation.start
    split_ifs <;> simpa [Abstracts, phase, fresh] using abstracts
  | signal autoSuspend data =>
    simp only [Computation.step, Computation.signal] at stepped
    split_ifs at stepped with run went suspend <;> cases stepped
    · -- "update"
      obtain rfl | ⟨rfl, -⟩ := abstracts <;> exact ⟨.running, by simp [Phase.follow, Phase.next, phase, run.2, went], .inl (by simp [phase, run.2, went])⟩
    · -- "go", then SIGSTOP
      rw [abstracts.eq_waiting (by simp [phase, run.2, went])]
      exact ⟨.running, rfl, .inl (by simp [phase, run.2])⟩
    · -- "go"
      rw [abstracts.eq_waiting (by simp [phase, run.2, went])]
      exact ⟨.went, rfl, .inr ⟨rfl, by simp [phase, run.2]⟩⟩
    · exact ⟨p, rfl, abstracts⟩
  | shutdown =>
    cases stepped
    refine ⟨p, rfl, ?_⟩
    have same : c.shutdown.phase = c.phase := by
      by_cases spawned : c.process = .spawned <;> simp [Computation.shutdown, phase, spawned]
    rwa [Abstracts, same]
  | exit status =>
    simp only [Computation.step] at stepped
    split_ifs at stepped with live
    cases stepped
    have running : c.process.isTerminated = false := by rcases live with live | live <;> simp [live]
    refine ⟨.stopped, ?_, .inl (by simp [phase])⟩
    obtain rfl | ⟨rfl, -⟩ := abstracts
    · unfold phase
      split_ifs <;> simp_all [Phase.follow, Phase.next, onTerminate]
    · simp [Phase.follow, Phase.next, onTerminate]

theorem Abstracts.run (abstracts : c.Abstracts p) {actions : List ComputationAction}
    (ran : c.run lib actions = some (c', effects)) : ∃ p', p.follow effects = some p' ∧ c'.Abstracts p' := by
  induction actions generalizing c p effects with
  | nil =>
    cases ran
    exact ⟨p, rfl, abstracts⟩
  | cons action rest ih =>
    obtain ⟨first, stepped, ran⟩ := Option.bind_eq_some.mp ran
    obtain ⟨last, rest, done⟩ := Option.map_eq_some'.mp ran
    obtain ⟨rfl, rfl⟩ := Prod.mk.inj done
    obtain ⟨middle, followed, between⟩ := abstracts.step stepped
    obtain ⟨p', followed', final⟩ := ih between rest
    exact ⟨p', by rw [Phase.follow_append, followed]; exact followed', final⟩

theorem run_append (c : Computation) (first rest : List ComputationAction) :
    c.run lib (first ++ rest) = (c.run lib first).bind fun middle =>
      (middle.1.run lib rest).map fun last => (last.1, middle.2 ++ last.2) := by
  induction first generalizing c with
  | nil => simp [Computation.run]
  | cons action first ih =>
    rw [List.cons_append]
    simp only [Computation.run]
    cases c.step lib action with
    | none => rfl
    | some middle =>
      simp only [Option.some_bind]
      rw [ih]
      cases middle.1.run lib first with
      | none => rfl
      | some last => simp [Option.map_map, Function.comp_def]

theorem run_concat {actions : List ComputationAction} {action : ComputationAction} {c'' : Computation}
    {more : List Effect} (ran : c.run lib actions = some (c', effects)) (stepped : c'.step lib action = some (c'', more)) :
    c.run lib (actions ++ [action]) = some (c'', effects ++ more) := by
  simp [run_append, ran, Computation.run, stepped]

end Computation

/-- A process library whose exit text is the expected flag. -/
def flagLibrary : ProcessLibrary := ⟨fun _ expected => toString expected, fun _ => "", id, 0⟩

/-- Two "run" signals, then a shutdown and the process's exit. -/
def runTwiceThenShutdown : List ComputationAction :=
  [.start true, .signal false ⟨some "run", false⟩, .signal false ⟨some "run", false⟩, .shutdown,
    .exit ⟨.exit, 0⟩]

/-- The run gives "go", then "update", then an exit reported as expected. -/
example : ((Computation.create 1 "a").run flagLibrary runTwiceThenShutdown).map Prod.snd =
    some [.control "go" ⟨some "run", false⟩, .control "update" ⟨some "run", false⟩, .terminated "a true"] := by
  decide

end Arras4.Node
