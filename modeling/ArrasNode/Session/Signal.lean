import ArrasNode.Router.UuidMap
import ArrasNode.Session.State
import ArrasNode.Session.Computation

/-! A session with its computations (Session.cc): `Session::signal` and `signalAll` over
`mComputations`, `startNewComputation`, the computations' shutdown and their processes' exits,
beside the session's own calls and threads as `Session.step` has them. `Session::signal`'s
`checkIsFree` under `mStateMutex` and its `signalAll` under `mComputationsMutex` are one step. -/
namespace Arras4.Node

/-- What a session's calls and its computations cause outside it: a computation's effect, the
routing Update `updateSession` sends the router, and the EngineReady `signalEngineReady` sends the
client. -/
inductive SessionOutput
  | computation (id : Uuid) (effect : Effect)
  | updateSession
  | engineReady
deriving DecidableEq, Repr

def SessionOutput.effectFor (id : Uuid) : SessionOutput → Option Effect
  | .computation k effect => if k = id then some effect else none
  | _ => none

/-- What computation `id` has caused, in order. -/
def outputsFor (id : Uuid) (outputs : List SessionOutput) : List Effect := outputs.filterMap (·.effectFor id)

/-- `Session::signalAll`: every computation, in id order. -/
def signalAll (autoSuspend : Bool) (data : SignalData) (computations : UuidMap Computation) :
    UuidMap Computation × List SessionOutput :=
  (computations.map fun entry => (entry.1, (entry.2.signal autoSuspend data).1),
    computations.flatMap fun entry => (entry.2.signal autoSuspend data).2.map (.computation entry.1))

structure SessionComputations where
  session : Session
  computations : UuidMap Computation
  autoSuspend : Bool

/-- One step of a session with its computations: a step of `Session.step`, a signal, a
`startNewComputation` in the body of an update (the computation joins `mComputations` once its
process spawns), a shutdown by `applyNewConfig` or `deleteProc`, or a process exiting. -/
inductive SessionEvent
  | session (action : Action)
  | signal (data : SignalData)
  | startNewComputation (id : Uuid) (name : String) (spawned : Bool)
  | shutdown (id : Uuid)
  | exit (id : Uuid) (status : ExitStatus)

namespace SessionComputations

def create (id nodeId : Uuid) (autoSuspend : Bool) : SessionComputations :=
  ⟨Session.create id nodeId, [], autoSuspend⟩

/-- `Session::signal`: `checkIsFree`, then "run" goes to every computation and, when the signal
has routing, to the router as an Update; "engineReady" goes to the client; any other status is
only logged. -/
def signal (system : SessionComputations) (data : SignalData) :
    Except SessionError (SessionComputations × List SessionOutput) :=
  match system.session.checkIsFree with
  | some error => .error error
  | none =>
    if data.status = some "run" then
      let signalled := signalAll system.autoSuspend data system.computations
      .ok ({ system with computations := signalled.1 },
        signalled.2 ++ if data.routing then [.updateSession] else [])
    else if data.status = some "engineReady" then .ok (system, [.engineReady])
    else .ok (system, [])

variable (lib : ProcessLibrary)

/-- The session and its computations after one event, with what it caused, when the event can
happen. A refused signal changes nothing. -/
def step (system : SessionComputations) : SessionEvent → Option (SessionComputations × List SessionOutput)
  | .session action => (system.session.step action).map fun session => ({ system with session := session }, [])
  | .signal data =>
    match system.signal data with
    | .ok result => some result
    | .error _ => some (system, [])
  | .startNewComputation id name spawned =>
    if OperationBody.applyNewConfig ∈ system.session.operations ∧ system.computations.find id = none then
      let started := (Computation.create id name).start spawned
      some (if started.2 then { system with computations := system.computations.insert id started.1 } else system, [])
    else none
  | .shutdown id =>
    match system.computations.find id with
    | some computation =>
      if system.session.runningBodies ≠ [] then
        some ({ system with computations := system.computations.insert id computation.shutdown }, [])
      else none
    | none => none
  | .exit id status =>
    match system.computations.find id with
    | some computation =>
      (computation.step lib (.exit status)).map fun result =>
        ({ system with computations := system.computations.insert id result.1 }, result.2.map (.computation id))
    | none => none

def run (system : SessionComputations) : List SessionEvent → Option (SessionComputations × List SessionOutput)
  | [] => some (system, [])
  | event :: rest =>
    (system.step lib event).bind fun first =>
      (first.1.run rest).map fun last => (last.1, first.2 ++ last.2)

end SessionComputations

section Outputs

variable {id : Uuid}

@[simp] theorem outputsFor_nil : outputsFor id [] = [] := rfl

@[simp] theorem outputsFor_append (first rest : List SessionOutput) :
    outputsFor id (first ++ rest) = outputsFor id first ++ outputsFor id rest :=
  List.filterMap_append first rest _

theorem outputsFor_computation (k : Uuid) (effects : List Effect) :
    outputsFor id (effects.map (.computation k)) = if k = id then effects else [] := by
  by_cases same : k = id <;> simp [outputsFor, SessionOutput.effectFor, same, Function.comp_def]

@[simp] theorem outputsFor_updateSession : outputsFor id [.updateSession] = [] := rfl

@[simp] theorem outputsFor_engineReady : outputsFor id [.engineReady] = [] := rfl

variable {autoSuspend : Bool} {data : SignalData}

theorem keys_signalAll (computations : UuidMap Computation) :
    (signalAll autoSuspend data computations).1.keys = computations.keys := by
  simp [signalAll, UuidMap.keys, Function.comp_def]

theorem find_signalAll (computations : UuidMap Computation) (k : Uuid) :
    (signalAll autoSuspend data computations).1.find k =
      (computations.find k).map fun c => (c.signal autoSuspend data).1 := by
  induction computations with
  | nil => rfl
  | cons entry rest ih =>
    by_cases same : k = entry.1 <;> simp_all [signalAll, UuidMap.find]

/-- `signalAll` gives each computation what its own `signal` causes. -/
theorem outputsFor_signalAll {computations : UuidMap Computation} (nodup : computations.keys.Nodup) :
    outputsFor id (signalAll autoSuspend data computations).2 =
      ((computations.find id).map fun c => (c.signal autoSuspend data).2).getD [] := by
  induction computations with
  | nil => rfl
  | cons entry rest ih =>
    simp only [UuidMap.keys, List.map_cons, List.nodup_cons] at nodup
    have restOutputs := ih nodup.2
    simp only [signalAll, List.flatMap_cons, outputsFor_append] at restOutputs ⊢
    rw [restOutputs, outputsFor_computation]
    by_cases same : entry.1 = id
    · have absent : UuidMap.find rest id = none := by
        cases found : UuidMap.find rest id
        · rfl
        · exact absurd (same ▸ UuidMap.mem_keys.mpr (by simp [found])) nodup.1
      simp [same, absent, UuidMap.find]
    · simp [same, UuidMap.find, Ne.symm same]

end Outputs

namespace SessionComputations

variable {lib : ProcessLibrary} {system next : SessionComputations} {outputs more : List SessionOutput}

/-- `Session::signal` refines its abstraction `Session.signal`: it raises exactly the error that
one does, and leaves the session state as that one does. -/
theorem signal_session (system : SessionComputations) (data : SignalData) :
    (∀ error, system.signal data = .error error ↔ system.session.signal.2 = some error) ∧
    ∀ next outputs, system.signal data = .ok (next, outputs) → next.session = system.session.signal.1 := by
  unfold SessionComputations.signal
  cases checked : system.session.checkIsFree with
  | some error => simp [Session.signal, checked]
  | none =>
    refine ⟨fun error => ?_, fun next outputs signalled => ?_⟩
    · split_ifs <;> simp [Session.signal, checked]
    · split_ifs at signalled <;> cases signalled <;> rfl

/-- A signal that is not refused: "run" signals every computation, anything else leaves them
alone. -/
theorem signal_ok {data : SignalData} (signalled : system.signal data = .ok (next, more)) :
    (next.computations = (signalAll system.autoSuspend data system.computations).1 ∧
      ∀ id, outputsFor id more = outputsFor id (signalAll system.autoSuspend data system.computations).2) ∨
    (next.computations = system.computations ∧ ∀ id, outputsFor id more = []) := by
  unfold SessionComputations.signal at signalled
  split at signalled
  · cases signalled
  · split_ifs at signalled <;> cases signalled
    · exact .inl ⟨rfl, fun id => by simp⟩
    · exact .inl ⟨rfl, fun id => by simp⟩
    · exact .inr ⟨rfl, fun id => rfl⟩
    · exact .inr ⟨rfl, fun id => rfl⟩

/-- Everything one step can do: change the session by a step of `Session.step` and no
computation; signal every computation; take one computation one step of its own; or add a
computation that has just been started. -/
theorem step_cases {event : SessionEvent} (stepped : system.step lib event = some (next, more)) :
    (next.computations = system.computations ∧ (∀ id, outputsFor id more = []) ∧
      ∃ action, system.session.step action = some next.session) ∨
    (next.session = system.session ∧ ∃ data,
      next.computations = (signalAll system.autoSuspend data system.computations).1 ∧
      ∀ id, outputsFor id more = outputsFor id (signalAll system.autoSuspend data system.computations).2) ∨
    (next.session = system.session ∧ ∃ k c c' action effects, system.computations.find k = some c ∧
      c.step lib action = some (c', effects) ∧ next.computations = system.computations.insert k c' ∧
      more = effects.map (.computation k)) ∨
    (next.session = system.session ∧ ∃ k name c' action, system.computations.find k = none ∧
      (Computation.create k name).step lib action = some (c', []) ∧
      next.computations = system.computations.insert k c' ∧ more = []) := by
  have unchanged : ∃ action, system.session.step action = some system.session := ⟨.signal, rfl⟩
  cases event with
  | session action =>
    obtain ⟨session, stepped', done⟩ := Option.map_eq_some'.mp stepped
    cases done
    exact .inl ⟨rfl, fun _ => rfl, action, stepped'⟩
  | signal data =>
    simp only [step] at stepped
    split at stepped <;> rename_i signalled <;> cases stepped
    · have session : next.session = system.session := (signal_session system data).2 _ _ signalled
      rcases signal_ok signalled with ⟨computations, signalledOutputs⟩ | ⟨computations, quiet⟩
      · exact .inr (.inl ⟨session, data, computations, signalledOutputs⟩)
      · exact .inl ⟨computations, quiet, session ▸ unchanged⟩
    · exact .inl ⟨rfl, fun _ => rfl, unchanged⟩
  | startNewComputation k name spawned =>
    simp only [step] at stepped
    split_ifs at stepped with guard <;> cases stepped
    · exact .inr (.inr (.inr ⟨rfl, k, name, _, .start spawned, guard.2, rfl, rfl, rfl⟩))
    · exact .inl ⟨rfl, fun _ => rfl, unchanged⟩
  | shutdown k =>
    simp only [step] at stepped
    split at stepped
    · rename_i c found
      split_ifs at stepped
      cases stepped
      exact .inr (.inr (.inl ⟨rfl, k, c, _, .shutdown, [], found, rfl, rfl, rfl⟩))
    · cases stepped
  | exit k status =>
    simp only [step] at stepped
    split at stepped
    · rename_i c found
      obtain ⟨result, exited, done⟩ := Option.map_eq_some'.mp stepped
      cases done
      exact .inr (.inr (.inl ⟨rfl, k, c, _, _, _, found, exited, rfl, rfl⟩))
    · cases stepped

/-- Every step changes the session's part by a step of `Session.step`. -/
theorem step_session {event : SessionEvent} (stepped : system.step lib event = some (next, more)) :
    ∃ action, system.session.step action = some next.session := by
  rcases step_cases stepped with ⟨-, -, stepped'⟩ | ⟨session, -⟩ | ⟨session, -⟩ | ⟨session, -⟩
  · exact stepped'
  all_goals exact ⟨.signal, by rw [session]; rfl⟩

theorem run_session {events : List SessionEvent} (reachable : system.session.Reachable)
    (ran : system.run lib events = some (next, outputs)) : next.session.Reachable := by
  induction events generalizing system outputs with
  | nil =>
    cases ran
    exact reachable
  | cons event rest ih =>
    obtain ⟨first, stepped, ranRest⟩ := Option.bind_eq_some.mp ran
    obtain ⟨⟨last, more⟩, ranLast, done⟩ := Option.map_eq_some'.mp ranRest
    obtain ⟨rfl, -⟩ := Prod.mk.inj done
    obtain ⟨action, sessionStepped⟩ := step_session stepped
    exact ih (reachable.step sessionStepped) ranLast

theorem ordered_step {event : SessionEvent} (ordered : system.computations.Ordered)
    (stepped : system.step lib event = some (next, more)) : next.computations.Ordered := by
  rcases step_cases stepped with ⟨computations, -⟩ | ⟨-, data, computations, -⟩ |
    ⟨-, k, c, c', -, -, -, -, computations, -⟩ | ⟨-, k, name, c', -, -, -, computations, -⟩
  · rwa [computations]
  · simpa only [UuidMap.Ordered, computations, keys_signalAll] using ordered
  all_goals rw [computations]; exact ordered.insert _ _

variable (lib)

/-- Computation `id` has caused exactly what a run of its own causes: nothing while it is not in
`mComputations`, and the effects of a run from its construction once it is. -/
structure Tracks (id : Uuid) (system : SessionComputations) (outputs : List SessionOutput) : Prop where
  absent : system.computations.find id = none → outputsFor id outputs = []
  present : ∀ c, system.computations.find id = some c →
    ∃ name actions, (Computation.create id name).run lib actions = some (c, outputsFor id outputs)

variable {lib} {id : Uuid}

theorem Tracks.create (sessionId nodeId : Uuid) (autoSuspend : Bool) :
    Tracks lib id (create sessionId nodeId autoSuspend) [] :=
  ⟨fun _ => rfl, fun _ found => by cases found⟩

theorem Tracks.same (tracks : Tracks lib id system outputs) (computations : next.computations = system.computations)
    (quiet : outputsFor id more = []) : Tracks lib id next (outputs ++ more) := by
  refine ⟨fun absent => ?_, fun c found => ?_⟩
  · simpa [quiet] using tracks.absent (computations ▸ absent)
  · simpa [quiet] using tracks.present c (computations ▸ found)

theorem Tracks.insert (tracks : Tracks lib id system outputs) {k : Uuid} {c' : Computation}
    {effects : List Effect} (computations : next.computations = system.computations.insert k c')
    (outputsSame : more = effects.map (.computation k))
    (advances : k = id → ∃ name actions,
      (Computation.create id name).run lib actions = some (c', outputsFor id outputs ++ effects)) :
    Tracks lib id next (outputs ++ more) := by
  subst outputsSame
  by_cases same : k = id
  · subst same
    refine ⟨fun absent => by simp [computations] at absent, fun c found => ?_⟩
    simp only [computations, UuidMap.find_insert, if_true, Option.some.injEq] at found
    subst found
    simpa [outputsFor_computation] using advances rfl
  · have kept : next.computations.find id = system.computations.find id := by
      simp [computations, Ne.symm same]
    refine ⟨fun absent => ?_, fun c found => ?_⟩
    · simpa [outputsFor_computation, same] using tracks.absent (kept ▸ absent)
    · simpa [outputsFor_computation, same] using tracks.present c (kept ▸ found)

/-- Every step gives each computation exactly the effects of one step of its own. -/
theorem Tracks.step (tracks : Tracks lib id system outputs) (ordered : system.computations.Ordered)
    {event : SessionEvent} (stepped : system.step lib event = some (next, more)) :
    Tracks lib id next (outputs ++ more) := by
  rcases step_cases stepped with ⟨computations, quiet, -⟩ | ⟨-, data, computations, signalledOutputs⟩ |
    ⟨-, k, c, c', action, effects, found, stepped', computations, rfl⟩ |
    ⟨-, k, name, c', action, absent, started, computations, rfl⟩
  · exact tracks.same computations (quiet id)
  · -- "run": each computation takes its own `signal`
    have signalledFor : outputsFor id more =
        ((system.computations.find id).map fun c => (c.signal system.autoSuspend data).2).getD [] := by
      rw [signalledOutputs, outputsFor_signalAll ordered.nodup]
    have foundNext : next.computations.find id =
        (system.computations.find id).map fun c => (c.signal system.autoSuspend data).1 := by
      rw [computations, find_signalAll]
    refine ⟨fun absent => ?_, fun c found => ?_⟩
    · cases was : system.computations.find id
      · simpa [signalledFor, was] using tracks.absent was
      · simp [foundNext, was] at absent
    · rw [foundNext] at found
      obtain ⟨old, was, rfl⟩ := Option.map_eq_some'.mp found
      obtain ⟨name, actions, ran⟩ := tracks.present old was
      exact ⟨name, actions ++ [.signal system.autoSuspend data], by
        simpa [signalledFor, was] using Computation.run_concat ran
          (rfl : old.step lib (.signal system.autoSuspend data) = some (old.signal system.autoSuspend data))⟩
  · refine tracks.insert computations rfl fun same => ?_
    subst same
    obtain ⟨name, actions, ran⟩ := tracks.present c found
    exact ⟨name, actions ++ [action], Computation.run_concat ran stepped'⟩
  · refine tracks.insert computations (show [] = ([] : List Effect).map (.computation k) from rfl) fun same => ?_
    subst same
    exact ⟨name, [action], by simpa [tracks.absent absent, Computation.run] using started⟩

theorem Tracks.run (tracks : Tracks lib id system outputs) (ordered : system.computations.Ordered)
    {events : List SessionEvent} {final : SessionComputations} (ran : system.run lib events = some (final, more)) :
    Tracks lib id final (outputs ++ more) := by
  induction events generalizing system outputs more with
  | nil =>
    cases ran
    simpa using tracks
  | cons event rest ih =>
    obtain ⟨first, stepped, ranRest⟩ := Option.bind_eq_some.mp ran
    obtain ⟨⟨last, later⟩, ranLast, done⟩ := Option.map_eq_some'.mp ranRest
    obtain ⟨rfl, rfl⟩ := Prod.mk.inj done
    simpa using ih (tracks.step ordered stepped) (ordered_step ordered stepped) ranLast

end SessionComputations

/-- Session 5 on node 1 starts computation 7 in an update and is signalled twice, once with
routing; it is then deleted, and the computation is shut down and exits. -/
def updateSignalDelete : List SessionEvent :=
  [.session (.asyncUpdateConfig 5 1), .startNewComputation 7 "a" true, .session (.finish .applyNewConfig),
    .signal ⟨some "run", false⟩, .signal ⟨some "run", true⟩, .session .asyncDelete, .shutdown 7,
    .exit 7 ⟨.exit, 0⟩, .session (.finish .deleteProc)]

end Arras4.Node
