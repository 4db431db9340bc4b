import ArrasNode.Session.State

/-! The expiration deadline of a `Session` (Session.cc): `setExpirationTime`, `stopExpiration` and
the thread of `expirationProc`. Each region under `mExpirationMutex` is one step, and the callers
of the two methods take turns (two overlapping calls would race on `mExpirationThread`). The log is
what an observer sees, oldest first. -/
namespace Arras4.Node

/-- The thread running `expirationProc(expiry, message)`. `call` numbers the `setExpirationTime`
that started it; `running` is false once the procedure has returned, and the thread stays joinable
until it is joined. -/
structure ExpirationThread where
  call : Nat
  expiry : Nat
  message : String
  running : Bool
deriving DecidableEq, Repr

/-- A caller of `stopExpiration` past clearing the flag, in `join`; `resume` holds the expiry and
message when the stop is the first step of `setExpirationTime`. -/
inductive ExpirationCaller
  | idle
  | joining (resume : Option (Nat × String))
deriving DecidableEq, Repr

/-- What an observer sees: a `setExpirationTime` started its thread, a stop returned, or
`sessionExpired` was called, at the clock's reading and in the session's state then. -/
inductive ExpirationEvent
  | spawned (call expiry : Nat)
  | stopReturned
  | sessionExpired (call time : Nat) (message : String) (state : SessionState)
deriving DecidableEq, Repr

namespace ExpirationEvent

def expires (call : Nat) : ExpirationEvent → Bool
  | .sessionExpired c _ _ _ => c == call
  | _ => false

@[simp] theorem expires_spawned (call c e : Nat) : (spawned c e).expires call = false := rfl

@[simp] theorem expires_stopReturned (call : Nat) : stopReturned.expires call = false := rfl

@[simp] theorem expires_sessionExpired (call c time : Nat) (message : String) (state : SessionState) :
    (sessionExpired c time message state).expires call = (c == call) := rfl

end ExpirationEvent

/-- A session with `mExpirationSet`, `mExpirationThread`, the caller of `stopExpiration` and the
steady clock. -/
structure ExpiringSession where
  session : Session
  clock : Nat
  expirationSet : Bool
  thread : Option ExpirationThread
  caller : ExpirationCaller
  calls : Nat
  log : List ExpirationEvent
deriving DecidableEq, Repr

/-- One call, one step of the expiration thread, the clock moving on, or one action of the session
itself. `setExpirationTime` and `stopExpiration` clear the flag; `joined` is the return of the
stop's `join`, after which `setExpirationTime` sets the flag and starts its thread; `wake` is a
return of `wait_until` without timeout, and `timeout` one at the expiry. -/
inductive ExpirationAction
  | setExpirationTime (expiry : Nat) (message : String)
  | stopExpiration
  | joined
  | wake
  | timeout
  | tick (elapsed : Nat)
  | session (action : Action)

namespace ExpiringSession

def init (session : Session) (clock : Nat) : ExpiringSession :=
  ⟨session, clock, false, none, .idle, 0, []⟩

/-- The stop's `join` has returned; `setExpirationTime` goes on: `mExpirationSet = true` and a new
thread. -/
def joined (s : ExpiringSession) (resume : Option (Nat × String)) : ExpiringSession :=
  let stopped := { s with thread := none, caller := .idle, log := s.log ++ [.stopReturned] }
  match resume with
  | none => stopped
  | some (expiry, message) =>
    { stopped with
      expirationSet := true
      thread := some ⟨s.calls, expiry, message, true⟩
      calls := s.calls + 1
      log := stopped.log ++ [.spawned s.calls expiry] }

def step (s : ExpiringSession) : ExpirationAction → Option ExpiringSession
  | .setExpirationTime expiry message =>
    if s.caller = .idle then
      some { s with expirationSet := false, caller := .joining (some (expiry, message)) }
    else none
  | .stopExpiration =>
    if s.caller = .idle then some { s with expirationSet := false, caller := .joining none } else none
  | .joined =>
    match s.caller with
    | .joining resume => if s.thread.all (!·.running) then some (s.joined resume) else none
    | .idle => none
  | .wake =>
    match s.thread with
    | some thread =>
      if thread.running then
        some (if s.expirationSet then s else { s with thread := some { thread with running := false } })
      else none
    | none => none
  | .timeout =>
    match s.thread with
    | some thread =>
      if thread.running ∧ thread.expiry ≤ s.clock then
        some { s with
          thread := some { thread with running := false }
          log := if s.expirationSet then
              s.log ++ [.sessionExpired thread.call s.clock thread.message s.session.state]
            else s.log }
      else none
    | none => none
  | .tick elapsed => some { s with clock := s.clock + elapsed }
  | .session action => (s.session.step action).map fun session => { s with session := session }

def run (s : ExpiringSession) : List ExpirationAction → Option ExpiringSession
  | [] => some s
  | action :: rest => (s.step action).bind (·.run rest)

/-- What a step can do to the log, the calls and the thread: nothing to the log while the thread
at most ends; a stop's return, after the thread has ended, possibly followed by a new thread; or
the thread's `sessionExpired` at its expiry. -/
theorem step_cases {s next : ExpiringSession} {action : ExpirationAction}
    (stepped : s.step action = some next) :
    (next.log = s.log ∧ next.calls = s.calls ∧
      (next.thread = s.thread ∨
        ∃ thread, s.thread = some thread ∧ next.thread = some { thread with running := false })) ∨
    (next.log = s.log ++ [.stopReturned] ∧ next.calls = s.calls ∧ next.thread = none) ∨
    (∃ expiry message, next.log = s.log ++ [.stopReturned, .spawned s.calls expiry] ∧
      next.calls = s.calls + 1 ∧ next.thread = some ⟨s.calls, expiry, message, true⟩) ∨
    (∃ thread, s.thread = some thread ∧ thread.running ∧ thread.expiry ≤ s.clock ∧
      next.calls = s.calls ∧ next.thread = some { thread with running := false } ∧
      next.log = s.log ++ [.sessionExpired thread.call s.clock thread.message s.session.state]) := by
  cases action with
  | setExpirationTime expiry message =>
    simp only [step] at stepped
    split_ifs at stepped
    cases stepped
    exact .inl ⟨rfl, rfl, .inl rfl⟩
  | stopExpiration =>
    simp only [step] at stepped
    split_ifs at stepped
    cases stepped
    exact .inl ⟨rfl, rfl, .inl rfl⟩
  | joined =>
    cases caller : s.caller with
    | idle => simp [step, caller] at stepped
    | joining resume =>
      simp only [step, caller] at stepped
      split_ifs at stepped
      cases stepped
      cases resume with
      | none => exact .inr (.inl ⟨rfl, rfl, rfl⟩)
      | some resumed => exact .inr (.inr (.inl ⟨resumed.1, resumed.2, by simp [joined], rfl, rfl⟩))
  | wake =>
    cases found : s.thread with
    | none => simp [step, found] at stepped
    | some thread =>
      simp only [step, found] at stepped
      split_ifs at stepped <;> cases stepped
      · exact .inl ⟨rfl, rfl, .inl found⟩
      · exact .inl ⟨rfl, rfl, .inr ⟨thread, rfl, rfl⟩⟩
  | timeout =>
    cases found : s.thread with
    | none => simp [step, found] at stepped
    | some thread =>
      simp only [step, found] at stepped
      split_ifs at stepped with due set <;> cases stepped
      · exact .inr (.inr (.inr ⟨thread, rfl, due.1, due.2, rfl, rfl, rfl⟩))
      · exact .inl ⟨rfl, rfl, .inr ⟨thread, rfl, rfl⟩⟩
  | tick elapsed =>
    cases stepped
    exact .inl ⟨rfl, rfl, .inl rfl⟩
  | session action =>
    obtain ⟨session, -, rfl⟩ := Option.map_eq_some'.mp stepped
    exact .inl ⟨rfl, rfl, .inl rfl⟩

theorem stopReturned_split {log before after : List ExpirationEvent} {event : ExpirationEvent}
    (split : log ++ [event] = before ++ .stopReturned :: after) :
    (∃ middle, log = before ++ .stopReturned :: middle ∧ after = middle ++ [event]) ∨
      (before = log ∧ event = .stopReturned ∧ after = []) := by
  rcases List.eq_nil_or_concat after with rfl | ⟨middle, last, rfl⟩
  · obtain ⟨rfl, same⟩ := List.append_inj' split rfl
    exact .inr ⟨rfl, by simpa using same, rfl⟩
  · rw [List.concat_eq_append, ← List.cons_append, ← List.append_assoc] at split
    rw [List.concat_eq_append]
    obtain ⟨old, same⟩ := List.append_inj' split rfl
    exact .inl ⟨middle, old, by simpa using same.symm⟩

theorem unexpired_concat {after : List ExpirationEvent} {c : Nat} {event : ExpirationEvent}
    (old : ∀ x ∈ after, x.expires c = false) (new : event.expires c = false) :
    ∀ x ∈ after ++ [event], x.expires c = false := by
  intro x member
  rcases List.mem_append.mp member with member | member
  · exact old x member
  · rw [List.mem_singleton.mp member]; exact new

/-- The expiration invariants over the calls so far, the thread and the log: each spawned call is
numbered below `calls` and spawned once, a `sessionExpired` follows its call's spawn at or after
the expiry, a running thread has not expired yet, and after a stop has returned the calls spawned
before it neither expire nor run. -/
structure Inv (calls : Nat) (thread : Option ExpirationThread) (log : List ExpirationEvent) :
    Prop where
  spawnedBelow : ∀ c e, .spawned c e ∈ log → c < calls
  spawnedOnce : ∀ c e e', .spawned c e ∈ log → .spawned c e' ∈ log → e = e'
  threadSpawned : ∀ current, thread = some current → .spawned current.call current.expiry ∈ log
  expiredAfter : ∀ c time message state, .sessionExpired c time message state ∈ log →
    ∃ e, .spawned c e ∈ log ∧ e ≤ time
  threadFresh : ∀ current, thread = some current → current.running →
    ∀ event ∈ log, event.expires current.call = false
  atMostOnce : ∀ c, log.countP (·.expires c) ≤ 1
  afterStop : ∀ before after, log = before ++ .stopReturned :: after → ∀ c e,
    .spawned c e ∈ before → (∀ event ∈ after, event.expires c = false) ∧
      ∀ current, thread = some current → current.running → current.call ≠ c

theorem Inv.init : Inv 0 none [] where
  spawnedBelow := by simp
  spawnedOnce := by simp
  threadSpawned := by simp
  expiredAfter := by simp
  threadFresh := by simp
  atMostOnce := by simp
  afterStop := by simp

section Inv

variable {calls : Nat} {thread : Option ExpirationThread} {log : List ExpirationEvent}

theorem Inv.expired_below (inv : Inv calls thread log) {event : ExpirationEvent}
    (member : event ∈ log) {c : Nat} (expired : event.expires c = true) : c < calls := by
  cases event with
  | sessionExpired call time message state =>
    obtain rfl : call = c := by simpa [ExpirationEvent.expires] using expired
    obtain ⟨e, spawned, -⟩ := inv.expiredAfter call time message state member
    exact inv.spawnedBelow call e spawned
  | _ => simp [ExpirationEvent.expires] at expired

theorem Inv.threadEnded (inv : Inv calls thread log) {current : ExpirationThread}
    (found : thread = some current) : Inv calls (some { current with running := false }) log where
  spawnedBelow := inv.spawnedBelow
  spawnedOnce := inv.spawnedOnce
  threadSpawned := by rintro _ ⟨⟩; exact inv.threadSpawned current found
  expiredAfter := inv.expiredAfter
  threadFresh := by rintro _ ⟨⟩ ⟨⟩
  atMostOnce := inv.atMostOnce
  afterStop before after split c e spawnedBefore :=
    ⟨(inv.afterStop before after split c e spawnedBefore).1, by rintro _ ⟨⟩ ⟨⟩⟩

theorem Inv.stopReturned (inv : Inv calls thread log) : Inv calls none (log ++ [.stopReturned]) where
  spawnedBelow c e member := inv.spawnedBelow c e (by simpa using member)
  spawnedOnce c e e' member member' :=
    inv.spawnedOnce c e e' (by simpa using member) (by simpa using member')
  threadSpawned := by simp
  expiredAfter c time message state member := by
    obtain ⟨e, spawned, due⟩ := inv.expiredAfter c time message state (by simpa using member)
    exact ⟨e, List.mem_append_left _ spawned, due⟩
  threadFresh := by simp
  atMostOnce c := by simpa [List.countP_append] using inv.atMostOnce c
  afterStop before after split c e spawnedBefore := by
    refine ⟨?_, by simp⟩
    rcases stopReturned_split split with ⟨middle, old, rfl⟩ | ⟨-, -, rfl⟩
    · exact unexpired_concat (inv.afterStop before middle old c e spawnedBefore).1 rfl
    · simp

/-- `setExpirationTime` starts its thread, numbered `calls`, after the thread before it was
joined. -/
theorem Inv.spawn (inv : Inv calls none log) (expiry : Nat) (message : String) :
    Inv (calls + 1) (some ⟨calls, expiry, message, true⟩) (log ++ [.spawned calls expiry]) where
  spawnedBelow c e member := by
    rcases List.mem_append.mp member with old | new
    · exact Nat.lt_succ_of_lt (inv.spawnedBelow c e old)
    · cases List.mem_singleton.mp new
      exact Nat.lt_succ_self _
  spawnedOnce c e e' member member' := by
    simp only [List.mem_append, List.mem_singleton, ExpirationEvent.spawned.injEq] at member member'
    rcases member with old | ⟨rfl, rfl⟩ <;> rcases member' with old' | ⟨same, rfl⟩
    · exact inv.spawnedOnce c e e' old old'
    · exact absurd (inv.spawnedBelow c e old) (by omega)
    · exact absurd (inv.spawnedBelow _ e' old') (Nat.lt_irrefl _)
    · rfl
  threadSpawned := by rintro _ ⟨⟩; simp
  expiredAfter c time message state member := by
    obtain ⟨e, spawned, due⟩ := inv.expiredAfter c time message state (by simpa using member)
    exact ⟨e, List.mem_append_left _ spawned, due⟩
  threadFresh := by
    rintro _ ⟨⟩ - event member
    rcases List.mem_append.mp member with old | new
    · cases expired : event.expires calls
      · rfl
      · exact absurd (inv.expired_below old expired) (Nat.lt_irrefl _)
    · cases List.mem_singleton.mp new
      rfl
  atMostOnce c := by simpa [List.countP_append] using inv.atMostOnce c
  afterStop before after split c e spawnedBefore := by
    rcases stopReturned_split split with ⟨middle, old, rfl⟩ | ⟨-, stop, -⟩
    · refine ⟨unexpired_concat (inv.afterStop before middle old c e spawnedBefore).1 rfl, ?_⟩
      rintro _ ⟨⟩ -
      exact Nat.ne_of_gt (inv.spawnedBelow c e (by rw [old]; exact List.mem_append_left _ spawnedBefore))
    · cases stop

/-- At its expiry, the running thread finds the flag set and calls `sessionExpired`. -/
theorem Inv.sessionExpired {current : ExpirationThread} (inv : Inv calls (some current) log)
    (running : current.running) {time : Nat} (due : current.expiry ≤ time) (state : SessionState) :
    Inv calls (some { current with running := false })
      (log ++ [.sessionExpired current.call time current.message state]) where
  spawnedBelow c e member := inv.spawnedBelow c e (by simpa using member)
  spawnedOnce c e e' member member' :=
    inv.spawnedOnce c e e' (by simpa using member) (by simpa using member')
  threadSpawned := by rintro _ ⟨⟩; exact List.mem_append_left _ (inv.threadSpawned current rfl)
  expiredAfter c time' message state' member := by
    rcases List.mem_append.mp member with old | new
    · obtain ⟨e, spawned, atOrAfter⟩ := inv.expiredAfter c time' message state' old
      exact ⟨e, List.mem_append_left _ spawned, atOrAfter⟩
    · cases List.mem_singleton.mp new
      exact ⟨current.expiry, List.mem_append_left _ (inv.threadSpawned current rfl), due⟩
  threadFresh := by rintro _ ⟨⟩ ⟨⟩
  atMostOnce c := by
    by_cases same : current.call = c
    · subst same
      have unexpired : log.countP (·.expires current.call) = 0 := List.countP_eq_zero.mpr
        fun event member => by simp [inv.threadFresh current rfl running event member]
      rw [List.countP_append, unexpired]
      simp
    · simpa [List.countP_append, same] using inv.atMostOnce c
  afterStop before after split c e spawnedBefore := by
    refine ⟨?_, by rintro _ ⟨⟩ ⟨⟩⟩
    rcases stopReturned_split split with ⟨middle, old, rfl⟩ | ⟨-, stop, -⟩
    · have stopped := inv.afterStop before middle old c e spawnedBefore
      exact unexpired_concat stopped.1 (by simp [stopped.2 current rfl running])
    · cases stop

end Inv

theorem Inv.step {s next : ExpiringSession} {action : ExpirationAction}
    (inv : Inv s.calls s.thread s.log) (stepped : s.step action = some next) :
    Inv next.calls next.thread next.log := by
  rcases step_cases stepped with ⟨log, calls, same | ⟨current, found, ended⟩⟩ |
    ⟨log, calls, gone⟩ | ⟨expiry, message, log, calls, spawned⟩ |
    ⟨current, found, running, due, calls, ended, log⟩
  · rw [log, calls, same]; exact inv
  · rw [log, calls, ended]; exact inv.threadEnded found
  · rw [log, calls, gone]; exact inv.stopReturned
  · rw [log, calls, spawned, show s.log ++ [.stopReturned, .spawned s.calls expiry] =
      s.log ++ [.stopReturned] ++ [.spawned s.calls expiry] by simp]
    exact inv.stopReturned.spawn expiry message
  · rw [found] at inv
    rw [log, calls, ended]
    exact inv.sessionExpired running due _

theorem Inv.run {s next : ExpiringSession} {actions : List ExpirationAction}
    (inv : Inv s.calls s.thread s.log) (ran : s.run actions = some next) :
    Inv next.calls next.thread next.log := by
  induction actions generalizing s with
  | nil => cases ran; exact inv
  | cons action rest ih =>
    obtain ⟨middle, stepped, ranRest⟩ := Option.bind_eq_some.mp ran
    exact ih (inv.step stepped) ranRest

/-- Over every run from a session with no expiration set, each `setExpirationTime` call's thread
calls `sessionExpired` at most once, only at or after that call's expiry, and never after a stop
(`stopExpiration`, or the one that begins the next `setExpirationTime`) has returned. -/
theorem expiration_discipline {session : Session} {clock : Nat} {actions : List ExpirationAction}
    {s : ExpiringSession} (ran : (init session clock).run actions = some s) :
    (∀ c, s.log.countP (·.expires c) ≤ 1) ∧
    (∀ c time message state, .sessionExpired c time message state ∈ s.log →
      (∃ e, .spawned c e ∈ s.log) ∧ ∀ e, .spawned c e ∈ s.log → e ≤ time) ∧
    (∀ before after, s.log = before ++ .stopReturned :: after → ∀ c e, .spawned c e ∈ before →
      ∀ event ∈ after, event.expires c = false) := by
  have inv := Inv.init.run ran
  refine ⟨inv.atMostOnce, fun c time message state member => ?_,
    fun before after split c e spawned => (inv.afterStop before after split c e spawned).1⟩
  obtain ⟨e, spawned, due⟩ := inv.expiredAfter c time message state member
  exact ⟨⟨e, spawned⟩, fun e' spawned' => inv.spawnedOnce c e e' spawned spawned' ▸ due⟩

end ExpiringSession

/-- On the entry node, `createSession` sets the expiry; the session is then deleted, and
`deleteProc` runs to its end before the client has connected. -/
def deleteBeforeExpiry : List ExpirationAction :=
  [.setExpirationTime 30 "Client failed to connect", .joined, .session .asyncDelete,
    .session (.finish .deleteProc), .tick 30, .timeout]

/-- The session is defunct, yet at the expiry its thread calls `sessionExpired`: `deleteProc` never
calls `stopExpiration`, and the defunct session stays in `mSessions`, so its destructor's does not
run either. -/
theorem expires_after_delete :
    ∃ s, (ExpiringSession.init (Session.create 1 1) 0).run deleteBeforeExpiry = some s ∧
      s.log = [.stopReturned, .spawned 0 30,
        .sessionExpired 0 30 "Client failed to connect" .defunct] :=
  ⟨_, rfl, rfl⟩

/-- The expiry is set, then reset before it is due: the first thread sees the flag cleared and
ends, and the second one expires the session. -/
def resetBeforeExpiry : List ExpirationAction :=
  [.setExpirationTime 30 "Client failed to connect", .joined, .tick 10, .setExpirationTime 60 "Idle",
    .wake, .joined, .tick 60, .timeout]

theorem expiration_discipline_reset :
    ∃ s, (ExpiringSession.init (Session.create 1 1) 0).run resetBeforeExpiry = some s ∧
      (∀ c, s.log.countP (·.expires c) ≤ 1) ∧
      (∀ c time message state, .sessionExpired c time message state ∈ s.log →
        (∃ e, .spawned c e ∈ s.log) ∧ ∀ e, .spawned c e ∈ s.log → e ≤ time) ∧
      (∀ before after, s.log = before ++ .stopReturned :: after → ∀ c e, .spawned c e ∈ before →
        ∀ event ∈ after, event.expires c = false) :=
  ⟨_, rfl, @ExpiringSession.expiration_discipline (Session.create 1 1) 0 resetBeforeExpiry _ rfl⟩

/-- The second thread's `sessionExpired` is the only one. -/
example : ((ExpiringSession.init (Session.create 1 1) 0).run resetBeforeExpiry).map (·.log) =
    some [.stopReturned, .spawned 0 30, .stopReturned, .spawned 1 60,
      .sessionExpired 1 70 "Idle" (Session.create 1 1).state] := by
  decide

end Arras4.Node
