import ArrasNode.Router.UuidMap
import ArrasNode.Session.State

/-! `getConfigDelta` and `applyNewConfig` (Session.cc) over `mComputations`, with the state of
each computation's process. Whether a terminated process exits within the timeout, and whether a
new one spawns, are parameters. -/
namespace Arras4.Node

inductive ProcessState
  | spawned
  | terminating
  | exited
deriving DecidableEq, Repr

abbrev Computations := UuidMap ProcessState

/-- `Session::getConfigDelta`: the computations to shut down (known, not in the config) and the
computations to start (in the config, not known), from the config's id-to-name map. -/
def getConfigDelta (computations : Computations) (configComps : UuidMap String) :
    List Uuid × List (Uuid × String) :=
  (computations.keys.filter fun c => (configComps.find c).isNone,
    configComps.filter fun entry => (computations.find entry.1).isNone)

/-- The wait loop of `applyNewConfig`: the first computation that does not exit within the
timeout throws. -/
def waitUntilShutdown (exits : Uuid → Bool) (computations : Computations) :
    List Uuid → Computations × Option SessionError
  | [] => (computations, none)
  | c :: rest =>
    if exits c then waitUntilShutdown exits (computations.insert c .exited) rest
    else (computations, some { detail := "Computations did not shutdown within timeout." })

/-- The start loop of `applyNewConfig`: each computation whose process spawns joins
`mComputations`; the first that does not throws. -/
def startNewComputations (spawns : Uuid → Bool) (computations : Computations) :
    List (Uuid × String) → Computations × List Uuid × Option SessionError
  | [] => (computations, [], none)
  | (c, name) :: rest =>
    if spawns c then
      let (next, started, error) := startNewComputations spawns (computations.insert c .spawned) rest
      (next, c :: started, error)
    else (computations, [], some { detail := "Cannot start computation " ++ name })

/-- What one `applyNewConfig` did: the new `mComputations`, the computations it shut down and
those it started, in order, and the error it threw, if any. -/
structure ConfigApplied where
  computations : Computations
  terminated : List Uuid
  started : List Uuid
  error : Option SessionError

/-- `Session::applyNewConfig`: shut down the computations the config drops, wait for them, then
start the ones it adds. -/
def applyNewConfig (exits spawns : Uuid → Bool) (computations : Computations)
    (configComps : UuidMap String) : ConfigApplied :=
  let (defunctComps, newComps) := getConfigDelta computations configComps
  let terminating := defunctComps.foldl (fun m c => m.insert c .terminating) computations
  match waitUntilShutdown exits terminating defunctComps with
  | (waited, some error) => ⟨waited, defunctComps, [], some error⟩
  | (waited, none) =>
    let (next, started, error) := startNewComputations spawns waited newComps
    ⟨next, defunctComps, started, error⟩

section Lemmas

theorem find_foldl_insert {α : Type} (value : α) (keys : List Uuid) (m : UuidMap α) (c : Uuid) :
    (keys.foldl (fun m k => m.insert k value) m).find c = if c ∈ keys then some value else m.find c := by
  induction keys generalizing m with
  | nil => simp
  | cons k rest ih =>
    rw [List.foldl_cons, ih]
    by_cases same : c = k <;> by_cases later : c ∈ rest <;> simp [same, later]

theorem waitUntilShutdown_of_exits (computations : Computations) (defunctComps : List Uuid) :
    waitUntilShutdown (fun _ => true) computations defunctComps =
      (defunctComps.foldl (fun m c => m.insert c .exited) computations, none) := by
  induction defunctComps generalizing computations with
  | nil => rfl
  | cons c rest ih => simp [waitUntilShutdown, ih]

theorem startNewComputations_of_spawns (computations : Computations)
    (newComps : List (Uuid × String)) :
    startNewComputations (fun _ => true) computations newComps =
      ((newComps.map Prod.fst).foldl (fun m c => m.insert c .spawned) computations,
        newComps.map Prod.fst, none) := by
  induction newComps generalizing computations with
  | nil => rfl
  | cons entry rest ih => simp [startNewComputations, ih]

/-- One operation when every process exits and spawns as asked: a known computation the config
keeps is untouched, one it drops is exited, a new one is spawned. A known computation is never
started again, whatever its process's state. -/
theorem applyNewConfig_find (computations : Computations) (configComps : UuidMap String) (c : Uuid) :
    (applyNewConfig (fun _ => true) (fun _ => true) computations configComps).error = none ∧
    (applyNewConfig (fun _ => true) (fun _ => true) computations configComps).computations.find c =
      match computations.find c with
      | some state => if (configComps.find c).isSome then some state else some .exited
      | none => if (configComps.find c).isSome then some .spawned else none := by
  simp only [applyNewConfig, getConfigDelta, waitUntilShutdown_of_exits, startNewComputations_of_spawns,
    find_foldl_insert]
  refine ⟨trivial, ?_⟩
  cases known : computations.find c <;> cases kept : configComps.find c <;>
    simp [known, kept, UuidMap.mem_keys]
  all_goals first
    | exact ⟨_, UuidMap.mem_of_find kept⟩
    | exact fun _ member => by simpa [kept] using UuidMap.mem_keys.mp (List.mem_map_of_mem Prod.fst member)

end Lemmas

/-- Create with computation 1, drop it, add it back: the third operation starts nothing and the
computation's process stays exited. -/
theorem applyNewConfig_readded_not_started :
    ∃ first second third : ConfigApplied,
      first = applyNewConfig (fun _ => true) (fun _ => true) [] [(1, "a")] ∧
      second = applyNewConfig (fun _ => true) (fun _ => true) first.computations [] ∧
      third = applyNewConfig (fun _ => true) (fun _ => true) second.computations [(1, "a")] ∧
      third.error = none ∧ third.started = [] ∧ third.computations.find 1 = some .exited :=
  ⟨_, _, _, rfl, rfl, rfl, (applyNewConfig_find _ _ 1).1, by decide,
    by rw [(applyNewConfig_find _ _ 1).2]; decide⟩

end Arras4.Node
