import ArrasNode.Json.Value

/-! `ComputationConfig::setDefinition`: the spawn arguments of a computation's execComp process,
read from the definition Coordinator supplies. A member that is missing or fails its predicate
gives the node default; a conversion that jsoncpp refuses with an exception gives `none`. The
process environment and the execComp config file are left out, except the log level, whose
conversion can throw. -/
namespace Arras4.Node

/-- The members of `ComputationDefaults` that `setDefinition` reads. -/
structure ComputationDefaults where
  enforceMemory : Bool := false
  defMemoryMb : UInt32 := 2048
  enforceCores : Bool := false
  defCores : UInt32 := 0
  cleanupProcessGroup : Bool := true
  defDisableChunking : Bool := false
  defMinChunkingSize : UInt64 := 0
  defChunkSize : UInt64 := 0
  colorLogging : Bool := true

/-- `impl::SpawnArgs`, without the environment. -/
structure SpawnArgs where
  program : String := ""
  enforceMemory : Bool := false
  enforceCores : Bool := false
  assignedMb : UInt32 := 0
  assignedCores : UInt32 := 0
  workingDirectory : String := ""
  cleanupProcessGroup : Bool := false
  args : List String := []

/-- The template `getter<T>`: the conversion of a value to `T`. -/
class Getter (T : Type) where
  getter : Value → Option T

/-- The template `is<T>`: whether a value converts to `T`. -/
class Is (T : Type) where
  is : Value → Bool

instance : Getter Int := ⟨Value.asInt⟩
instance : Getter UInt32 := ⟨Value.asUInt⟩
instance : Getter Bool := ⟨Value.asBool⟩
instance : Getter UInt64 := ⟨Value.asUInt64⟩
instance : Getter String := ⟨Value.asString⟩

instance : Is Int := ⟨Value.isIntegral⟩
instance : Is UInt64 := ⟨Value.isIntegral⟩
instance : Is Bool := ⟨Value.isIntegral⟩
instance : Is String := ⟨Value.isString⟩

def isNum (obj : Value) : Bool := obj.isNumeric

/-- `isNonNeg`: `(isDouble && asDouble >= 0.0) || (isInt && asInt >= 0)`. A real is non-negative
when its mantissa is. -/
def isNonNeg (obj : Value) : Bool :=
  (obj.isDouble && match obj with
    | .int value => decide (0 ≤ value)
    | .uint _ => true
    | .real mantissa _ => decide (0 ≤ mantissa)
    | _ => false) ||
  (obj.isInt && obj.asInt.any fun value => decide (0 ≤ value))

structure ComputationConfig where
  name : String
  execConfigFilePath : String
  defaults : ComputationDefaults
  spawnArgs : SpawnArgs := {}
  /-- The log level written to the execComp config file. -/
  logLevel : Int := 0

namespace ComputationConfig

def create (compId name : String) (defaults : ComputationDefaults) : ComputationConfig :=
  ⟨name, "/tmp/exec-" ++ name ++ "-" ++ compId, defaults, {}, 0⟩

/-- `getObject`: the member, or an empty object when it is missing or no object. -/
def getObject (obj : Value) (key : String) : Value :=
  if (obj.get key).isObject then obj.get key else .object []

/-- `getP`: the member converted by `getter<T>` when it exists and `pred` accepts it, else the
default `def`. -/
def getP {T : Type} [Getter T] (obj : Value) (key : String) (def_ : T) (pred : Value → Bool) :
    Option T :=
  if obj.isMember key then
    if pred (obj.get key) then Getter.getter (obj.get key) else some def_
  else some def_

/-- `get`: `getP` with `is<T>` as the predicate. -/
def get {T : Type} [Getter T] [Is T] (obj : Value) (key : String) (def_ : T) : Option T :=
  getP obj key def_ (Is.is T)

/-- The message chunking arguments of `setDefinition`. -/
def chunkingArgs (defaults : ComputationDefaults) (resources messaging : Value) :
    Option (List String) := do
  let disableChunking ← getP messaging "disableChunking" defaults.defDisableChunking isNum
  if disableChunking then
    pure ["--disableChunking", "1"]
  else
    let minChunkingSize ← get resources "minimumChunkingSize" defaults.defMinChunkingSize
    let chunkSize : UInt32 := (← get resources "chunkSize" defaults.defChunkSize).toUInt32
    pure ["--minimumChunkingSize", toString minChunkingSize, "--chunkSize", toString chunkSize]

def setDefinition (config : ComputationConfig) (definition : Value) (sessionLogLevel : Int) :
    Option ComputationConfig := do
  let requirements := getObject definition "requirements"
  let resources := getObject requirements "resources"
  let messaging := getObject definition "messaging"
  let defaults := config.defaults
  let assignedMb ← getP resources "memoryMB" defaults.defMemoryMb isNonNeg
  let assignedCores ← getP resources "cores" defaults.defCores isNonNeg
  let workingDirectory ← get definition "workingDirectory" ""
  let chunking ← chunkingArgs defaults resources messaging
  let logLevel ← get resources "logLevel" sessionLogLevel
  pure { config with
    spawnArgs := {
      program := "execComp"
      enforceMemory := defaults.enforceMemory
      enforceCores := defaults.enforceCores
      assignedMb, assignedCores, workingDirectory
      cleanupProcessGroup := defaults.cleanupProcessGroup
      args := ["--memoryMB", toString assignedMb, "--cores", toString assignedCores] ++
        (if defaults.colorLogging then [] else ["--use_color", "0"]) ++ ["--use_affinity", "0"] ++
        chunking ++ [config.execConfigFilePath] }
    logLevel }

/-- A definition laid out as the schema comment of `setDefinition` has it: chunking given in the
messaging section. -/
def messagingChunking : Value :=
  .object [("messaging", .object [("chunkSize", .int 4096), ("disableChunking", .bool false),
    ("minimumChunkingSize", .int 1024)])]

/-- The same definition with chunk sizes under `requirements.resources` as well. -/
def resourcesChunking : Value :=
  .object [("messaging", .object [("chunkSize", .int 4096), ("disableChunking", .bool false),
    ("minimumChunkingSize", .int 1024)]),
    ("requirements", .object [("resources", .object [("chunkSize", .int 65536),
      ("minimumChunkingSize", .int 512)])])]

theorem chunk_sizes_read_from_resources :
    ((create "1b4e28ba" "render" {}).setDefinition messagingChunking 3).map (·.spawnArgs.args) =
      some ["--memoryMB", "2048", "--cores", "0", "--use_affinity", "0",
        "--minimumChunkingSize", "0", "--chunkSize", "0", "/tmp/exec-render-1b4e28ba"] ∧
    ((create "1b4e28ba" "render" {}).setDefinition resourcesChunking 3).map (·.spawnArgs.args) =
      some ["--memoryMB", "2048", "--cores", "0", "--use_affinity", "0",
        "--minimumChunkingSize", "512", "--chunkSize", "65536", "/tmp/exec-render-1b4e28ba"] :=
  ⟨rfl, rfl⟩

end ComputationConfig

end Arras4.Node
