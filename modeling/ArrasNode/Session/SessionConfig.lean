import ArrasNode.Json.Value
import ArrasNode.Router.UuidMap

/-! `SessionConfig` (SessionConfig.cc): the constructor reads the description Coordinator sends
with a session create or modify request, and throws on a missing or malformed piece. The text forms
of `api::UUID` belong to message_api, outside this repository: `uuidOf` reads one and `uuidText`
writes one. -/
namespace Arras4.Node

/-- What the constructor throws: a `std::runtime_error` with its text, or jsoncpp's `LogicError`
(an `operator[]` on a value that is neither null nor an object, or `asInt` out of range). -/
inductive ConfigError
  | runtime (what : String)
  | logic
deriving DecidableEq, Repr

/-- The members of `SessionConfig`; `contexts` is set when the description's is an object, and a
`logLevel` of -1 means not set. -/
structure SessionConfig where
  sessionId : Uuid
  nodeId : Uuid
  definitions : Value
  contexts : Option Value
  logLevel : Int
  routing : Value
  response : Value
  thisIsEntryNode : Bool
  computations : UuidMap String

namespace SessionConfig

variable (uuidOf : String → Uuid) (uuidText : Uuid → String)

def member (v : Value) (key : String) : Except ConfigError Value :=
  match v.index? key with
  | some m => .ok m
  | none => .error .logic

def setResponse (compName field text : String) (response : Value) : Option Value :=
  response.modifyMember compName fun entry => entry.modifyMember field fun _ => some (.string text)

/-- The three assignments to `mResponse[compName]` for a computation on this node. -/
def recordComputation (compName : String) (compId nodeId : Uuid) (response : Value) :
    Option Value :=
  (setResponse compName "hostId" (uuidText compId) response).bind
    (setResponse compName "compId" (uuidText compId)) |>.bind
    (setResponse compName "nodeId" (uuidText nodeId))

/-- One member of `routing.<sessionId>.computations` in the constructor's loop. -/
def addComputation (nodeId : Uuid) (acc : UuidMap String × Value) (entry : String × Value) :
    Except ConfigError (UuidMap String × Value) :=
  match entry.2, entry.2.get "nodeId", entry.2.get "compId" with
  | .object _, .string nodeText, .string compText =>
    if nodeId = uuidOf nodeText then
      if uuidOf compText = Uuid.null then
        .error (.runtime "Session definition has invalid entry in computation list")
      else
        match recordComputation uuidText entry.1 (uuidOf compText) nodeId acc.2 with
        | some response => .ok (acc.1.insert (uuidOf compText) entry.1, response)
        | none => .error .logic
    else .ok acc
  | _, _, _ => .error (.runtime "Session definition has invalid computation list")

def collect (nodeId : Uuid) (comps : List (String × Value)) :
    Except ConfigError (UuidMap String × Value) :=
  comps.foldlM (addComputation uuidOf uuidText nodeId) ([], .null)

/-- `<nodeId>.config`: this node's computation definitions, the session id, the contexts and
the session log level. -/
def readNodeConfig (desc : Value) (nodeId : Uuid) :
    Except ConfigError (Value × Uuid × Option Value × Int) := do
  let nodeConfig ← member (← member desc (uuidText nodeId)) "config"
  let definitions ← member nodeConfig "computations"
  if !definitions.isObject then
    throw (.runtime "Session definition has no config object for this node")
  let sessionId ← match nodeConfig.get "sessionId" with
    | .string text => pure (uuidOf text)
    | _ => throw (.runtime "Session definition has no session id")
  let contexts := if (nodeConfig.get "contexts").isObject then some (nodeConfig.get "contexts") else none
  let logLevel ← if (nodeConfig.get "logLevel").isIntegral then
      match (nodeConfig.get "logLevel").asInt with
      | some level => pure level
      | none => throw .logic
    else pure (-1)
  pure (definitions, sessionId, contexts, logLevel)

def readRouting (desc : Value) : Except ConfigError Value := do
  let routing ← member desc "routing"
  if routing.isObject then pure routing else throw (.runtime "Session definition has no routing object")

/-- `routing[sessionId]["computations"]`, which must be an object: its members in key order. -/
def computationList (routing : Value) (sessionId : Uuid) :
    Except ConfigError (List (String × Value)) := do
  match ← member (← member routing (uuidText sessionId)) "computations" with
  | .object members => pure members
  | _ => throw (.runtime "Session definition has no computation list")

/-- `routing[sessionId]["nodes"][nodeId]["entry"]`, when it is a bool. -/
def readEntryNode (routing : Value) (sessionId nodeId : Uuid) : Except ConfigError Bool := do
  let thisNode ← member (← member (← member routing (uuidText sessionId)) "nodes") (uuidText nodeId)
  match ← member thisNode "entry" with
  | .bool value => pure value
  | _ => pure false

def create (desc : Value) (nodeId : Uuid) : Except ConfigError SessionConfig := do
  let (definitions, sessionId, contexts, logLevel) ← readNodeConfig uuidOf uuidText desc nodeId
  let routing ← readRouting desc
  let members ← computationList uuidText routing sessionId
  let (computations, response) ← collect uuidOf uuidText nodeId members
  let thisIsEntryNode ← readEntryNode uuidText routing sessionId nodeId
  pure ⟨sessionId, nodeId, definitions, contexts, logLevel, routing, response, thisIsEntryNode,
    computations⟩

/-! ### What the loop reads -/

/-- A member of the computation list that the loop accepts: an object with string `nodeId` and
`compId`. -/
def WellFormed (entry : String × Value) : Prop :=
  entry.2.isObject ∧ (entry.2.get "nodeId").isString ∧ (entry.2.get "compId").isString

def placedEntry (nodeId : Uuid) (entry : String × Value) : Option (Uuid × String) :=
  match entry.2.get "nodeId", entry.2.get "compId" with
  | .string nodeText, .string compText =>
    if nodeId = uuidOf nodeText then some (uuidOf compText, entry.1) else none
  | _, _ => none

/-- The computations of a list placed on node `nodeId`, with their ids, in list order. -/
def placed (nodeId : Uuid) (comps : List (String × Value)) : List (Uuid × String) :=
  comps.filterMap (placedEntry uuidOf nodeId)

def responseEntry (nodeId c : Uuid) : Value :=
  .object [("compId", .string (uuidText c)), ("hostId", .string (uuidText c)),
    ("nodeId", .string (uuidText nodeId))]

/-- What the loop keeps of `mResponse`: null, or an object each of whose members is a
computation's record. -/
def Recorded (nodeId : Uuid) (response : Value) : Prop :=
  (response = .null ∨ response.isObject) ∧
    ∀ name, response.get name = .null ∨ ∃ c, response.get name = responseEntry uuidText nodeId c

/-! ### The response -/

variable {uuidOf uuidText}

theorem setResponse_spec {response entry : Value} {compName field text : String}
    (kind : response = .null ∨ response.isObject)
    (set : (response.get compName).modifyMember field (fun _ => some (.string text)) = some entry) :
    ∃ next, setResponse compName field text response = some next ∧ next.isObject ∧
      ∀ k, next.get k = if k = compName then entry else response.get k := by
  rcases kind with rfl | object
  · have entryIs : Value.object [(field, .string text)] = entry := by
      simpa using set
    subst entryIs
    refine ⟨_, rfl, rfl, fun k => ?_⟩
    by_cases same : k = compName <;> simp [Members.find, same]
  · obtain ⟨members, rfl⟩ : ∃ members, response = .object members := by
      cases response <;> simp_all [Value.isObject]
    have step : setResponse compName field text (.object members) =
        some (.object (Members.insert members compName entry)) := by
      simp only [setResponse, Value.modifyMember_object, ← Value.get_object, set, Option.map_some']
    refine ⟨_, step, rfl, fun k => ?_⟩
    by_cases same : k = compName <;> simp [same]

/-- The three assignments turn a missing record, or an earlier one, into computation `c`'s. -/
theorem recordFields {nodeId c : Uuid} {entry : Value}
    (earlier : entry = .null ∨ ∃ c', entry = responseEntry uuidText nodeId c') :
    ∃ first second, entry.modifyMember "hostId" (fun _ => some (.string (uuidText c))) = some first ∧
      first.modifyMember "compId" (fun _ => some (.string (uuidText c))) = some second ∧
      second.modifyMember "nodeId" (fun _ => some (.string (uuidText nodeId))) =
        some (responseEntry uuidText nodeId c) := by
  rcases earlier with rfl | ⟨c', rfl⟩ <;> exact ⟨_, _, rfl, rfl, rfl⟩

theorem recordComputation_spec {nodeId c : Uuid} {compName : String} {response : Value}
    (recorded : Recorded uuidText nodeId response) :
    ∃ next, recordComputation uuidText compName c nodeId response = some next ∧
      Recorded uuidText nodeId next ∧
      ∀ k, next.get k = if k = compName then responseEntry uuidText nodeId c else response.get k := by
  obtain ⟨first, second, setHost, setComp, setNode⟩ := @recordFields uuidText nodeId c _ (recorded.2 compName)
  obtain ⟨r₁, step₁, object₁, get₁⟩ := setResponse_spec recorded.1 setHost
  obtain ⟨r₂, step₂, object₂, get₂⟩ := setResponse_spec (.inr object₁) (by rwa [get₁, if_pos rfl])
  obtain ⟨r₃, step₃, object₃, get₃⟩ := setResponse_spec (.inr object₂) (by rwa [get₂, if_pos rfl])
  have getAll : ∀ k, r₃.get k = if k = compName then responseEntry uuidText nodeId c
      else response.get k := fun k => by
    rw [get₃, get₂, get₁]; split <;> rfl
  refine ⟨r₃, by simp [recordComputation, step₁, step₂, step₃], ⟨.inr object₃, fun k => ?_⟩, getAll⟩
  rw [getAll]
  split
  · exact .inr ⟨c, rfl⟩
  · exact recorded.2 k

/-! ### The loop -/

/-- What one accepted member does: a well-formed member placed on this node, with a non-null id,
is assigned in `mComputations` and recorded in the response; any other well-formed member changes
nothing. -/
theorem addComputation_ok {nodeId : Uuid} {acc next : UuidMap String × Value}
    {entry : String × Value} (step : addComputation uuidOf uuidText nodeId acc entry = .ok next) :
    WellFormed entry ∧
      match placedEntry uuidOf nodeId entry with
      | some (c, name) => c ≠ Uuid.null ∧ next.1 = acc.1.insert c name ∧
          recordComputation uuidText name c nodeId acc.2 = some next.2
      | none => next = acc := by
  unfold addComputation at step
  split at step
  · rename_i members nodeText compText objectIs nodeIs compIs
    refine ⟨⟨by simp [objectIs, Value.isObject], by simp [nodeIs, Value.isString],
      by simp [compIs, Value.isString]⟩, ?_⟩
    simp only [placedEntry, nodeIs, compIs]
    split_ifs at step with here null
    · split at step
      · rename_i response recorded
        cases step
        rw [if_pos here]
        exact ⟨null, rfl, recorded⟩
      · cases step
    · cases step
      simp [here]
  · cases step

/-- A well-formed member is accepted unless it is placed on this node with the null id. -/
theorem addComputation_of_wellFormed {nodeId : Uuid} {acc : UuidMap String × Value}
    {entry : String × Value} (recorded : Recorded uuidText nodeId acc.2)
    (wellFormed : WellFormed entry)
    (nonNull : ∀ e, placedEntry uuidOf nodeId entry = some e → e.1 ≠ Uuid.null) :
    ∃ next, addComputation uuidOf uuidText nodeId acc entry = .ok next := by
  obtain ⟨name, info⟩ := entry
  obtain ⟨objectIs, nodeIs, compIs⟩ := wellFormed
  obtain ⟨members, rfl⟩ : ∃ members, info = .object members := by
    cases info <;> simp_all [Value.isObject]
  obtain ⟨nodeText, nodeText_eq⟩ : ∃ text, (Value.object members).get "nodeId" = .string text := by
    cases h : (Value.object members).get "nodeId" <;> simp_all [Value.isString]
  obtain ⟨compText, compText_eq⟩ : ∃ text, (Value.object members).get "compId" = .string text := by
    cases h : (Value.object members).get "compId" <;> simp_all [Value.isString]
  simp only [placedEntry, nodeText_eq, compText_eq] at nonNull
  unfold addComputation
  simp only [nodeText_eq, compText_eq]
  by_cases here : nodeId = uuidOf nodeText
  · obtain ⟨response, recordedNext, -⟩ :=
      @recordComputation_spec uuidText nodeId (uuidOf compText) name acc.2 recorded
    have nonNullHere := nonNull (uuidOf compText, name) (by rw [if_pos here])
    subst here
    simp [nonNullHere, recordedNext]
  · simp [here]

/-- The loop from any recorded state: it accepts only well-formed members, none placed on this
node with the null id; `mComputations` is assigned the placed members in order, and the response
records, under each placed name, the last computation placed with it. -/
theorem foldlM_addComputation {nodeId : Uuid} {comps : List (String × Value)}
    {acc result : UuidMap String × Value} (recorded : Recorded uuidText nodeId acc.2)
    (ok : comps.foldlM (addComputation uuidOf uuidText nodeId) acc = .ok result) :
    (∀ entry ∈ comps, WellFormed entry) ∧ (∀ e ∈ placed uuidOf nodeId comps, e.1 ≠ Uuid.null) ∧
      result.1 = (placed uuidOf nodeId comps).foldl (fun m e => m.insert e.1 e.2) acc.1 ∧
      Recorded uuidText nodeId result.2 ∧
      (∀ k, result.2.get k = (((placed uuidOf nodeId comps).reverse.find? (·.2 = k)).map
        fun e => responseEntry uuidText nodeId e.1).getD (acc.2.get k)) ∧
      (placed uuidOf nodeId comps = [] → result.2 = acc.2) := by
  induction comps generalizing acc with
  | nil =>
    cases ok
    exact ⟨by simp, by simp [placed], rfl, recorded, by simp [placed], fun _ => rfl⟩
  | cons entry rest ih =>
    obtain ⟨next, step, rest_ok⟩ := except_bind_eq_ok.mp (by simpa [List.foldlM_cons] using ok)
    obtain ⟨formed, effect⟩ := addComputation_ok step
    cases placedAt : placedEntry uuidOf nodeId entry with
    | none =>
      rw [placedAt] at effect
      subst effect
      obtain ⟨restFormed, restNonNull, first, restRecorded, response, unplaced⟩ := ih recorded rest_ok
      have placedCons : placed uuidOf nodeId (entry :: rest) = placed uuidOf nodeId rest := by
        simp [placed, List.filterMap_cons, placedAt]
      rw [placedCons]
      exact ⟨List.forall_mem_cons.mpr ⟨formed, restFormed⟩, restNonNull, first, restRecorded,
        response, unplaced⟩
    | some e =>
      obtain ⟨c, name⟩ := e
      rw [placedAt] at effect
      obtain ⟨nonNull, assigned, record⟩ := effect
      obtain ⟨response, recordIs, recordedNext, getNext⟩ :=
        @recordComputation_spec uuidText nodeId c name acc.2 recorded
      have same : next.2 = response := Option.some.inj (record.symm.trans recordIs)
      obtain ⟨restFormed, restNonNull, first, restRecorded, get, -⟩ :=
        ih (by rw [same]; exact recordedNext) rest_ok
      have placedCons : placed uuidOf nodeId (entry :: rest) = (c, name) :: placed uuidOf nodeId rest := by
        simp [placed, List.filterMap_cons, placedAt]
      rw [placedCons]
      refine ⟨List.forall_mem_cons.mpr ⟨formed, restFormed⟩,
        List.forall_mem_cons.mpr ⟨nonNull, restNonNull⟩, by rw [first, assigned]; rfl, restRecorded,
        fun k => ?_, nofun⟩
      rw [get k, same, getNext k, List.reverse_cons, List.find?_append]
      cases (placed uuidOf nodeId rest).reverse.find? (·.2 = k) <;> by_cases same : k = name <;>
        simp [same, eq_comm]

theorem recorded_null (nodeId : Uuid) : Recorded uuidText nodeId .null :=
  ⟨.inl rfl, fun _ => .inl rfl⟩

theorem addComputation_recorded {nodeId : Uuid} {acc next : UuidMap String × Value}
    {entry : String × Value} (recorded : Recorded uuidText nodeId acc.2)
    (step : addComputation uuidOf uuidText nodeId acc entry = .ok next) :
    Recorded uuidText nodeId next.2 := by
  obtain ⟨-, effect⟩ := addComputation_ok step
  cases placedAt : placedEntry uuidOf nodeId entry with
  | none =>
    rw [placedAt] at effect
    rw [effect]
    exact recorded
  | some e =>
    rw [placedAt] at effect
    obtain ⟨-, -, record⟩ := effect
    obtain ⟨response, recordIs, recordedNext, -⟩ :=
      @recordComputation_spec uuidText nodeId e.1 e.2 acc.2 recorded
    rwa [Option.some.inj (record.symm.trans recordIs)]

theorem foldlM_addComputation_of_wellFormed {nodeId : Uuid} {comps : List (String × Value)}
    {acc : UuidMap String × Value} (recorded : Recorded uuidText nodeId acc.2)
    (wellFormed : ∀ entry ∈ comps, WellFormed entry)
    (nonNull : ∀ e ∈ placed uuidOf nodeId comps, e.1 ≠ Uuid.null) :
    ∃ result, comps.foldlM (addComputation uuidOf uuidText nodeId) acc = .ok result := by
  induction comps generalizing acc with
  | nil => exact ⟨acc, rfl⟩
  | cons entry rest ih =>
    have entryNonNull : ∀ e, placedEntry uuidOf nodeId entry = some e → e.1 ≠ Uuid.null :=
      fun e placedAt => nonNull e (by simp [placed, List.filterMap_cons, placedAt])
    obtain ⟨next, step⟩ := addComputation_of_wellFormed recorded (wellFormed entry (by simp))
      entryNonNull
    obtain ⟨result, rest_ok⟩ := ih (addComputation_recorded recorded step)
      (fun e member => wellFormed e (List.mem_cons_of_mem _ member))
      (fun e member => nonNull e (by
        cases placedAt : placedEntry uuidOf nodeId entry <;>
          simp [placed, List.filterMap_cons, placedAt] at member ⊢ <;> simp [member]))
    exact ⟨result, by rw [List.foldlM_cons, step]; exact rest_ok⟩

/-- The loop accepts a computation list exactly when every member is well formed and no member
placed on this node has the null id. -/
theorem collect_ok_iff {nodeId : Uuid} {comps : List (String × Value)} :
    (∃ result, collect uuidOf uuidText nodeId comps = .ok result) ↔
      (∀ entry ∈ comps, WellFormed entry) ∧ ∀ e ∈ placed uuidOf nodeId comps, e.1 ≠ Uuid.null := by
  constructor
  · rintro ⟨result, ok⟩
    obtain ⟨formed, nonNull, -⟩ := foldlM_addComputation (recorded_null nodeId) ok
    exact ⟨formed, nonNull⟩
  · rintro ⟨formed, nonNull⟩
    exact foldlM_addComputation_of_wellFormed (recorded_null nodeId) formed nonNull

theorem addComputation_error {nodeId : Uuid} {acc : UuidMap String × Value}
    {entry : String × Value} {e : ConfigError} (recorded : Recorded uuidText nodeId acc.2)
    (step : addComputation uuidOf uuidText nodeId acc entry = .error e) :
    e = .runtime "Session definition has invalid computation list" ∨
      e = .runtime "Session definition has invalid entry in computation list" := by
  unfold addComputation at step
  split at step
  · split_ifs at step
    · cases step
      exact .inr rfl
    · obtain ⟨response, recordIs, -⟩ :=
        @recordComputation_spec uuidText nodeId (uuidOf ‹String›) entry.1 acc.2 recorded
      simp [recordIs] at step
  · cases step
    exact .inl rfl

/-- The loop throws only its own two texts: the assignments to `mResponse` never raise. -/
theorem collect_error {nodeId : Uuid} {comps : List (String × Value)} {e : ConfigError}
    (failed : collect uuidOf uuidText nodeId comps = .error e) :
    e = .runtime "Session definition has invalid computation list" ∨
      e = .runtime "Session definition has invalid entry in computation list" := by
  suffices loop : ∀ acc : UuidMap String × Value, Recorded uuidText nodeId acc.2 →
      comps.foldlM (addComputation uuidOf uuidText nodeId) acc = .error e →
      e = .runtime "Session definition has invalid computation list" ∨
        e = .runtime "Session definition has invalid entry in computation list" from
    loop _ (recorded_null nodeId) failed
  clear failed
  induction comps with
  | nil => intro acc _ failed; cases failed
  | cons entry rest ih =>
    intro acc recorded failed
    rw [List.foldlM_cons] at failed
    rcases except_bind_eq_error.mp failed with step | ⟨next, step, failed⟩
    · exact addComputation_error recorded step
    · exact ih next (addComputation_recorded recorded step) failed

/-- Ids written as runs of "x", read back by their length: a text form of `api::UUID` for the
sample descriptions. -/
def sampleText (n : Nat) : String := ⟨List.replicate n 'x'⟩

theorem collect_error_null_member :
    collect String.length sampleText 3 [("render", .null)] =
        .error (.runtime "Session definition has invalid computation list") ∧
      (ConfigError.runtime "Session definition has invalid computation list" =
          .runtime "Session definition has invalid computation list" ∨
        ConfigError.runtime "Session definition has invalid computation list" =
          .runtime "Session definition has invalid entry in computation list") :=
  ⟨rfl, @collect_error String.length sampleText 3 [("render", .null)] _ rfl⟩

/-! ### The constructor -/

theorem member_get {v m : Value} {key : String} (read : member v key = .ok m) : v.get key = m := by
  unfold member at read
  cases v <;> simp_all [Value.index?, Value.get]

theorem computationList_ok {routing : Value} {sessionId : Uuid} {members : List (String × Value)}
    (listed : computationList uuidText routing sessionId = .ok members) :
    (routing.get (uuidText sessionId)).get "computations" = .object members := by
  simp only [computationList, except_bind_eq_ok] at listed
  obtain ⟨session, sessionIs, comps, compsIs, listed⟩ := listed
  rw [member_get sessionIs, member_get compsIs]
  split at listed
  · cases listed; rfl
  · cases listed

theorem readRouting_ok {desc routing : Value} (read : readRouting desc = .ok routing) :
    desc.get "routing" = routing := by
  simp only [readRouting, except_bind_eq_ok] at read
  obtain ⟨found, foundIs, read⟩ := read
  split at read
  · cases read; exact member_get foundIs
  · cases read

/-- What an accepted description gives: the node id it was read for, and the loop's result over
the routing section's computation list. -/
theorem create_ok {desc : Value} {nodeId : Uuid} {config : SessionConfig}
    (accepted : create uuidOf uuidText desc nodeId = .ok config) :
    config.nodeId = nodeId ∧ ∃ members,
      ((desc.get "routing").get (uuidText config.sessionId)).get "computations" = .object members ∧
      collect uuidOf uuidText nodeId members = .ok (config.computations, config.response) := by
  simp only [create, except_bind_eq_ok] at accepted
  obtain ⟨⟨definitions, sessionId, contexts, logLevel⟩, -, routing, routingIs, members, listed,
    ⟨computations, response⟩, collected, entry, -, final⟩ := accepted
  cases final
  exact ⟨rfl, members, by rw [readRouting_ok routingIs, computationList_ok listed], collected⟩

/-- The map the loop builds: each id placed on this node names the last member placed with it. -/
theorem collect_find {nodeId : Uuid} {members : List (String × Value)} {computations : UuidMap String}
    {response : Value} (collected : collect uuidOf uuidText nodeId members = .ok (computations, response))
    (c : Uuid) :
    computations.find c = ((placed uuidOf nodeId members).reverse.find? (·.1 = c)).map Prod.snd := by
  obtain ⟨-, -, built, -⟩ := foldlM_addComputation (recorded_null nodeId) collected
  rw [show computations = _ from built, UuidMap.find_foldl_insert_pairs]
  simp

/-- `mComputations` of an accepted description: the members of `routing.<sessionId>.computations`
are all well formed, none placed on this node has the null id, and each id placed on this node
names the last member placed with it. -/
theorem create_computations {desc : Value} {nodeId : Uuid} {config : SessionConfig}
    (accepted : create uuidOf uuidText desc nodeId = .ok config) :
    ∃ members,
      ((desc.get "routing").get (uuidText config.sessionId)).get "computations" = .object members ∧
      (∀ entry ∈ members, WellFormed entry) ∧
      (∀ e ∈ placed uuidOf nodeId members, e.1 ≠ Uuid.null) ∧
      ∀ c, config.computations.find c =
        ((placed uuidOf nodeId members).reverse.find? (·.1 = c)).map Prod.snd := by
  obtain ⟨-, members, listed, collected⟩ := create_ok accepted
  obtain ⟨formed, nonNull, -⟩ := foldlM_addComputation (recorded_null nodeId) collected
  exact ⟨members, listed, formed, nonNull, collect_find collected⟩

/-- Session 7, with "render" (id 5) on node 3 and "client" (id 9) on node 4. -/
def sampleDescription : Value :=
  .object [("xxx", .object [("config", .object [("computations", .object []),
      ("sessionId", .string "xxxxxxx")])]),
    ("routing", .object [("xxxxxxx", .object [
      ("computations", .object [
        ("client", .object [("compId", .string "xxxxxxxxx"), ("nodeId", .string "xxxx")]),
        ("render", .object [("compId", .string "xxxxx"), ("nodeId", .string "xxx")])]),
      ("nodes", .object [])])])]

theorem create_computations_sample :
    ∃ config, create String.length sampleText sampleDescription 3 = .ok config ∧
      ∃ members, ((sampleDescription.get "routing").get (sampleText config.sessionId)).get
          "computations" = .object members ∧
        (∀ entry ∈ members, WellFormed entry) ∧
        (∀ e ∈ placed String.length 3 members, e.1 ≠ Uuid.null) ∧
        ∀ c, config.computations.find c =
          ((placed String.length 3 members).reverse.find? (·.1 = c)).map Prod.snd :=
  ⟨_, rfl, @create_computations String.length sampleText sampleDescription 3 _ rfl⟩

/-- The reply to an accepted description: under each name placed on this node, the ids of the last
computation placed with it; nothing under any other name, and null when no computation is on this
node. -/
theorem create_response {desc : Value} {nodeId : Uuid} {config : SessionConfig}
    (accepted : create uuidOf uuidText desc nodeId = .ok config) :
    ∃ members,
      ((desc.get "routing").get (uuidText config.sessionId)).get "computations" = .object members ∧
      (∀ name, config.response.get name =
        (((placed uuidOf nodeId members).reverse.find? (·.2 = name)).map
          fun e => responseEntry uuidText nodeId e.1).getD .null) ∧
      (placed uuidOf nodeId members = [] → config.response = .null) := by
  obtain ⟨-, members, listed, collected⟩ := create_ok accepted
  obtain ⟨-, -, -, -, response, unplaced⟩ := foldlM_addComputation (recorded_null nodeId) collected
  exact ⟨members, listed, response, unplaced⟩

theorem create_response_sample :
    ∃ config, create String.length sampleText sampleDescription 3 = .ok config ∧
      ∃ members, ((sampleDescription.get "routing").get (sampleText config.sessionId)).get
          "computations" = .object members ∧
        (∀ name, config.response.get name =
          (((placed String.length 3 members).reverse.find? (·.2 = name)).map
            fun e => responseEntry sampleText 3 e.1).getD .null) ∧
        (placed String.length 3 members = [] → config.response = .null) :=
  ⟨_, rfl, @create_response String.length sampleText sampleDescription 3 _ rfl⟩

/-- `mComputations` is built by `[]` assignments from an empty map, so its ids ascend. -/
theorem create_ordered {desc : Value} {nodeId : Uuid} {config : SessionConfig}
    (accepted : create uuidOf uuidText desc nodeId = .ok config) : config.computations.Ordered := by
  obtain ⟨-, members, -, collected⟩ := create_ok accepted
  obtain ⟨-, -, computations, -⟩ := foldlM_addComputation (recorded_null nodeId) collected
  rw [show config.computations = _ from computations]
  exact UuidMap.Ordered.foldl_insert (show UuidMap.Ordered ([] : UuidMap String) from .nil) _

end SessionConfig

end Arras4.Node
