import ArrasNode.Router.RoutingData

/-! Whole runs of the routing table: the four calls of `RoutingTable` and the moment the last
owner of a record outside the table lets it go. Lookups reach a record through the weak map
only, and `addSessionRoutingData` inserts into both maps without overwriting. So once
`releaseSessionRoutingData` has let a record expire, its weak entry hides every later record
added for the same session. Without release the two maps stay equal, and a lookup finds what
was added until the session is deleted. -/
namespace Arras4.Node
namespace RoutingTable

/-- The calls a `RoutingTable` serves (`lookup` is `sessionRoutingData`), and `expire`: the last
`SessionRoutingData::Ptr` held outside the table is dropped. -/
inductive Action where
  | add (sessionId : Uuid) (data : SessionRoutingData)
  | release (sessionId : Uuid)
  | delete (sessionId : Uuid)
  | lookup (sessionId : Uuid)
  | expire (record : Nat)

/-- A record expires once no `shared_ptr` owns it, so never while the strong map holds it. -/
def expire (table : RoutingTable) (record : Nat) : Option RoutingTable :=
  if record ∈ table.strong.map Prod.snd then none
  else some { table with
    records := table.records.modify (fun r => { r with expired := true }) record }

def step (table : RoutingTable) : Action → Option RoutingTable
  | .add sessionId data => some (table.addSessionRoutingData sessionId data)
  | .release sessionId => some (table.releaseSessionRoutingData sessionId)
  | .delete sessionId => some (table.deleteSessionRoutingData sessionId)
  | .lookup _ => some table
  | .expire record => table.expire record

def run (table : RoutingTable) : List Action → Option RoutingTable
  | [] => some table
  | action :: rest => (table.step action).bind (run · rest)

def Action.isRelease : Action → Bool
  | .release _ => true
  | _ => false

def Action.isDeleteOf (sessionId : Uuid) : Action → Bool
  | .delete s => decide (s = sessionId)
  | _ => false

/-- The law the table is meant to keep: every session of the strong map maps, in the weak map,
to the same live record. -/
def Consistent (table : RoutingTable) : Prop :=
  ∀ sessionId record, table.strong.find sessionId = some record →
    table.weak.find sessionId = some record ∧ table.lock record ≠ none

/-! ### Records -/

/-- The data a record holds, whether it expired or not. -/
def dataOf (table : RoutingTable) (record : Nat) : Option SessionRoutingData :=
  table.records[record]?.map RoutingRecord.data

theorem lock_lt {table : RoutingTable} {record : Nat} (live : table.lock record ≠ none) :
    record < table.records.length := by
  by_contra outside
  apply live
  simp [lock, List.getElem?_eq_none (Nat.le_of_not_lt outside)]

theorem lock_eq_dataOf {table : RoutingTable} {record : Nat} (live : table.lock record ≠ none) :
    table.lock record = table.dataOf record := by
  unfold lock dataOf at *
  cases found : table.records[record]? with
  | none => rfl
  | some r => cases expired : r.expired <;> simp_all

theorem lock_add_of_lt (table : RoutingTable) (sessionId : Uuid) (data : SessionRoutingData)
    {record : Nat} (old : record < table.records.length) :
    (table.addSessionRoutingData sessionId data).lock record = table.lock record := by
  simp [lock, addSessionRoutingData, List.getElem?_append_left old]

theorem lock_add_new (table : RoutingTable) (sessionId : Uuid) (data : SessionRoutingData) :
    (table.addSessionRoutingData sessionId data).lock table.records.length = some data := by
  simp [lock, addSessionRoutingData]

theorem expire_cases {table next : RoutingTable} {record : Nat}
    (stepped : table.expire record = some next) :
    record ∉ table.strong.map Prod.snd ∧
      next = { table with
        records := table.records.modify (fun r => { r with expired := true }) record } := by
  unfold expire at stepped
  split_ifs at stepped with held
  exact ⟨held, (Option.some.inj stepped).symm⟩

theorem lock_expire_of_ne {table next : RoutingTable} {expired record : Nat}
    (stepped : table.expire expired = some next) (other : expired ≠ record) :
    next.lock record = table.lock record := by
  obtain ⟨-, rfl⟩ := expire_cases stepped
  simp [lock, List.getElem?_modify_ne _ _ other]

theorem dataOf_step {table next : RoutingTable} {action : Action} {record : Nat}
    (stepped : table.step action = some next) (old : record < table.records.length) :
    next.dataOf record = table.dataOf record ∧ table.records.length ≤ next.records.length := by
  cases action with
  | add sessionId data =>
    cases stepped
    simp [dataOf, addSessionRoutingData, List.getElem?_append_left old]
  | expire expired =>
    obtain ⟨-, rfl⟩ := expire_cases stepped
    simp only [dataOf, List.getElem?_modify, List.length_modify, le_refl, and_true]
    cases table.records[record]? <;> split_ifs <;> rfl
  | _ => cases stepped; exact ⟨rfl, le_refl _⟩

/-! ### Release lets a dead weak entry hide a new record -/

/-- An add for a session whose weak entry points at an expired record keeps that entry, so the
lookup stays null. -/
theorem sessionRoutingData_add_of_expired {table : RoutingTable} {sessionId : Uuid}
    {record : Nat} (stale : table.weak.find sessionId = some record)
    (old : record < table.records.length) (expired : table.lock record = none)
    (data : SessionRoutingData) :
    (table.addSessionRoutingData sessionId data).sessionRoutingData sessionId = none := by
  have kept : (table.addSessionRoutingData sessionId data).weak.find sessionId = some record := by
    simp [addSessionRoutingData, UuidMap.find_insertNew, stale]
  simp [sessionRoutingData, kept, lock_add_of_lt table sessionId data old, expired]

/-- Add, release, and the record's last outside owner letting go: the session's lookup is null,
yet a new add stays out of reach, and the strong map's record is not the weak map's. -/
theorem release_hides_later_routing_data (first second : SessionRoutingData) :
    ∃ released, run empty [.add 1 first, .release 1, .expire 0] = some released ∧
      released.sessionRoutingData 1 = none ∧
      (released.addSessionRoutingData 1 second).sessionRoutingData 1 = none ∧
      ¬ (released.addSessionRoutingData 1 second).Consistent := by
  refine ⟨_, rfl, rfl, ?hidden, fun consistent => ?_⟩
  case hidden =>
    refine @sessionRoutingData_add_of_expired _ _ 0 ?_ ?_ ?_ second
    exacts [rfl, Nat.zero_lt_one, rfl]
  have weakRecord := (consistent 1 1 rfl).1
  cases weakRecord

/-! ### Without release the law holds -/

/-- The invariant of release-free runs: the weak map is a copy of the strong one, whose records
all live. -/
structure Agrees (table : RoutingTable) : Prop where
  same : table.weak = table.strong
  live : ∀ sessionId record, table.strong.find sessionId = some record → table.lock record ≠ none

theorem Agrees.consistent {table : RoutingTable} (agrees : table.Agrees) : table.Consistent :=
  fun sessionId record found => ⟨agrees.same ▸ found, agrees.live sessionId record found⟩

theorem agrees_empty : empty.Agrees := ⟨rfl, fun _ _ found => by cases found⟩

theorem Agrees.add {table : RoutingTable} (agrees : table.Agrees) (sessionId : Uuid)
    (data : SessionRoutingData) : (table.addSessionRoutingData sessionId data).Agrees := by
  refine ⟨by simp [addSessionRoutingData, agrees.same], fun s record found => ?_⟩
  simp only [addSessionRoutingData, UuidMap.find_insertNew] at found
  split_ifs at found with same
  · cases old : table.strong.find sessionId with
    | none =>
      simp only [old, Option.getD_none, Option.some.injEq] at found
      subst found
      simp [lock_add_new]
    | some previous =>
      simp only [old, Option.getD_some, Option.some.injEq] at found
      subst found
      have live := agrees.live sessionId previous old
      rwa [lock_add_of_lt table sessionId data (lock_lt live)]
  · have live := agrees.live s record found
    rwa [lock_add_of_lt table sessionId data (lock_lt live)]

theorem Agrees.step {table next : RoutingTable} {action : Action} (agrees : table.Agrees)
    (notRelease : action.isRelease = false) (stepped : table.step action = some next) :
    next.Agrees := by
  cases action with
  | add sessionId data => cases stepped; exact agrees.add sessionId data
  | release => cases notRelease
  | delete sessionId =>
    cases stepped
    refine ⟨by simp [deleteSessionRoutingData, agrees.same], fun s record found => ?_⟩
    simp only [deleteSessionRoutingData, UuidMap.find_erase] at found
    split_ifs at found
    exact agrees.live s record found
  | lookup => cases stepped; exact agrees
  | expire expired =>
    obtain ⟨held, rfl⟩ := expire_cases stepped
    refine ⟨agrees.same, fun s record found => ?_⟩
    have other : expired ≠ record := fun same =>
      held (same ▸ List.mem_map.mpr ⟨(s, record), UuidMap.mem_of_find found, rfl⟩)
    rw [lock_expire_of_ne stepped other]
    exact agrees.live s record found

theorem Agrees.run {table next : RoutingTable} {actions : List Action} (agrees : table.Agrees)
    (noRelease : ∀ action ∈ actions, action.isRelease = false)
    (ran : table.run actions = some next) : next.Agrees := by
  induction actions generalizing table with
  | nil => cases ran; exact agrees
  | cons action rest ih =>
    obtain ⟨middle, stepped, ranRest⟩ := Option.bind_eq_some.mp ran
    exact ih (agrees.step (noRelease action (.head _)) stepped)
      (fun a member => noRelease a (.tail _ member)) ranRest

/-- The strong entry of a session survives every step but its deletion or release. -/
theorem find_strong_step {table next : RoutingTable} {action : Action} {sessionId : Uuid}
    {record : Nat} (held : table.strong.find sessionId = some record)
    (notRelease : action.isRelease = false) (notDelete : action.isDeleteOf sessionId = false)
    (stepped : table.step action = some next) : next.strong.find sessionId = some record := by
  cases action with
  | add s data =>
    cases stepped
    simp only [addSessionRoutingData, UuidMap.find_insertNew]
    split_ifs with same
    · subst same; simp [held]
    · exact held
  | release => cases notRelease
  | delete s =>
    cases stepped
    have other : sessionId ≠ s := fun same => by simp [Action.isDeleteOf, same] at notDelete
    simp [deleteSessionRoutingData, UuidMap.find_erase, other, held]
  | lookup => cases stepped; exact held
  | expire =>
    obtain ⟨-, rfl⟩ := expire_cases stepped
    exact held

/-- After an add made while the lookup was null, every lookup of a release-free run that does not
delete the session returns the added data, and the table keeps its law. -/
theorem sessionRoutingData_run_of_add {table later : RoutingTable} {sessionId : Uuid}
    {data : SessionRoutingData} {actions : List Action} (agrees : table.Agrees)
    (absent : table.sessionRoutingData sessionId = none)
    (noRelease : ∀ action ∈ actions, action.isRelease = false)
    (notDeleted : ∀ action ∈ actions, action.isDeleteOf sessionId = false)
    (ran : (table.addSessionRoutingData sessionId data).run actions = some later) :
    later.sessionRoutingData sessionId = some data ∧ later.Consistent := by
  have unowned : table.strong.find sessionId = none := by
    cases found : table.strong.find sessionId with
    | none => rfl
    | some record =>
      have live := agrees.live sessionId record found
      simp [sessionRoutingData, agrees.same, found] at absent
      exact (live absent).elim
  let added := table.addSessionRoutingData sessionId data
  have held : added.strong.find sessionId = some table.records.length := by
    simp [added, addSessionRoutingData, UuidMap.find_insertNew, unowned]
  have stored : added.dataOf table.records.length = some data := by
    simp [added, dataOf, addSessionRoutingData]
  -- along the run the strong entry and its data stay, and the weak map copies the strong one
  suffices kept : ∀ (current : RoutingTable) (rest : List Action),
      current.strong.find sessionId = some table.records.length →
      current.dataOf table.records.length = some data →
      table.records.length < current.records.length →
      (∀ action ∈ rest, action.isRelease = false ∧ action.isDeleteOf sessionId = false) →
      current.run rest = some later →
      later.strong.find sessionId = some table.records.length ∧
        later.dataOf table.records.length = some data by
    obtain ⟨laterHeld, laterData⟩ := kept added actions held stored (by simp [added,
      addSessionRoutingData]) (fun a member => ⟨noRelease a member, notDeleted a member⟩) ran
    have laterAgrees := (agrees.add sessionId data).run noRelease ran
    have live := laterAgrees.live sessionId _ laterHeld
    exact ⟨by simp [sessionRoutingData, laterAgrees.same, laterHeld, lock_eq_dataOf live, laterData],
      laterAgrees.consistent⟩
  intro current rest
  induction rest generalizing current with
  | nil => intro held stored _ _ ran; cases ran; exact ⟨held, stored⟩
  | cons action rest ih =>
    intro held stored inRange allowed ran
    obtain ⟨middle, stepped, ranRest⟩ := Option.bind_eq_some.mp ran
    obtain ⟨sameData, longer⟩ := dataOf_step stepped inRange
    exact ih middle
      (find_strong_step held (allowed action (.head _)).1 (allowed action (.head _)).2 stepped)
      (sameData.trans stored) (Nat.lt_of_lt_of_le inRange longer)
      (fun a member => allowed a (.tail _ member)) ranRest

/-- Session 1's data is added; another session's is added, looked up and deleted, and its record
expires. -/
def otherSessionComesAndGoes : List Action :=
  [.add 2 (SessionRoutingData.create 2 1 []), .lookup 1, .lookup 2, .delete 2, .expire 1, .lookup 1]

theorem sessionRoutingData_run_of_add_other_session :
    ∃ later, (empty.addSessionRoutingData 1 (SessionRoutingData.create 1 1 [])).run
        otherSessionComesAndGoes = some later ∧
      empty.Agrees ∧ empty.sessionRoutingData 1 = none ∧
      (∀ action ∈ otherSessionComesAndGoes, action.isRelease = false) ∧
      (∀ action ∈ otherSessionComesAndGoes, action.isDeleteOf 1 = false) ∧
      later.sessionRoutingData 1 = some (SessionRoutingData.create 1 1 []) ∧ later.Consistent :=
  ⟨_, rfl, agrees_empty, rfl, by decide, by decide,
    @sessionRoutingData_run_of_add empty _ 1 _ otherSessionComesAndGoes agrees_empty rfl (by decide)
      (by decide) rfl⟩

end RoutingTable

end Arras4.Node
