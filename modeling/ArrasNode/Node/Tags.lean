import ArrasNode.Json.Value
import ArrasNode.Http.UrlRouter
import ArrasNode.Session.State

/-! The node's tags (ArrasNode.cc): `buildNodeInfo` makes them, `validateTags` checks a set, and
`updateTags` and `deleteTags` leave the edit to a thread (`updateTagsProc`, `deleteTagsProc`) whose
procedure is one step. The Consul update after a commit only logs on failure and is left out. -/
namespace Arras4.Node

/-- The checks `validateTags` makes, each with the condition under which it fails and the message
it adds then. -/
def tagChecks (tags : Value) : List (Bool × String) :=
  [((tags.get "exclusive_production").isNull && !(tags.get "exclusive_team").isNull,
      "Error in tag set : 'exclusive_team' requires 'exclusive_production' to be set. "),
    (tags.isMember "over_subscribe" && !(tags.get "over_subscribe").isBool,
      "Error in tag set : 'over_subscribe' should be type bool. "),
    ((tags.get "exclusive_user").isNull && (tags.get "over_subscribe").isBool &&
        (tags.get "over_subscribe").asBool == some true,
      "Error in tag set : 'over_subscribe' requires 'exclusive_user' to be set. ")]

/-- `validateTags`: valid when no check fails; the message is the failed checks' messages in
order. -/
def validateTags (tags : Value) : Bool × String :=
  let failed := (tagChecks tags).filter (·.1)
  (failed.isEmpty, String.join (failed.map (·.2)))

/-- The options `buildNodeInfo` reads for the tags. -/
structure NodeOptions where
  userName : String
  exclusiveUser : String
  exclusiveProduction : String
  exclusiveTeam : String
  overSubscribe : Bool

/-- The tags `buildNodeInfo` registers. -/
def buildTags (options : NodeOptions) : Members Value :=
  let userName := if options.userName.isEmpty then "unknown" else options.userName
  let tags : Members Value :=
    if options.exclusiveUser.isEmpty then []
    else
      [("exclusive_user",
        .string (if options.exclusiveUser = "_unspecified_" then userName else options.exclusiveUser))]
  let tags :=
    if options.exclusiveProduction.isEmpty then tags
    else
      let tags := tags.insert "exclusive_production" (.string options.exclusiveProduction)
      if options.exclusiveTeam.isEmpty then tags
      else tags.insert "exclusive_team" (.string options.exclusiveTeam)
  if options.overSubscribe then
    let tags := tags.insert "over_subscribe" (.bool true)
    if options.exclusiveUser.isEmpty then tags.insert "exclusive_user" (.string userName) else tags
  else tags

theorem buildTags_ordered (options : NodeOptions) : (buildTags options).Ordered := by
  have single : ∀ key (value : Value), Members.Ordered [(key, value)] := by
    simp [Members.Ordered]
  unfold buildTags
  cases options.exclusiveUser.isEmpty <;> cases options.exclusiveProduction.isEmpty <;>
    cases options.exclusiveTeam.isEmpty <;> cases options.overSubscribe <;>
    repeat first | apply Members.Ordered.insert | exact single _ _ | exact List.Pairwise.nil

/-- The registered tags pass `validateTags`, whatever the options. -/
theorem buildTags_valid (options : NodeOptions) :
    (validateTags (.object (buildTags options))).1 = true := by
  -- which keys are present, and the kinds of their values, follow from four of the options
  unfold buildTags
  cases options.exclusiveUser.isEmpty <;> cases options.exclusiveProduction.isEmpty <;>
    cases options.exclusiveTeam.isEmpty <;> cases options.overSubscribe <;> rfl

/-- `mNodeInfo["tags"]` once committed: an object, in key order, that passes `validateTags`. -/
structure TagSet where
  members : Members Value
  ordered : members.Ordered
  valid : (validateTags (.object members)).1 = true

theorem TagSet.ext {first second : TagSet} (same : first.members = second.members) : first = second := by
  cases first; cases second; cases same; rfl

/-- The loop of `updateTags` and `updateTagsProc`: `current[name] = value` for each member of the
request. -/
def mergeTags (current : Members Value) : Value → Members Value
  | .object members => members.foldl (fun acc member => acc.insert member.1 member.2) current
  | _ => current

/-- The loop of `deleteTags` and `deleteTagsProc`: each string of the request that names a member
is removed. -/
def removeTags (current : Members Value) : Value → Members Value
  | .array items =>
    items.foldl (fun acc item =>
      match item with
      | .string key => if (acc.find key).isSome then acc.erase key else acc
      | _ => acc) current
  | _ => current

theorem ordered_mergeTags {current : Members Value} (ordered : current.Ordered) (tags : Value) :
    (mergeTags current tags).Ordered := by
  cases tags with
  | object members =>
    induction members generalizing current with
    | nil => exact ordered
    | cons member rest ih => exact ih (ordered.insert member.1 member.2)
  | _ => exact ordered

theorem ordered_removeTags {current : Members Value} (ordered : current.Ordered) (tags : Value) :
    (removeTags current tags).Ordered := by
  cases tags with
  | array items =>
    induction items generalizing current with
    | nil => exact ordered
    | cons item rest ih =>
      apply ih
      cases item <;> try exact ordered
      dsimp only
      split
      · exact ordered.erase _
      · exact ordered
  | _ => exact ordered

structure OperationError where
  message : String
  code : Nat

/-- What the update thread runs. -/
inductive TagsProc
  | updateTagsProc (tags : Value)
  | deleteTagsProc (tags : Value)

/-- The node's tags, and the update thread while its procedure has not cleared
`mNodeInfoIsUpdating`. -/
structure NodeTags where
  tags : TagSet
  thread : Option TagsProc

namespace NodeTags

def nodeInfoIsUpdating (node : NodeTags) : Bool := node.thread.isSome

def init (options : NodeOptions) : NodeTags :=
  ⟨⟨buildTags options, buildTags_ordered options, buildTags_valid options⟩, none⟩

/-- The part `updateTags` and `deleteTags` share: the type check of the request, then under the
mutex the busy check and the check of the edited set; the thread then runs `proc`. -/
def startTagsUpdate (node : NodeTags) (wellFormed : Bool) (formError : String)
    (edit : Members Value → Members Value) (proc : TagsProc) : Except OperationError NodeTags :=
  if !wellFormed then .error ⟨formError, httpBadRequest⟩
  else if node.nodeInfoIsUpdating then
    .error ⟨"Cannot modify node tags, because service is busy with another update",
      httpResourceConflict⟩
  else
    let checked := validateTags (.object (edit node.tags.members))
    if checked.1 then .ok { node with thread := some proc } else .error ⟨checked.2, httpBadRequest⟩

def updateTags (node : NodeTags) (tags : Value) : Except OperationError NodeTags :=
  node.startTagsUpdate tags.isObject "Invalid tag set (JSON object is required)"
    (mergeTags · tags) (.updateTagsProc tags)

def deleteTags (node : NodeTags) (tags : Value) : Except OperationError NodeTags :=
  node.startTagsUpdate tags.isArray "Invalid tag list (JSON array is required)"
    (removeTags · tags) (.deleteTagsProc tags)

/-- The end of `updateTagsProc` and `deleteTagsProc`: the edited set is committed when it passes
`validateTags`, and the node is no longer updating. -/
def commitTags (node : NodeTags) (edited : Members Value) (ordered : edited.Ordered) : NodeTags :=
  { tags := if valid : (validateTags (.object edited)).1 = true then ⟨edited, ordered, valid⟩
      else node.tags
    thread := none }

def updateTagsProc (node : NodeTags) (tags : Value) : NodeTags :=
  node.commitTags (mergeTags node.tags.members tags) (ordered_mergeTags node.tags.ordered tags)

def deleteTagsProc (node : NodeTags) (tags : Value) : NodeTags :=
  node.commitTags (removeTags node.tags.members tags) (ordered_removeTags node.tags.ordered tags)

end NodeTags

/-- A request, or the update thread running its procedure to the end. -/
inductive TagsEvent
  | updateTags (tags : Value)
  | deleteTags (tags : Value)
  | procDone

namespace NodeTags

def step (node : NodeTags) : TagsEvent → Option NodeTags
  | .updateTags tags =>
    some (match node.updateTags tags with
      | .ok next => next
      | .error _ => node)
  | .deleteTags tags =>
    some (match node.deleteTags tags with
      | .ok next => next
      | .error _ => node)
  | .procDone =>
    node.thread.map fun
      | .updateTagsProc tags => node.updateTagsProc tags
      | .deleteTagsProc tags => node.deleteTagsProc tags

def run (node : NodeTags) : List TagsEvent → Option NodeTags
  | [] => some node
  | event :: rest => (node.step event).bind (·.run rest)

/-- An accepted request leaves the tags alone and starts the thread; it needs a well-formed
request, a node not updating, and an edited set that passes `validateTags`. -/
theorem startTagsUpdate_ok {node next : NodeTags} {wellFormed : Bool} {formError : String}
    {edit : Members Value → Members Value} {proc : TagsProc}
    (accepted : node.startTagsUpdate wellFormed formError edit proc = .ok next) :
    node.thread = none ∧ (validateTags (.object (edit node.tags.members))).1 = true ∧
      next = { node with thread := some proc } := by
  unfold startTagsUpdate nodeInfoIsUpdating at accepted
  dsimp only at accepted
  split_ifs at accepted with form busy valid
  cases accepted
  exact ⟨Option.not_isSome_iff_eq_none.mp busy, valid, rfl⟩

theorem startTagsUpdate_of_valid {node : NodeTags} {formError : String}
    {edit : Members Value → Members Value} {proc : TagsProc} (idle : node.thread = none)
    (valid : (validateTags (.object (edit node.tags.members))).1 = true) :
    node.startTagsUpdate true formError edit proc = .ok { node with thread := some proc } := by
  simp [startTagsUpdate, nodeInfoIsUpdating, idle, valid]

theorem commitTags_of_valid (node : NodeTags) {edited : Members Value} (ordered : edited.Ordered)
    (valid : (validateTags (.object edited)).1 = true) :
    node.commitTags edited ordered = ⟨⟨edited, ordered, valid⟩, none⟩ := by
  simp [commitTags, valid]

end NodeTags

theorem find_isSome_of_mem {members : Members Value} {key : String} {value : Value}
    (member : (key, value) ∈ members) : (members.find key).isSome := by
  induction members with
  | nil => cases member
  | cons first rest ih =>
    obtain ⟨k, v⟩ := first
    rcases List.mem_cons.mp member with same | later
    · cases same; simp [Members.find]
    · by_cases here : key = k <;> simp [Members.find, here, ih later]

/-- Removing the names in `keys`, one by one, removes exactly the members they name. -/
theorem removeTags_strings (current : Members Value) (keys : List String) :
    removeTags current (.array (keys.map .string)) =
      current.filter fun member => !keys.contains member.1 := by
  induction keys generalizing current with
  | nil => simp [removeTags]
  | cons key rest ih =>
    have erased : (if (current.find key).isSome then current.erase key else current) =
        current.erase key := by
      split
      · rfl
      · symm
        refine List.filter_eq_self.mpr fun member inside => ?_
        have absent := find_isSome_of_mem inside
        simp only [decide_eq_true_eq]
        rintro rfl
        contradiction
    have := ih (current.erase key)
    simp only [removeTags, List.map_cons, List.foldl_cons] at this ⊢
    rw [erased, this, Members.erase, List.filter_filter]
    congr 1
    funext member
    simp [List.contains_cons, Bool.and_comm]

/-- After the members of `tags` are set, removing their names gives back the members that were
not named. -/
theorem filter_mergeTags (current : Members Value) (tags : Members Value) {keep : String → Bool}
    (dropped : ∀ member ∈ tags, keep member.1 = false) :
    (mergeTags current (.object tags)).filter (fun member => keep member.1) =
      current.filter fun member => keep member.1 := by
  induction tags generalizing current with
  | nil => rfl
  | cons member rest ih =>
    simp only [mergeTags, List.foldl_cons] at ih ⊢
    rw [ih _ fun other inside => dropped other (List.mem_cons_of_mem _ inside),
      Members.filter_insert_of_dropped _ (dropped member (List.mem_cons_self _ _))]

/-- The tags `tags` adds, all new, are exactly what deleting their names removes. -/
theorem removeTags_mergeTags {current tags : Members Value}
    (fresh : ∀ member ∈ tags, (Value.object current).isMember member.1 = false) :
    removeTags (mergeTags current (.object tags)) (.array (tags.map fun member => .string member.1)) =
      current := by
  have named : tags.map (fun member => Value.string member.1) = (tags.map Prod.fst).map .string := by
    simp
  rw [named, removeTags_strings, @filter_mergeTags current tags
    (fun key => !(tags.map Prod.fst).contains key) fun member inside => by
      simpa using List.mem_map_of_mem Prod.fst inside]
  refine List.filter_eq_self.mpr fun ⟨key, value⟩ inside => ?_
  have present := find_isSome_of_mem inside
  cases named : (tags.map Prod.fst).contains key with
  | false => rfl
  | true =>
    obtain ⟨member, isIn, rfl⟩ := List.mem_map.mp (List.mem_of_elem_eq_true named)
    have absent := fresh member isIn
    rw [Value.isMember_object, present] at absent
    cases absent

/-- Whatever tags the node holds, an accepted `updateTags` of new keys, its thread, a
`deleteTags` of the same keys and its thread give the tags back: the deletion is accepted because
the tags pass `validateTags`. -/
theorem delete_undoes_update {node updating : NodeTags} {members : List (String × Value)}
    (fresh : ∀ member ∈ members, (Value.object node.tags.members).isMember member.1 = false)
    (accepted : node.updateTags (.object members) = .ok updating) :
    ∃ updated deleting deleted, updating.step .procDone = some updated ∧
      updated.deleteTags (.array (members.map fun member => .string member.1)) = .ok deleting ∧
      deleting.step .procDone = some deleted ∧ deleted.tags = node.tags := by
  obtain ⟨idle, valid, rfl⟩ := NodeTags.startTagsUpdate_ok accepted
  have restored := removeTags_mergeTags fresh
  -- the deletion's edited set is the set before the update, which is valid
  have restoredValid : (validateTags (.object (removeTags (mergeTags node.tags.members
      (.object members)) (.array (members.map fun member => .string member.1))))).1 = true := by
    rw [restored]; exact node.tags.valid
  have merged := ordered_mergeTags node.tags.ordered (.object members)
  refine ⟨⟨⟨_, merged, valid⟩, none⟩, ⟨⟨_, merged, valid⟩, some (.deleteTagsProc _)⟩,
    ⟨⟨_, ordered_removeTags merged _, restoredValid⟩, none⟩,
    ?_, NodeTags.startTagsUpdate_of_valid rfl restoredValid, ?_, TagSet.ext restored⟩
  · simp [NodeTags.step, NodeTags.updateTagsProc, NodeTags.commitTags_of_valid _ _ valid]
  · simp [NodeTags.step, NodeTags.deleteTagsProc, NodeTags.commitTags_of_valid _ _ restoredValid]

/-- A node of user `arras` registered with `exclusive_user` unspecified and over-subscription gets
the tag `site`, and then loses it. -/
theorem delete_undoes_site_tag :
    ∃ updating, (NodeTags.init ⟨"arras", "_unspecified_", "", "", true⟩).updateTags
        (.object [("site", .string "gld")]) = .ok updating ∧
      ∃ updated deleting deleted, updating.step .procDone = some updated ∧
        updated.deleteTags (.array [.string "site"]) = .ok deleting ∧
        deleting.step .procDone = some deleted ∧
        deleted.tags = (NodeTags.init ⟨"arras", "_unspecified_", "", "", true⟩).tags := by
  have accepted : (NodeTags.init ⟨"arras", "_unspecified_", "", "", true⟩).updateTags
      (.object [("site", .string "gld")]) = .ok { NodeTags.init ⟨"arras", "_unspecified_", "", "", true⟩ with
        thread := some (.updateTagsProc (.object [("site", .string "gld")])) } := by
    unfold NodeTags.updateTags
    exact NodeTags.startTagsUpdate_of_valid rfl (by decide)
  have restored := delete_undoes_update (by decide) accepted
  simp only [List.map_cons, List.map_nil] at restored
  exact ⟨_, accepted, restored⟩

end Arras4.Node
