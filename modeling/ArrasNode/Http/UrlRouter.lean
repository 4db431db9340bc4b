import ArrasNode.Http.BanList

/-! `UrlRouter` (UrlRouter.cc): `split` cuts a path at its slashes, `urlrouter::Node` is the tree
of registered paths, and `UrlRouter::handle` descends it after the ban-list check. The descent
commits to a matching literal child and never tries the variable child after it, which
`followsConstantFirst` states over the registered patterns (`handle_iff_followsConstantFirst`). -/
namespace Arras4.Node

namespace UrlRouter

/-! ### `urlrouter::split` -/

/-- The loop of `urlrouter::split`, on what is left of the path from `pos` on.
`find_first_not_of('/')` skips the slashes; when it finds none (`npos`) the loop stops.
Otherwise `find_first_of('/')` ends the element, `substr` pushes it, and the loop goes on from
the slash that ended it. Each turn consumes at least the element's first character. -/
def splitFrom (rest : List Char) : List String :=
  match _skipped : rest.dropWhile (· == '/') with
  | [] => []
  | c :: cs =>
    String.mk ((c :: cs).takeWhile (· != '/')) :: splitFrom ((c :: cs).dropWhile (· != '/'))
termination_by rest.length
decreasing_by
  have notSlash : (c == '/') = false := by
    simpa [_skipped] using List.head_dropWhile_not (· == '/') rest (by simp [_skipped])
  have bound := (List.dropWhile_suffix (· == '/') : rest.dropWhile (· == '/') <:+ rest).length_le
  have shorter := (List.dropWhile_suffix (· != '/') : cs.dropWhile (· != '/') <:+ cs).length_le
  rw [_skipped] at bound
  simp only [List.dropWhile_cons, bne, notSlash, Bool.not_false, if_true, List.length_cons] at *
  omega

def split (path : String) : List String :=
  if path.isEmpty then [] else splitFrom path.toList

def pieces (path : List Char) : List (List Char) :=
  (path.splitOn '/').filter fun piece => !piece.isEmpty

/-- What `split` is meant to return: the maximal non-empty substrings without '/', in order. -/
def elements (path : String) : List String :=
  (pieces path.toList).map String.mk

theorem splitOn_append_slash (xs rest : List Char) :
    (xs ++ '/' :: rest).splitOn '/' = xs.splitOn '/' ++ rest.splitOn '/' := by
  induction xs with
  | nil => simp [List.splitOn]
  | cons x xs ih =>
    simp only [List.splitOn] at ih ⊢
    by_cases slash : x = '/'
    · simp [slash, ih]
    · have notSlash : (x == '/') = false := by simpa using slash
      obtain ⟨first, others, split⟩ := List.exists_cons_of_ne_nil (List.splitOnP_ne_nil
        (· == '/') xs)
      simp [List.splitOnP_cons, notSlash, ih, split]

@[simp] theorem pieces_nil : pieces [] = [] := rfl

theorem pieces_slash_cons (path : List Char) : pieces ('/' :: path) = pieces path := by
  simp [pieces, List.splitOn, List.splitOnP_cons]

theorem pieces_append_slash (xs rest : List Char) :
    pieces (xs ++ '/' :: rest) = pieces xs ++ pieces rest := by
  simp [pieces, splitOn_append_slash, List.filter_append]

theorem pieces_of_no_slash {xs : List Char} (nonEmpty : xs ≠ []) (noSlash : '/' ∉ xs) :
    pieces xs = [xs] := by
  have single : xs.splitOn '/' = [xs] :=
    List.splitOnP_eq_single _ _ fun x member same => noSlash (beq_iff_eq.mp same ▸ member)
  simp [pieces, single, List.isEmpty_iff, nonEmpty]

theorem pieces_dropWhile (path : List Char) : pieces (path.dropWhile (· == '/')) = pieces path := by
  induction path with
  | nil => rfl
  | cons c rest ih =>
    by_cases slash : c = '/'
    · subst slash
      simp [List.dropWhile_cons, ih, pieces_slash_cons]
    · simp [List.dropWhile_cons, slash]

theorem pieces_cons_of_ne {c : Char} (notSlash : c ≠ '/') (cs : List Char) :
    pieces (c :: cs) =
      (c :: cs).takeWhile (· != '/') :: pieces ((c :: cs).dropWhile (· != '/')) := by
  have whole := List.takeWhile_append_dropWhile (· != '/') (c :: cs)
  have kept : ∀ x ∈ (c :: cs).takeWhile (· != '/'), x ≠ '/' := fun x member => by
    simpa using List.mem_takeWhile_imp member
  have element : (c :: cs).takeWhile (· != '/') ≠ [] := by
    simp [List.takeWhile_cons, notSlash]
  have noSlash : '/' ∉ (c :: cs).takeWhile (· != '/') := fun member => kept '/' member rfl
  have stop : ∀ x after, (c :: cs).dropWhile (· != '/') = x :: after → x = '/' :=
    fun x after rest => by
      simpa [rest] using List.head_dropWhile_not (· != '/') (c :: cs) (by simp [rest])
  generalize (c :: cs).takeWhile (· != '/') = first at *
  generalize (c :: cs).dropWhile (· != '/') = rest at *
  rw [← whole]
  cases rest with
  | nil => rw [List.append_nil, pieces_of_no_slash element noSlash, pieces_nil]
  | cons x after =>
    obtain rfl := stop x after rfl
    rw [pieces_append_slash, pieces_of_no_slash element noSlash, pieces_slash_cons]
    rfl

theorem splitFrom_eq_pieces (rest : List Char) : splitFrom rest = (pieces rest).map String.mk := by
  induction rest using splitFrom.induct with
  | case1 rest skipped =>
    unfold splitFrom
    split
    · rw [← pieces_dropWhile, skipped]; rfl
    · simp_all
  | case2 rest c cs skipped ih =>
    unfold splitFrom
    split
    · simp_all
    · rename_i c' cs' skipped'
      rw [skipped] at skipped'
      obtain ⟨rfl, rfl⟩ := List.cons.inj skipped'
      have notSlash : c ≠ '/' := by
        simpa [skipped] using List.head_dropWhile_not (· == '/') rest (by simp [skipped])
      rw [ih, ← pieces_dropWhile rest, skipped, pieces_cons_of_ne notSlash]
      rfl

theorem split_eq_elements (path : String) : split path = elements path := by
  unfold split elements
  split_ifs with empty
  · obtain ⟨cs⟩ := path
    cases cs with
    | nil => rfl
    | cons c cs =>
      have size := Char.utf8Size_pos c
      simp only [String.isEmpty, String.endPos, String.utf8ByteSize, String.utf8ByteSize.go,
        beq_iff_eq] at empty
      have sizes := congrArg String.Pos.byteIdx empty
      change String.utf8ByteSize.go cs + c.utf8Size = 0 at sizes
      omega
  · exact splitFrom_eq_pieces _

theorem pieces_join {first : List Char} {rest : List (List Char)} (firstOk : first ≠ [] ∧ '/' ∉ first)
    (restOk : ∀ piece ∈ rest, piece ≠ [] ∧ '/' ∉ piece) :
    pieces (first ++ (rest.map ('/' :: ·)).flatten) = first :: rest := by
  induction rest generalizing first with
  | nil => simpa using pieces_of_no_slash firstOk.1 firstOk.2
  | cons next later ih =>
    rw [List.map_cons, List.flatten_cons, List.cons_append, pieces_append_slash,
      pieces_of_no_slash firstOk.1 firstOk.2,
      ih (restOk next (.head _)) fun piece member => restOk piece (.tail _ member)]
    rfl

theorem toList_intercalate_go (acc : String) (rest : List String) :
    (String.intercalate.go acc "/" rest).toList =
      acc.toList ++ (rest.map fun piece => '/' :: piece.toList).flatten := by
  induction rest generalizing acc with
  | nil => simp [String.intercalate.go]
  | cons piece rest ih =>
    simp only [String.intercalate.go, ih, List.map_cons, List.flatten_cons]
    simp [String.toList]

/-- What `split` keeps of a path: its elements in order. Joining non-empty elements without
slashes with one slash each and splitting gives them back, and leading, trailing or doubled
slashes change nothing. -/
theorem split_keeps_elements :
    (∀ path : String, split path = elements path) ∧
    (∀ parts : List String, (∀ part ∈ parts, part ≠ "" ∧ '/' ∉ part.toList) →
      split (String.intercalate "/" parts) = parts) ∧
    (∀ path : String, split ("/" ++ path) = split path ∧ split (path ++ "/") = split path) ∧
    (∀ front back : String, split (front ++ "//" ++ back) = split (front ++ "/" ++ back)) := by
  refine ⟨split_eq_elements, fun parts ok => ?_, fun path => ?_, fun front back => ?_⟩
  · rw [split_eq_elements, elements]
    cases parts with
    | nil => rfl
    | cons first rest =>
      have pieceOk : ∀ part ∈ first :: rest, part.toList ≠ [] ∧ '/' ∉ part.toList :=
        fun part member => ⟨fun empty => (ok part member).1 (String.ext empty), (ok part member).2⟩
      have restOk : ∀ piece ∈ rest.map String.toList, piece ≠ [] ∧ '/' ∉ piece := by
        simpa using fun part member => pieceOk part (.tail _ member)
      have restPieces : (rest.map fun piece => '/' :: piece.toList) =
          (rest.map String.toList).map ('/' :: ·) := by simp
      have roundTrip : (rest.map String.toList).map String.mk = rest := by
        rw [List.map_map]; exact List.map_id'' (fun _ => rfl) rest
      rw [String.intercalate, toList_intercalate_go, restPieces,
        pieces_join (pieceOk first (.head _)) restOk, List.map_cons, roundTrip]
      rfl
  · simp only [split_eq_elements, elements, String.toList, String.data_append]
    exact ⟨congrArg _ (pieces_slash_cons _), by rw [pieces_append_slash]; simp⟩
  · simp only [split_eq_elements, elements, String.toList, String.data_append, List.append_assoc]
    simp only [List.cons_append, List.nil_append, pieces_append_slash, pieces_slash_cons]

/-! ### `urlrouter::Node` -/

/-- `urlrouter::Node`: the children for literal elements (`mConstants`, a `std::map`), the child
for a variable (`mVariable`), and the handler of the paths that end here (`mHandler`). -/
inductive Node (α : Type) where
  | mk (constants : List (String × Node α)) (variableNode : Option (Node α)) (handler : Option α)

namespace Node

variable {α : Type}

def empty : Node α := .mk [] none none

def constantChild : List (String × Node α) → String → Option (Node α)
  | [], _ => none
  | (k, child) :: rest, element => if element = k then some child else constantChild rest element

/-- `mConstants.emplace(element, p)`, then `f` on the child it returns: an existing child is kept,
a new one starts empty. -/
def emplaceWith (element : String) (f : Node α → Node α) :
    List (String × Node α) → List (String × Node α)
  | [] => [(element, f .empty)]
  | (k, child) :: rest =>
    if element = k then (k, f child) :: rest else (k, child) :: emplaceWith element f rest

/-- `Node::add`, on the elements from `index` on: the handler goes on the node the path ends at,
replacing any handler there; `*` descends to the variable child, made when missing. -/
def add : Node α → List String → α → Node α
  | .mk constants variableNode _, [], handler => .mk constants variableNode (some handler)
  | .mk constants variableNode current, element :: rest, handler =>
    if element = "*" then .mk constants (some ((variableNode.getD .empty).add rest handler)) current
    else .mk (emplaceWith element (fun child => child.add rest handler) constants) variableNode current

/-- `Node::handle`, on the elements from `index` on, with the variables collected so far in
`params`: a literal child is taken whenever one matches, and only otherwise the variable child,
collecting the element. The result is the handler called and the variables it is given. -/
def handle : Node α → List String → List String → Option (α × List String)
  | .mk _ _ handler, [], vars => handler.map (·, vars)
  | .mk constants variableNode _, element :: rest, vars =>
    match constantChild constants element with
    | some child => child.handle rest vars
    | none =>
      match variableNode with
      | some child => child.handle rest (vars ++ [element])
      | none => none

def build (routes : List (List String × α)) : Node α :=
  routes.foldl (fun node route => node.add route.1 route.2) empty

/-! The tree's meaning: a route is a path through it, `some e` to the literal child `e` and
`none` to the variable child; a pattern takes the route `routeOf`. -/

def handlerAt : Node α → List (Option String) → Option α
  | .mk _ _ handler, [] => handler
  | .mk constants variableNode _, step :: rest =>
    match step with
    | none => variableNode.bind (·.handlerAt rest)
    | some element => (constantChild constants element).bind (·.handlerAt rest)

def routeOf (pattern : List String) : List (Option String) :=
  pattern.map fun element => if element = "*" then none else some element

def routeVariables : List (Option String) → List String → List String
  | none :: route, given :: path => given :: routeVariables route path
  | some _ :: route, _ :: path => routeVariables route path
  | _, _ => []

end Node

/-- A pattern matches a path element-wise: same length, each literal equal, each `*` any one
element. -/
def patternMatches : List String → List String → Bool
  | [], [] => true
  | element :: pattern, given :: path =>
    (element = "*" || element = given) && patternMatches pattern path
  | _, _ => false

/-- The path's elements at the pattern's `*` positions, in order. -/
def wildcards : List String → List String → List String
  | element :: pattern, given :: path =>
    (if element = "*" then [given] else []) ++ wildcards pattern path
  | _, _ => []

namespace Node

variable {α : Type}

@[simp] theorem handlerAt_empty (route : List (Option String)) : (empty : Node α).handlerAt route = none := by
  cases route with
  | nil => rfl
  | cons step rest => cases step <;> rfl

theorem constantChild_emplaceWith (element : String) (f : Node α → Node α)
    (constants : List (String × Node α)) (k : String) :
    constantChild (emplaceWith element f constants) k =
      if k = element then some (f ((constantChild constants element).getD empty))
      else constantChild constants k := by
  induction constants with
  | nil => by_cases same : k = element <;> simp [emplaceWith, constantChild, same]
  | cons entry rest ih =>
    obtain ⟨k', child⟩ := entry
    by_cases here : element = k' <;> by_cases same : k = k' <;>
      simp_all [emplaceWith, constantChild, @eq_comm _ k' element]

theorem getD_handlerAt (child : Option (Node α)) (route : List (Option String)) :
    (child.getD empty).handlerAt route = child.bind (·.handlerAt route) := by
  cases child <;> simp

theorem handlerAt_add (node : Node α) (pattern : List String) (handler : α)
    (route : List (Option String)) :
    (node.add pattern handler).handlerAt route =
      if route = routeOf pattern then some handler else node.handlerAt route := by
  induction pattern generalizing node route with
  | nil =>
    obtain ⟨constants, variableNode, current⟩ := node
    cases route with
    | nil => simp [add, handlerAt, routeOf]
    | cons step rest => cases step <;> simp [add, handlerAt, routeOf]
  | cons element pattern ih =>
    obtain ⟨constants, variableNode, current⟩ := node
    cases route with
    | nil => by_cases star : element = "*" <;> simp [add, handlerAt, routeOf, star]
    | cons step rest =>
      by_cases star : element = "*"
      · cases step with
        | none => simp [add, handlerAt, routeOf, star, ih, getD_handlerAt]
        | some given => simp [add, handlerAt, routeOf, star]
      · cases step with
        | none => simp [add, handlerAt, routeOf, star]
        | some given =>
          by_cases same : given = element
          · subst same
            simp [add, handlerAt, routeOf, star, constantChild_emplaceWith, ih, getD_handlerAt]
          · simp [add, handlerAt, routeOf, star, constantChild_emplaceWith, same, Ne.symm same]

theorem handlerAt_build {routes : List (List String × α)} {route : List (Option String)} {handler : α}
    (found : (build routes).handlerAt route = some handler) :
    ∃ pattern, (pattern, handler) ∈ routes ∧ routeOf pattern = route := by
  suffices later : ∀ (node : Node α) (routes : List (List String × α)),
      (routes.foldl (fun node route => node.add route.1 route.2) node).handlerAt route = some handler →
      node.handlerAt route = some handler ∨ ∃ pattern, (pattern, handler) ∈ routes ∧ routeOf pattern = route by
    rcases later empty routes found with empty | registered
    · simp at empty
    · exact registered
  intro node routes
  induction routes generalizing node with
  | nil => exact .inl
  | cons first rest ih =>
    intro found
    rcases ih _ found with atFirst | ⟨pattern, member, same⟩
    · rw [handlerAt_add] at atFirst
      split_ifs at atFirst with here
      · exact .inr ⟨first.1, by rw [← Option.some.inj atFirst]; exact .head _, here.symm⟩
      · exact .inl atFirst
    · exact .inr ⟨pattern, .tail _ member, same⟩

end Node

theorem routeVariables_routeOf (pattern path : List String) :
    Node.routeVariables (Node.routeOf pattern) path = wildcards pattern path := by
  induction pattern generalizing path with
  | nil => cases path <;> rfl
  | cons element pattern ih =>
    cases path with
    | nil => by_cases star : element = "*" <;> simp [Node.routeOf, star, Node.routeVariables, wildcards]
    | cons given path =>
      have rest := ih path
      simp only [Node.routeOf] at rest
      by_cases star : element = "*" <;>
        simp [Node.routeOf, star, Node.routeVariables, wildcards, rest]

/-! ### Constant-first descent over the registered patterns -/

/-- Whether `route`, after `before`, is the way `Node::handle` goes for `path` through the
registered routes: a literal is taken when it is the path's element, and a `*` only where no
registered route that came the same way goes on with that element as a literal. -/
def followsConstantFirst (registered : List (List (Option String))) :
    List (Option String) → List (Option String) → List String → Bool
  | _, [], [] => true
  | before, some element :: route, given :: path =>
    element == given && followsConstantFirst registered (before ++ [some element]) route path
  | before, none :: route, given :: path =>
    registered.all (fun q => !(before ++ [some given]).isPrefixOf q) &&
      followsConstantFirst registered (before ++ [none]) route path
  | _, _, _ => false

@[simp] theorem followsConstantFirst_literal (registered : List (List (Option String)))
    (before route : List (Option String)) (element given : String) (path : List String) :
    followsConstantFirst registered before (some element :: route) (given :: path) =
      (element == given && followsConstantFirst registered (before ++ [some element]) route path) := rfl

@[simp] theorem followsConstantFirst_variable (registered : List (List (Option String)))
    (before route : List (Option String)) (given : String) (path : List String) :
    followsConstantFirst registered before (none :: route) (given :: path) =
      (registered.all (fun q => !(before ++ [some given]).isPrefixOf q) &&
        followsConstantFirst registered (before ++ [none]) route path) := rfl

def registeredRoutes {α : Type} (routes : List (String × α)) : List (List (Option String)) :=
  routes.map fun route => Node.routeOf (split route.1)

namespace Node

variable {α : Type}

def nodeAt (node : Node α) : List (Option String) → Option (Node α)
  | [] => some node
  | step :: rest =>
    match node, step with
    | .mk _ variableNode _, none => variableNode.bind (·.nodeAt rest)
    | .mk constants _ _, some element => (constantChild constants element).bind (·.nodeAt rest)

theorem nodeAt_append (node : Node α) (first rest : List (Option String)) :
    node.nodeAt (first ++ rest) = (node.nodeAt first).bind (·.nodeAt rest) := by
  induction first generalizing node with
  | nil => rfl
  | cons step first ih =>
    obtain ⟨constants, variableNode, current⟩ := node
    cases step <;> simp [nodeAt, Option.bind_assoc, ih]

theorem handlerAt_of_nodeAt {node sub : Node α} {route : List (Option String)}
    (at_ : node.nodeAt route = some sub) : node.handlerAt route = sub.handlerAt [] := by
  induction route generalizing node with
  | nil => cases at_; rfl
  | cons step rest ih =>
    obtain ⟨constants, variableNode, current⟩ := node
    cases step with
    | none =>
      obtain ⟨child, found, below⟩ := Option.bind_eq_some.mp at_
      simp [handlerAt, found, ih below]
    | some element =>
      obtain ⟨child, found, below⟩ := Option.bind_eq_some.mp at_
      simp [handlerAt, found, ih below]

theorem isSome_nodeAt_empty (route : List (Option String)) :
    ((empty : Node α).nodeAt route).isSome ↔ route = [] := by
  cases route with
  | nil => simp [nodeAt]
  | cons step rest => cases step <;> simp [empty, nodeAt, constantChild]

theorem isSome_getD_nodeAt (child : Option (Node α)) (route : List (Option String)) :
    ((child.getD empty).nodeAt route).isSome ↔ (child.bind (·.nodeAt route)).isSome ∨ route = [] := by
  cases child with
  | none => simp [isSome_nodeAt_empty]
  | some child => cases route <;> simp [nodeAt]

theorem isSome_nodeAt_add (node : Node α) (pattern : List String) (handler : α)
    (route : List (Option String)) :
    ((node.add pattern handler).nodeAt route).isSome ↔
      (node.nodeAt route).isSome ∨ List.IsPrefix route (routeOf pattern) := by
  induction pattern generalizing node route with
  | nil =>
    obtain ⟨constants, variableNode, current⟩ := node
    cases route with
    | nil => simp [add, nodeAt]
    | cons step rest => cases step <;> simp [add, nodeAt, routeOf]
  | cons element pattern ih =>
    obtain ⟨constants, variableNode, current⟩ := node
    cases route with
    | nil => by_cases star : element = "*" <;> simp [add, nodeAt, star]
    | cons step rest =>
      by_cases star : element = "*"
      · cases step with
        | none =>
          simp only [add, star, if_true, nodeAt, Option.some_bind, ih, isSome_getD_nodeAt, routeOf,
            List.map_cons, List.cons_prefix_cons, true_and]
          constructor
          · rintro ((found | rfl) | leads)
            exacts [.inl found, .inr List.nil_prefix, .inr leads]
          · rintro (found | leads)
            exacts [.inl (.inl found), .inr leads]
        | some given => simp [add, nodeAt, routeOf, star]
      · cases step with
        | none => simp [add, nodeAt, routeOf, star]
        | some given =>
          by_cases same : given = element
          · subst same
            simp only [add, star, if_false, nodeAt, constantChild_emplaceWith, if_true,
              Option.some_bind, ih, isSome_getD_nodeAt, routeOf, List.map_cons, List.cons_prefix_cons,
              true_and]
            constructor
            · rintro ((found | rfl) | leads)
              exacts [.inl found, .inr List.nil_prefix, .inr leads]
            · rintro (found | leads)
              exacts [.inl (.inl found), .inr leads]
          · simp [add, nodeAt, routeOf, star, constantChild_emplaceWith, same]

/-- A built tree has a node at a route exactly when the route begins a registered one. -/
theorem isSome_nodeAt_build (routes : List (List String × α)) (route : List (Option String)) :
    ((build routes).nodeAt route).isSome ↔
      route = [] ∨ ∃ registered ∈ routes, List.IsPrefix route (routeOf registered.1) := by
  suffices later : ∀ node : Node α,
      ((routes.foldl (fun node route => node.add route.1 route.2) node).nodeAt route).isSome ↔
        (node.nodeAt route).isSome ∨ ∃ registered ∈ routes, List.IsPrefix route (routeOf registered.1) by
    rw [build, later empty, isSome_nodeAt_empty]
  induction routes with
  | nil => simp only [List.foldl_nil, List.not_mem_nil, false_and, exists_false, or_false, implies_true]
  | cons first rest ih =>
    intro node
    simp only [List.foldl_cons, ih, isSome_nodeAt_add, List.exists_mem_cons_iff, or_assoc]

theorem isSome_handlerAt_build {routes : List (List String × α)} {pattern : List String} {handler : α}
    (registered : (pattern, handler) ∈ routes) : ((build routes).handlerAt (routeOf pattern)).isSome := by
  suffices later : ∀ node : Node α, (node.handlerAt (routeOf pattern)).isSome ∨
      (∃ h, (pattern, h) ∈ routes) →
      ((routes.foldl (fun node route => node.add route.1 route.2) node).handlerAt (routeOf pattern)).isSome from
    later empty (.inr ⟨handler, registered⟩)
  clear registered
  induction routes with
  | nil => simp
  | cons first rest ih =>
    rintro node (found | ⟨h, member⟩)
    · refine ih _ (.inl ?_)
      rw [handlerAt_add]
      split <;> simp_all
    · rcases List.mem_cons.mp member with rfl | later
      · exact ih _ (.inl (by simp [handlerAt_add]))
      · refine ih _ (.inr ⟨h, later⟩)

variable {tree : Node α} {registered : List (List (Option String))}

/-- Along a route that follows the constant-first descent to a registered pattern, `handle` takes
that route and calls the pattern's handler. -/
theorem handle_of_followsConstantFirst
    (present : ∀ r, (tree.nodeAt r).isSome ↔ r = [] ∨ ∃ q ∈ registered, List.IsPrefix r q)
    {before route : List (Option String)} {node : Node α} {path vars : List String} {handler : α}
    (at_ : tree.nodeAt before = some node) (follows : followsConstantFirst registered before route path)
    (onRoute : before ++ route ∈ registered) (found : tree.handlerAt (before ++ route) = some handler) :
    node.handle path vars = some (handler, vars ++ routeVariables route path) := by
  induction route generalizing before node path vars with
  | nil =>
    cases path with
    | nil =>
      obtain ⟨constants, variableNode, current⟩ := node
      rw [List.append_nil, handlerAt_of_nodeAt at_] at found
      simp only [handlerAt] at found
      simp [handle, found, routeVariables]
    | cons given path => cases follows
  | cons step route ih =>
    cases path with
    | nil => cases step <;> cases follows
    | cons given path =>
      obtain ⟨constants, variableNode, current⟩ := node
      have below : ∀ r, List.IsPrefix r (step :: route) → (tree.nodeAt (before ++ r)).isSome :=
        fun r leads => (present _).mpr (.inr ⟨_, onRoute, (List.prefix_append_right_inj before).mpr leads⟩)
      cases step with
      | some element =>
        simp only [followsConstantFirst_literal, Bool.and_eq_true, beq_iff_eq] at follows
        obtain ⟨rfl, follows⟩ := follows
        obtain ⟨sub, literal⟩ : ∃ sub, constantChild constants element = some sub := by
          have child := below [some element] ⟨route, rfl⟩
          rw [nodeAt_append, at_] at child
          simpa [nodeAt, Option.isSome_iff_exists] using child
        have atChild : tree.nodeAt (before ++ [some element]) = some sub := by
          rw [nodeAt_append, at_]; simp [nodeAt, literal]
        have next := @ih (before ++ [some element]) sub path vars atChild follows (by simpa using onRoute)
          (by simpa using found)
        simp only [handle, literal]
        exact next
      | none =>
        simp only [followsConstantFirst_variable, Bool.and_eq_true, List.all_eq_true, Bool.not_eq_true',
          Bool.not_eq_eq_eq_not, Bool.not_true, List.isPrefixOf_iff_prefix] at follows
        obtain ⟨fresh, follows⟩ := follows
        have noLiteral : constantChild constants given = none := by
          have absent := present (before ++ [some given])
          rw [nodeAt_append, at_] at absent
          simp only [Option.some_bind, nodeAt] at absent
          cases literal : constantChild constants given with
          | none => rfl
          | some child =>
            rw [literal] at absent
            obtain ⟨q, member, leads⟩ := (absent.mp (by simp)).resolve_left (by simp)
            exact absurd (List.isPrefixOf_iff_prefix.mpr leads) (by simp [fresh q member])
        obtain ⟨sub, viaVariable⟩ : ∃ sub, variableNode = some sub := by
          have child := below [none] ⟨route, rfl⟩
          rw [nodeAt_append, at_] at child
          simpa [nodeAt, Option.isSome_iff_exists] using child
        have atChild : tree.nodeAt (before ++ [none]) = some sub := by
          rw [nodeAt_append, at_]; simp [nodeAt, viaVariable]
        have next := @ih (before ++ [none]) sub path (vars ++ [given]) atChild follows
          (by simpa using onRoute) (by simpa using found)
        simp only [handle, noLiteral, viaVariable, next, List.append_assoc]
        rfl

/-- The route `handle` takes follows the constant-first descent. -/
theorem followsConstantFirst_of_handle
    (present : ∀ r, (tree.nodeAt r).isSome ↔ r = [] ∨ ∃ q ∈ registered, List.IsPrefix r q)
    {before : List (Option String)} {node : Node α} {path vars given : List String} {handler : α}
    (at_ : tree.nodeAt before = some node) (handled : node.handle path vars = some (handler, given)) :
    ∃ route, tree.handlerAt (before ++ route) = some handler ∧
      followsConstantFirst registered before route path ∧ given = vars ++ routeVariables route path := by
  induction path generalizing before node vars with
  | nil =>
    obtain ⟨constants, variableNode, current⟩ := node
    obtain ⟨h, found, result⟩ := Option.map_eq_some'.mp handled
    cases result
    exact ⟨[], by rw [List.append_nil, handlerAt_of_nodeAt at_]; exact found, rfl, by simp [routeVariables]⟩
  | cons element rest ih =>
    obtain ⟨constants, variableNode, current⟩ := node
    simp only [handle] at handled
    split at handled
    · rename_i child literal
      have atChild : tree.nodeAt (before ++ [some element]) = some child := by
        rw [nodeAt_append, at_]; simp [nodeAt, literal]
      obtain ⟨route, found, follows, collected⟩ := ih atChild handled
      exact ⟨some element :: route, by simpa using found, by simpa using follows,
        collected⟩
    · rename_i noLiteral
      cases variableNode with
      | none => cases handled
      | some child =>
        have atChild : tree.nodeAt (before ++ [none]) = some child := by
          rw [nodeAt_append, at_]; simp [nodeAt]
        obtain ⟨route, found, follows, collected⟩ := ih atChild handled
        have fresh : ∀ q ∈ registered, ¬ List.IsPrefix (before ++ [some element]) q := by
          intro q member leads
          have atLiteral := (present (before ++ [some element])).mpr (.inr ⟨q, member, leads⟩)
          rw [nodeAt_append, at_] at atLiteral
          simp [nodeAt, noLiteral] at atLiteral
        refine ⟨none :: route, by simpa using found, ?_, collected.trans (List.append_assoc _ _ _)⟩
        simp only [followsConstantFirst_variable, Bool.and_eq_true, List.all_eq_true, Bool.not_eq_true']
        exact ⟨fun q member => Bool.eq_false_iff.mpr fun yes => fresh q member
          (List.isPrefixOf_iff_prefix.mp yes), follows⟩

end Node

end UrlRouter

def httpBadRequest : Nat := 400

def httpNotFound : Nat := 404

def httpTooManyRequests : Nat := 429

/-- What `UrlRouter::handle` does with a request: refuse it with 429, call a handler with the
variables collected, or call the unmapped handler, which sets `code`. -/
inductive Response (α : Type) where
  | tooManyRequests
  | handled (handler : α) (vars : List String)
  | unmapped (code : Nat)
deriving DecidableEq, Repr

/-- `UrlRouter`: the root of the tree, the response code its unmapped handler sets, and the ban
list given by `setBanList`, if any. -/
structure UrlRouter (α : Type) where
  root : UrlRouter.Node α
  unmappedCode : Nat
  banList : Option BanList

namespace UrlRouter

variable {α : Type}

def create (unmappedCode : Nat) : UrlRouter α := ⟨.empty, unmappedCode, none⟩

def setBanList (router : UrlRouter α) (banList : BanList) : UrlRouter α :=
  { router with banList := some banList }

def add (router : UrlRouter α) (path : String) (handler : α) : UrlRouter α :=
  { router with root := router.root.add (split path) handler }

def ofRoutes (unmappedCode : Nat) (routes : List (String × α)) : UrlRouter α :=
  routes.foldl (fun router route => router.add route.1 route.2) (create unmappedCode)

/-- The descent of `UrlRouter::handle`, and its unmapped branch: a request the unmapped handler
answers with 404 is tracked under its client address, when it has a non-empty one. -/
def dispatch (router : UrlRouter α) (now : Nat) (clientAddress url : String) :
    UrlRouter α × Response α :=
  match router.root.handle (split url) [] with
  | some (handler, vars) => (router, .handled handler vars)
  | none =>
    match router.banList with
    | some banList =>
      if clientAddress ≠ "" ∧ router.unmappedCode = httpNotFound then
        ({ router with banList := some (banList.track now clientAddress) }, .unmapped router.unmappedCode)
      else (router, .unmapped router.unmappedCode)
    | none => (router, .unmapped router.unmappedCode)

/-- `UrlRouter::handle`. With a ban list, a request whose client address is known (`none` when
`getClientAddress` fails) is checked first, and a banned address gets 429. -/
def handle (router : UrlRouter α) (now : Nat) (clientAddress : Option String) (url : String) :
    UrlRouter α × Response α :=
  match router.banList, clientAddress with
  | some banList, some address =>
    match banList.isBanned now address with
    | (checked, true) => ({ router with banList := some checked }, .tooManyRequests)
    | (checked, false) => { router with banList := some checked }.dispatch now address url
  | _, _ => router.dispatch now "" url

theorem ofRoutes_root (unmappedCode : Nat) (routes : List (String × α)) :
    (ofRoutes unmappedCode routes).root =
      Node.build (routes.map fun route => (split route.1, route.2)) := by
  unfold ofRoutes Node.build
  suffices general : ∀ (router : UrlRouter α),
      (routes.foldl (fun router route => router.add route.1 route.2) router).root =
        (routes.map fun route => (split route.1, route.2)).foldl
          (fun node route => node.add route.1 route.2) router.root from general _
  induction routes with
  | nil => intro router; rfl
  | cons first rest ih => intro router; exact ih (router.add first.1 first.2)

theorem dispatch_handled {router : UrlRouter α} {now : Nat} {clientAddress url : String}
    {handler : α} {vars : List String}
    (handled : (router.dispatch now clientAddress url).2 = .handled handler vars) :
    router.root.handle (split url) [] = some (handler, vars) := by
  unfold dispatch at handled
  split at handled
  · cases handled; assumption
  · split at handled
    · split_ifs at handled
    · cases handled

theorem handle_handled {router : UrlRouter α} {now : Nat} {clientAddress : Option String}
    {url : String} {handler : α} {vars : List String}
    (handled : (router.handle now clientAddress url).2 = .handled handler vars) :
    router.root.handle (split url) [] = some (handler, vars) := by
  unfold handle at handled
  split at handled
  · split at handled
    · cases handled
    · have found := dispatch_handled handled
      exact found
  · exact dispatch_handled handled

theorem handle_of_root {router : UrlRouter α} {now : Nat} {clientAddress : Option String}
    {url : String} {handler : α} {vars : List String}
    (found : router.root.handle (split url) [] = some (handler, vars))
    (admitted : (router.handle now clientAddress url).2 ≠ .tooManyRequests) :
    (router.handle now clientAddress url).2 = .handled handler vars := by
  have dispatched : ∀ r : UrlRouter α, r.root = router.root → ∀ now address,
      (r.dispatch now address url).2 = .handled handler vars := fun r same now address => by
    simp [dispatch, same, found]
  unfold handle at admitted ⊢
  split
  · split
    · simp_all
    · exact dispatched { router with banList := some ‹_› } rfl _ _
  · exact dispatched router rfl _ _

/-- A router built from `routes` calls a handler for a request it does not refuse exactly when the
request's path follows a registered path under the tree's constant-first descent; the handler is
then registered with such a path and gets the path's elements at its `*` positions. -/
theorem handle_iff_followsConstantFirst {unmappedCode : Nat} {routes : List (String × α)}
    {banList : Option BanList} {now : Nat} {clientAddress : Option String} {url : String}
    (admitted : (({ ofRoutes unmappedCode routes with banList := banList } : UrlRouter α).handle now
      clientAddress url).2 ≠ .tooManyRequests) :
    (∀ handler vars, (({ ofRoutes unmappedCode routes with banList := banList } : UrlRouter α).handle
        now clientAddress url).2 = .handled handler vars →
      ∃ path, (path, handler) ∈ routes ∧
        followsConstantFirst (registeredRoutes routes) [] (Node.routeOf (split path)) (split url) ∧
        vars = wildcards (split path) (split url)) ∧
    (∀ path handler, (path, handler) ∈ routes →
      followsConstantFirst (registeredRoutes routes) [] (Node.routeOf (split path)) (split url) →
      ∃ called, (({ ofRoutes unmappedCode routes with banList := banList } : UrlRouter α).handle now
        clientAddress url).2 = .handled called (wildcards (split path) (split url))) := by
  have present : ∀ r, ((Node.build (routes.map fun route => (split route.1, route.2))).nodeAt r).isSome ↔
      r = [] ∨ ∃ q ∈ registeredRoutes routes, List.IsPrefix r q := fun r => by
    rw [Node.isSome_nodeAt_build]
    refine or_congr_right ⟨fun ⟨⟨pattern, h⟩, member, leads⟩ => ?_, fun ⟨q, member, leads⟩ => ?_⟩
    · obtain ⟨⟨path, h'⟩, registered, same⟩ := List.mem_map.mp member
      cases same
      exact ⟨_, List.mem_map.mpr ⟨(path, h'), registered, rfl⟩, leads⟩
    · obtain ⟨⟨path, h⟩, registered, rfl⟩ := List.mem_map.mp member
      exact ⟨(split path, h), List.mem_map.mpr ⟨(path, h), registered, rfl⟩, leads⟩
  constructor
  · intro handler vars handled
    have found := handle_handled handled
    simp only [ofRoutes_root] at found
    obtain ⟨route, atRoute, follows, collected⟩ := Node.followsConstantFirst_of_handle present
      (show (Node.build _).nodeAt [] = some _ from rfl) found
    obtain ⟨pattern, member, same⟩ := Node.handlerAt_build atRoute
    obtain ⟨⟨path, h⟩, registered, pair⟩ := List.mem_map.mp member
    cases pair
    simp only [List.nil_append] at same collected follows
    subst same
    exact ⟨path, registered, follows, by simpa [routeVariables_routeOf] using collected⟩
  · intro path handler registered follows
    have member : (split path, handler) ∈ routes.map fun route => (split route.1, route.2) :=
      List.mem_map.mpr ⟨(path, handler), registered, rfl⟩
    obtain ⟨called, atRoute⟩ := Option.isSome_iff_exists.mp (Node.isSome_handlerAt_build member)
    have found := @Node.handle_of_followsConstantFirst α _ (registeredRoutes routes) present []
      (Node.routeOf (split path)) _ (split url) [] called rfl follows
      (List.mem_map.mpr ⟨(path, handler), registered, rfl⟩) atRoute
    refine ⟨called, handle_of_root ?_ admitted⟩
    simpa [ofRoutes_root, routeVariables_routeOf] using found

end UrlRouter

/-! `NodeService`'s routers, with each handler named after its method. -/
namespace NodeService

/-- The GET router, with the ban list (`useBanlist`, the default). -/
def getRouter : UrlRouter String :=
  (UrlRouter.ofRoutes httpNotFound
    [("node/1/health", "GET_health"), ("node/1/status", "GET_status"),
      ("node/1/sessions", "GET_sessions"), ("node/1/sessions/*/status", "GET_sessionStatus"),
      ("node/1/sessions/*/performance", "GET_sessionPerformance"),
      ("favicon.ico", "GET_unhandled")]).setBanList BanList.nodeServiceDefault

/-- The paths the PUT router registers, in order. -/
def putRoutes : List (String × String) :=
  [("sessions/modify", "PUT_sessionsModify"), ("node/1/sessions/modify", "PUT_sessionsModify"),
    ("sessions/*/status", "PUT_sessionStatus"), ("node/1/sessions/*/status", "PUT_sessionStatus"),
    ("registration", "PUT_registration"), ("status", "PUT_status"), ("node/tags", "PUT_tags")]

def putRouter : UrlRouter String := UrlRouter.ofRoutes httpBadRequest putRoutes

end NodeService

/-- On `NodeService`'s PUT router, the path `sessions/modify/status` matches the registered
`sessions/*/status`, yet the literal child `modify` is taken and the request goes to the unmapped
handler. -/
theorem literal_child_hides_variable_route :
    ("sessions/*/status", "PUT_sessionStatus") ∈ NodeService.putRoutes ∧
      UrlRouter.patternMatches (UrlRouter.split "sessions/*/status")
        (UrlRouter.split "sessions/modify/status") ∧
      (NodeService.putRouter.handle 0 (some "10.0.0.7") "sessions/modify/status").2 =
        .unmapped httpBadRequest := by
  refine ⟨by decide, ?_⟩
  simp only [NodeService.putRouter, NodeService.putRoutes, UrlRouter.ofRoutes, List.foldl,
    UrlRouter.add, UrlRouter.handle, UrlRouter.dispatch, UrlRouter.create, UrlRouter.split_eq_elements]
  decide

theorem handle_iff_followsConstantFirst_put :
    (({ UrlRouter.ofRoutes httpBadRequest NodeService.putRoutes with banList := none } :
        UrlRouter String).handle 0 (some "10.0.0.7") "sessions/modify/status").2 ≠ .tooManyRequests ∧
      (∀ handler vars, (({ UrlRouter.ofRoutes httpBadRequest NodeService.putRoutes with banList := none } :
          UrlRouter String).handle 0 (some "10.0.0.7") "sessions/modify/status").2 = .handled handler vars →
        ∃ path, (path, handler) ∈ NodeService.putRoutes ∧
          UrlRouter.followsConstantFirst (UrlRouter.registeredRoutes NodeService.putRoutes) []
            (UrlRouter.Node.routeOf (UrlRouter.split path)) (UrlRouter.split "sessions/modify/status") ∧
          vars = UrlRouter.wildcards (UrlRouter.split path) (UrlRouter.split "sessions/modify/status")) ∧
      (∀ path handler, (path, handler) ∈ NodeService.putRoutes →
        UrlRouter.followsConstantFirst (UrlRouter.registeredRoutes NodeService.putRoutes) []
          (UrlRouter.Node.routeOf (UrlRouter.split path)) (UrlRouter.split "sessions/modify/status") →
        ∃ called, (({ UrlRouter.ofRoutes httpBadRequest NodeService.putRoutes with banList := none } :
          UrlRouter String).handle 0 (some "10.0.0.7") "sessions/modify/status").2 =
            .handled called (UrlRouter.wildcards (UrlRouter.split path)
              (UrlRouter.split "sessions/modify/status"))) :=
  have admitted : (({ UrlRouter.ofRoutes httpBadRequest NodeService.putRoutes with banList := none } :
      UrlRouter String).handle 0 (some "10.0.0.7") "sessions/modify/status").2 ≠ .tooManyRequests := by
    simp [UrlRouter.handle, UrlRouter.dispatch]
    split <;> simp
  ⟨admitted, UrlRouter.handle_iff_followsConstantFirst admitted⟩

end Arras4.Node
