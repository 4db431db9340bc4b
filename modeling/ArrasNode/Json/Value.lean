import Mathlib.Data.String.Basic

/-! `Json::Value` of jsoncpp, which `api::Object` is, as far as the node's code uses it. An
object's members are its `std::map`; the values jsoncpp holds keep them in ascending key order,
which `Json` carries, and the readers and writers below stay inside it. A real is the decimal of
its text. A conversion that jsoncpp refuses with an exception gives `none`. -/
namespace Arras4.Node

inductive Value where
  | null
  | bool (value : Bool)
  | int (value : Int)
  | uint (value : Nat)
  /-- The real `mantissa * 10 ^ exponent`. -/
  | real (mantissa exponent : Int)
  | string (value : String)
  | array (items : List Value)
  | object (members : List (String × Value))

/-- The members of an object, or any `std::map` keyed by strings, in ascending key order. -/
abbrev Members (β : Type) := List (String × β)

namespace Members

variable {β : Type}

def find : Members β → String → Option β
  | [], _ => none
  | (k, v) :: rest, key => if key = k then some v else find rest key

/-- `map[key] = value`: a new member goes to its place in key order, which compares the keys'
characters in turn. -/
def insert : Members β → String → β → Members β
  | [], key, value => [(key, value)]
  | (k, v) :: rest, key, value =>
    if key.data < k.data then (key, value) :: (k, v) :: rest
    else if key = k then (key, value) :: rest
    else (k, v) :: insert rest key value

def erase (m : Members β) (key : String) : Members β :=
  m.filter fun member => member.1 ≠ key

/-- Keys strictly ascending: the shape of a `std::map`. -/
def Ordered (m : Members β) : Prop := (m.map Prod.fst).Pairwise (· < ·)

@[simp] theorem find_nil (key : String) : find ([] : Members β) key = none := rfl

@[simp] theorem find_insert (m : Members β) (key : String) (value : β) (k : String) :
    (m.insert key value).find k = if k = key then some value else m.find k := by
  induction m with
  | nil => simp [insert, find]
  | cons entry rest ih =>
    obtain ⟨k', v'⟩ := entry
    simp only [insert]
    split_ifs <;> simp_all [find]

@[simp] theorem find_erase (m : Members β) (key k : String) :
    (m.erase key).find k = if k = key then none else m.find k := by
  induction m with
  | nil => simp [erase, find]
  | cons entry rest ih =>
    obtain ⟨k', v'⟩ := entry
    simp only [erase] at ih
    by_cases kept : k' = key <;> by_cases same : k = k' <;> simp_all [erase, find, List.filter_cons]

theorem mem_insert {m : Members β} {key : String} {value : β} {member : String × β}
    (mem : member ∈ m.insert key value) : member = (key, value) ∨ member ∈ m := by
  induction m with
  | nil => simpa [insert] using mem
  | cons entry rest ih =>
    simp only [insert] at mem
    split_ifs at mem
    · exact List.mem_cons.mp mem
    · exact (List.mem_cons.mp mem).imp_right (List.mem_cons_of_mem _)
    · rcases List.mem_cons.mp mem with rfl | later
      exacts [.inr (List.mem_cons_self _ _), (ih later).imp_right (List.mem_cons_of_mem _)]

theorem mem_keys_insert {m : Members β} {key k : String} {value : β}
    (member : k ∈ (m.insert key value).map Prod.fst) : k = key ∨ k ∈ m.map Prod.fst := by
  obtain ⟨entry, mem, rfl⟩ := List.mem_map.mp member
  rcases mem_insert mem with rfl | old
  exacts [.inl rfl, .inr (List.mem_map_of_mem _ old)]

theorem Ordered.insert {m : Members β} (ordered : m.Ordered) (key : String) (value : β) :
    (m.insert key value).Ordered := by
  induction m with
  | nil => simp [Members.insert, Ordered]
  | cons entry rest ih =>
    obtain ⟨k', v'⟩ := entry
    simp only [Ordered, List.map_cons, List.pairwise_cons] at ordered
    simp only [Members.insert]
    split_ifs with below same
    · replace below : key < k' := String.lt_iff_toList_lt.mpr below
      simp only [Ordered, List.map_cons, List.pairwise_cons, List.mem_cons] at ordered ⊢
      refine ⟨?_, ordered.1, ordered.2⟩
      rintro x (rfl | later)
      · exact below
      · exact below.trans (ordered.1 x later)
    · subst same
      simpa [Ordered] using ordered
    · replace below : ¬key < k' := fun lt => below (String.lt_iff_toList_lt.mp lt)
      simp only [Ordered, List.map_cons, List.pairwise_cons] at ih ⊢
      refine ⟨fun x member => ?_, ih ordered.2⟩
      rcases mem_keys_insert member with rfl | later
      · exact lt_of_le_of_ne (not_lt.mp below) (Ne.symm same)
      · exact ordered.1 x later

theorem Ordered.erase {m : Members β} (ordered : m.Ordered) (key : String) : (m.erase key).Ordered :=
  ordered.sublist ((List.filter_sublist m).map Prod.fst)

instance (m : Members β) : Decidable m.Ordered := inferInstanceAs (Decidable (List.Pairwise _ _))

/-- A filter on keys that drops `key` does not see what was inserted at `key`. -/
theorem filter_insert_of_dropped (m : Members β) {keep : String → Bool} {key : String}
    (dropped : keep key = false) (value : β) :
    (m.insert key value).filter (fun member => keep member.1) = m.filter fun member => keep member.1 := by
  induction m with
  | nil => simp [insert, dropped]
  | cons entry rest ih =>
    obtain ⟨k', v'⟩ := entry
    simp only [insert]
    split_ifs with below same
    · simp [List.filter_cons, dropped]
    · subst same
      simp [List.filter_cons, dropped]
    · by_cases kept : keep k' <;> simp [List.filter_cons, kept, ih]

end Members

namespace Value

/-- Const `operator[]`: the member, or null when it is missing or the value is no object. -/
def get : Value → String → Value
  | .object members, key => (Members.find members key).getD .null
  | _, _ => .null

def isMember : Value → String → Bool
  | .object members, key => (Members.find members key).isSome
  | _, _ => false

def isNull : Value → Bool
  | .null => true
  | _ => false

def isBool : Value → Bool
  | .bool _ => true
  | _ => false

def isString : Value → Bool
  | .string _ => true
  | _ => false

def isArray : Value → Bool
  | .array _ => true
  | _ => false

def isObject : Value → Bool
  | .object _ => true
  | _ => false

/-- `asBool`: null and zero are false, other numbers true; strings, arrays and objects throw. -/
def asBool : Value → Option Bool
  | .null => some false
  | .bool value => some value
  | .int value => some (value ≠ 0)
  | .uint value => some (value ≠ 0)
  | .real mantissa _ => some (mantissa ≠ 0)
  | _ => none

/-! Numbers. jsoncpp's parser keeps an integer in an `int` when it fits in 64 signed bits and in
a `uint` above that; the limits below are `Value::minInt`, `Value::maxInt` and their kin. -/

def minInt : Int := -2147483648
def maxInt : Int := 2147483647
def maxUInt : Int := 4294967295
def minInt64 : Int := -9223372036854775808
def maxUInt64 : Int := 18446744073709551615

/-- The real `mantissa * 10 ^ exponent` as the fraction `num / den`. -/
def realFraction (mantissa exponent : Int) : Int × Nat :=
  match exponent with
  | .ofNat e => (mantissa * Nat.pow 10 e, 1)
  | .negSucc e => (mantissa, Nat.pow 10 (e + 1))

/-- `InRange(d, min, max)`: `min <= d && d <= max`. -/
def realInRange (mantissa exponent low high : Int) : Bool :=
  match realFraction mantissa exponent with
  | (num, den) => decide (low * den ≤ num) && decide (num ≤ high * den)

/-- `IsIntegral(d)`: no fractional part. -/
def realIsIntegral (mantissa exponent : Int) : Bool :=
  match realFraction mantissa exponent with
  | (num, den) => num.tmod den == 0

/-- The cast of a double to an integer type, which truncates toward zero. -/
def realTruncate (mantissa exponent : Int) : Int :=
  match realFraction mantissa exponent with
  | (num, den) => num.tdiv den

/-- `isDouble`, which is also `isNumeric` in jsoncpp 1.x: an int, uint or real, never a bool. -/
def isDouble : Value → Bool
  | .int _ | .uint _ | .real _ _ => true
  | _ => false

def isNumeric (v : Value) : Bool := v.isDouble

def isInt : Value → Bool
  | .int value => decide (minInt ≤ value ∧ value ≤ maxInt)
  | .uint value => decide ((value : Int) ≤ maxInt)
  | .real mantissa exponent =>
    realInRange mantissa exponent minInt maxInt && realIsIntegral mantissa exponent
  | _ => false

/-- `isIntegral`: an int or uint, or an integral real in `[minInt64, 2^64)`. For an integral real
the bound `< 2^64` is `≤ maxUInt64`. -/
def isIntegral : Value → Bool
  | .int _ | .uint _ => true
  | .real mantissa exponent =>
    realInRange mantissa exponent minInt64 maxUInt64 && realIsIntegral mantissa exponent
  | _ => false

/-- `asInt`: throws outside the 32-bit range and on strings, arrays and objects. -/
def asInt : Value → Option Int
  | .null => some 0
  | .bool value => some (if value then 1 else 0)
  | .int value => if minInt ≤ value ∧ value ≤ maxInt then some value else none
  | .uint value => if (value : Int) ≤ maxInt then some value else none
  | .real mantissa exponent =>
    if realInRange mantissa exponent minInt maxInt then some (realTruncate mantissa exponent)
    else none
  | _ => none

/-- `asUInt`: throws outside `[0, maxUInt]` and on strings, arrays and objects. -/
def asUInt : Value → Option UInt32
  | .null => some 0
  | .bool value => some (if value then 1 else 0)
  | .int value => if 0 ≤ value ∧ value ≤ maxUInt then some value.toNat.toUInt32 else none
  | .uint value => if (value : Int) ≤ maxUInt then some value.toUInt32 else none
  | .real mantissa exponent =>
    if realInRange mantissa exponent 0 maxUInt then
      some (realTruncate mantissa exponent).toNat.toUInt32
    else none
  | _ => none

/-- `asUInt64`: throws on a negative int, a real outside `[0, maxUInt64]` and on strings, arrays
and objects. -/
def asUInt64 : Value → Option UInt64
  | .null => some 0
  | .bool value => some (if value then 1 else 0)
  | .int value => if 0 ≤ value then some value.toNat.toUInt64 else none
  | .uint value => some value.toUInt64
  | .real mantissa exponent =>
    if realInRange mantissa exponent 0 maxUInt64 then
      some (realTruncate mantissa exponent).toNat.toUInt64
    else none
  | _ => none

/-- `asString`. The text of a real, printed to 17 significant digits, is not modelled: every call
here follows an `isString`. -/
def asString : Value → Option String
  | .null => some ""
  | .bool value => some (if value then "true" else "false")
  | .int value => some (toString value)
  | .uint value => some (toString value)
  | .string value => some value
  | _ => none

/-- `operator[]` with a key, read: null gives null and an object its member or null; jsoncpp
throws on any other kind. -/
def index? : Value → String → Option Value
  | .null, _ => some .null
  | .object members, key => some ((Members.find members key).getD .null)
  | _, _ => none

/-- Writing through the non-const `operator[]` with a key: a null value becomes an object first;
jsoncpp throws on any kind other than null and object. -/
def modifyMember (v : Value) (key : String) (f : Value → Option Value) : Option Value :=
  match v with
  | .null => (f .null).map fun member => .object [(key, member)]
  | .object members =>
    (f ((Members.find members key).getD .null)).map fun member =>
      .object (Members.insert members key member)
  | _ => none

/-- Writing through the non-const `operator[]` with an index: a null value becomes an array
first, and an index past the end grows the array with nulls; jsoncpp throws on any kind other than
null and array. -/
def modifyIndex (v : Value) (index : Nat) (f : Value → Option Value) : Option Value :=
  match v with
  | .null => (f .null).map fun item => .array (List.replicate index .null ++ [item])
  | .array items =>
    if index < items.length then
      (f (items.getD index .null)).map fun item => .array (items.set index item)
    else
      (f .null).map fun item => .array (items ++ List.replicate (index - items.length) .null ++ [item])
  | _ => none

@[simp] theorem get_null (key : String) : Value.null.get key = .null := rfl

@[simp] theorem modifyMember_null (key : String) (f : Value → Option Value) :
    Value.null.modifyMember key f = (f .null).map fun member => .object [(key, member)] := rfl

@[simp] theorem modifyMember_object (members : List (String × Value)) (key : String)
    (f : Value → Option Value) :
    (Value.object members).modifyMember key f =
      (f ((Members.find members key).getD .null)).map fun member =>
        .object (Members.insert members key member) := rfl

@[simp] theorem get_object (members : List (String × Value)) (key : String) :
    (Value.object members).get key = (Members.find members key).getD .null := rfl

@[simp] theorem isMember_object (members : List (String × Value)) (key : String) :
    (Value.object members).isMember key = (Members.find members key).isSome := rfl

/-! ### The values jsoncpp holds -/

mutual
/-- Every object inside the value has its keys strictly ascending, as a `std::map` keeps them. -/
def sortedKeys : Value → Bool
  | .array items => sortedItems items
  | .object members => decide (Members.Ordered members) && sortedMembers members
  | _ => true

def sortedItems : List Value → Bool
  | [] => true
  | item :: rest => sortedKeys item && sortedItems rest

def sortedMembers : List (String × Value) → Bool
  | [] => true
  | (_, member) :: rest => sortedKeys member && sortedMembers rest
end

theorem sortedItems_iff {items : List Value} :
    sortedItems items = true ↔ ∀ item ∈ items, item.sortedKeys = true := by
  induction items with
  | nil => simp [sortedItems]
  | cons item rest ih => simp [sortedItems, ih]

theorem sortedMembers_iff {members : List (String × Value)} :
    sortedMembers members = true ↔ ∀ member ∈ members, member.2.sortedKeys = true := by
  induction members with
  | nil => simp [sortedMembers]
  | cons member rest ih => simp [sortedMembers, ih]

@[simp] theorem sortedKeys_array {items : List Value} :
    (Value.array items).sortedKeys = true ↔ ∀ item ∈ items, item.sortedKeys = true :=
  sortedItems_iff

@[simp] theorem sortedKeys_object {members : List (String × Value)} :
    (Value.object members).sortedKeys = true ↔
      Members.Ordered members ∧ ∀ member ∈ members, member.2.sortedKeys = true := by
  show (decide (Members.Ordered members) && sortedMembers members) = true ↔ _
  simp only [Bool.and_eq_true, decide_eq_true_eq, sortedMembers_iff]

theorem sortedKeys_find {members : List (String × Value)} {key : String} {member : Value}
    (sorted : ∀ member ∈ members, member.2.sortedKeys = true)
    (found : Members.find members key = some member) : member.sortedKeys = true := by
  induction members with
  | nil => cases found
  | cons entry rest ih =>
    simp only [Members.find] at found
    split_ifs at found
    · cases found
      exact sorted entry (.head _)
    · exact ih (fun m mem => sorted m (.tail _ mem)) found

theorem sortedKeys_get {v : Value} (sorted : v.sortedKeys = true) (key : String) :
    (v.get key).sortedKeys = true := by
  cases v with
  | object members =>
    cases found : Members.find members key with
    | none => rw [get_object, found]; rfl
    | some member => rw [get_object, found]; exact sortedKeys_find (sortedKeys_object.mp sorted).2 found
  | _ => rfl

/-- A write whose new member or item jsoncpp can hold keeps the whole value one it can hold. -/
def KeepsSorted (f : Value → Option Value) : Prop :=
  ∀ old new, old.sortedKeys = true → f old = some new → new.sortedKeys = true

theorem sortedKeys_modifyMember {v w : Value} {key : String} {f : Value → Option Value}
    (sorted : v.sortedKeys = true) (keeps : KeepsSorted f) (written : v.modifyMember key f = some w) :
    w.sortedKeys = true := by
  cases v with
  | null =>
    obtain ⟨member, made, rfl⟩ := Option.map_eq_some'.mp written
    simp [Members.Ordered, keeps .null member rfl made]
  | object members =>
    obtain ⟨member, made, rfl⟩ := Option.map_eq_some'.mp written
    obtain ⟨ordered, inner⟩ := sortedKeys_object.mp sorted
    have new := keeps _ member (sortedKeys_get sorted key) made
    refine sortedKeys_object.mpr ⟨ordered.insert key member, fun entry mem => ?_⟩
    rcases Members.mem_insert mem with rfl | old
    exacts [new, inner entry old]
  | _ => cases written

theorem sortedKeys_modifyIndex {v w : Value} {index : Nat} {f : Value → Option Value}
    (sorted : v.sortedKeys = true) (keeps : KeepsSorted f) (written : v.modifyIndex index f = some w) :
    w.sortedKeys = true := by
  cases v with
  | null =>
    obtain ⟨item, made, rfl⟩ := Option.map_eq_some'.mp written
    have new := keeps .null item rfl made
    simp only [sortedKeys_array, List.mem_append, List.mem_replicate, List.mem_singleton]
    rintro _ (⟨-, rfl⟩ | rfl)
    exacts [rfl, new]
  | array items =>
    have old := sortedKeys_array.mp sorted
    simp only [modifyIndex] at written
    split_ifs at written with inside
    · obtain ⟨item, made, rfl⟩ := Option.map_eq_some'.mp written
      have present : items.getD index .null ∈ items := by
        simp [List.getElem?_eq_getElem inside]
      have new := keeps _ item (old _ present) made
      refine sortedKeys_array.mpr fun entry mem => ?_
      rcases List.mem_or_eq_of_mem_set mem with kept | rfl
      exacts [old entry kept, new]
    · obtain ⟨item, made, rfl⟩ := Option.map_eq_some'.mp written
      have new := keeps .null item rfl made
      simp only [sortedKeys_array, List.mem_append, List.mem_replicate, List.mem_singleton]
      rintro _ ((kept | ⟨-, rfl⟩) | rfl)
      exacts [old _ kept, rfl, new]
  | _ => cases written

end Value

/-- A value jsoncpp can hold: the subtype the readers and writers of `Value` stay inside. -/
def Json := {v : Value // v.sortedKeys = true}

namespace Json

def get (v : Json) (key : String) : Json := ⟨v.1.get key, Value.sortedKeys_get v.2 key⟩

def modifyMember (v : Json) (key : String) (f : Value → Option Value) (keeps : Value.KeepsSorted f) :
    Option Json :=
  match written : v.1.modifyMember key f with
  | some w => some ⟨w, Value.sortedKeys_modifyMember v.2 keeps written⟩
  | none => none

def modifyIndex (v : Json) (index : Nat) (f : Value → Option Value) (keeps : Value.KeepsSorted f) :
    Option Json :=
  match written : v.1.modifyIndex index f with
  | some w => some ⟨w, Value.sortedKeys_modifyIndex v.2 keeps written⟩
  | none => none

theorem modifyMember_val (v : Json) (key : String) {f : Value → Option Value} (keeps : Value.KeepsSorted f) :
    (v.modifyMember key f keeps).map Subtype.val = v.1.modifyMember key f := by
  unfold modifyMember
  split <;> simp_all

theorem modifyIndex_val (v : Json) (index : Nat) {f : Value → Option Value} (keeps : Value.KeepsSorted f) :
    (v.modifyIndex index f keeps).map Subtype.val = v.1.modifyIndex index f := by
  unfold modifyIndex
  split <;> simp_all

end Json

/-! ### Exceptions

What a C++ function throws is the `error` of an `Except`; a chain of calls that may throw is a
chain of binds, peeled one call at a time by these two lemmas. -/

theorem except_bind_eq_ok {ε α β : Type} {x : Except ε α} {f : α → Except ε β} {b : β} :
    x >>= f = .ok b ↔ ∃ a, x = .ok a ∧ f a = .ok b := by
  cases x <;> simp [bind, Except.bind]

theorem except_bind_eq_error {ε α β : Type} {x : Except ε α} {f : α → Except ε β} {e : ε} :
    x >>= f = .error e ↔ x = .error e ∨ ∃ a, x = .ok a ∧ f a = .error e := by
  cases x <;> simp [bind, Except.bind]

end Arras4.Node
