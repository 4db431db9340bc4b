import ArrasNode.Router.Address

/-! `std::map` keyed by `UUID`, as an association list in ascending key order. Lookups, `[]`
assignment, `erase` and the non-overwriting `insert` are the operations the router uses; every
lemma below is stated through `find`, so no proof depends on the order of the entries. -/
namespace Arras4

/-- `std::map<api::UUID, α>`. -/
abbrev UuidMap (α : Type) := List (Uuid × α)

namespace UuidMap

variable {α β : Type}

/-- `map.find(key)`. -/
def find : UuidMap α → Uuid → Option α
  | [], _ => none
  | (k, v) :: rest, key => if key = k then some v else find rest key

/-- `map[key] = value`: replaces the entry of `key`, or inserts one in key order. -/
def insert : UuidMap α → Uuid → α → UuidMap α
  | [], key, value => [(key, value)]
  | (k, v) :: rest, key, value =>
    if key < k then (key, value) :: (k, v) :: rest
    else if key = k then (key, value) :: rest
    else (k, v) :: insert rest key value

/-- `map.insert(value_type(key, value))`, which never overwrites an entry. -/
def insertNew (m : UuidMap α) (key : Uuid) (value : α) : UuidMap α :=
  if (m.find key).isSome then m else m.insert key value

/-- `map.erase(key)`. -/
def erase (m : UuidMap α) (key : Uuid) : UuidMap α :=
  m.filter fun entry => entry.1 ≠ key

/-- `map[key].push_back(a)` on a map of lists; `operator[]` starts a missing list empty. -/
def push (m : UuidMap (List β)) (key : Uuid) (a : β) : UuidMap (List β) :=
  m.insert key ((m.find key).getD [] ++ [a])

def keys (m : UuidMap α) : List Uuid := m.map Prod.fst

@[simp] theorem find_nil (key : Uuid) : find ([] : UuidMap α) key = none := rfl

@[simp] theorem find_insert (m : UuidMap α) (key : Uuid) (value : α) (k : Uuid) :
    (m.insert key value).find k = if k = key then some value else m.find k := by
  induction m with
  | nil => simp [insert, find]
  | cons entry rest ih =>
    obtain ⟨k', v'⟩ := entry
    simp only [insert]
    split_ifs <;> simp_all [find]

@[simp] theorem find_erase (m : UuidMap α) (key k : Uuid) :
    (m.erase key).find k = if k = key then none else m.find k := by
  induction m with
  | nil => simp [erase, find]
  | cons entry rest ih =>
    obtain ⟨k', v'⟩ := entry
    simp only [erase] at ih
    by_cases kept : k' = key <;> by_cases same : k = k' <;> simp_all [erase, find, List.filter_cons]

theorem find_insertNew (m : UuidMap α) (key : Uuid) (value : α) (k : Uuid) :
    (m.insertNew key value).find k =
      if k = key then some ((m.find key).getD value) else m.find k := by
  unfold insertNew
  cases found : m.find key <;> by_cases same : k = key <;> simp_all

@[simp] theorem find_push (m : UuidMap (List β)) (key : Uuid) (a : β) (k : Uuid) :
    ((m.push key a).find k).getD [] =
      if k = key then (m.find k).getD [] ++ [a] else (m.find k).getD [] := by
  unfold push
  by_cases same : k = key <;> simp [same]

@[simp] theorem isSome_find_push (m : UuidMap (List β)) (key : Uuid) (a : β) (k : Uuid) :
    ((m.push key a).find k).isSome = (decide (k = key) || (m.find k).isSome) := by
  unfold push
  by_cases same : k = key <;> simp [same]

/-- Assigning entries in order: each key ends with the value of its last entry. -/
theorem find_foldl_insert_pairs (entries : List (Uuid × α)) (m : UuidMap α) (k : Uuid) :
    (entries.foldl (fun m entry => m.insert entry.1 entry.2) m).find k =
      ((entries.reverse.find? (·.1 = k)).map Prod.snd).or (m.find k) := by
  induction entries generalizing m with
  | nil => simp
  | cons entry rest ih =>
    rw [List.foldl_cons, ih, List.reverse_cons, List.find?_append, find_insert]
    cases rest.reverse.find? (·.1 = k) <;> by_cases same : k = entry.1 <;> simp [same, eq_comm]

theorem mem_keys {m : UuidMap α} {key : Uuid} : key ∈ m.keys ↔ (m.find key).isSome := by
  induction m with
  | nil => simp [keys]
  | cons entry rest ih =>
    obtain ⟨k', v'⟩ := entry
    by_cases same : key = k' <;> simp_all [keys, find]

/-- Keys strictly ascending: the shape every map built by `insert` keeps. -/
def Ordered (m : UuidMap α) : Prop := m.keys.Pairwise (· < ·)

theorem mem_keys_insert {m : UuidMap α} {key k : Uuid} {value : α}
    (member : k ∈ (m.insert key value).keys) : k = key ∨ k ∈ m.keys := by
  by_cases same : k = key
  · exact .inl same
  · exact .inr (mem_keys.mpr (by simpa [same] using mem_keys.mp member))

theorem Ordered.insert {m : UuidMap α} (ordered : m.Ordered) (key : Uuid) (value : α) :
    (m.insert key value).Ordered := by
  induction m with
  | nil => simp [UuidMap.insert, Ordered, keys]
  | cons entry rest ih =>
    obtain ⟨k', v'⟩ := entry
    simp only [Ordered, keys, List.map_cons, List.pairwise_cons] at ordered
    simp only [UuidMap.insert]
    split_ifs with below same
    · simp only [Ordered, keys, List.map_cons, List.pairwise_cons, List.mem_cons] at ordered ⊢
      refine ⟨?_, ordered.1, ordered.2⟩
      rintro x (rfl | later)
      · exact below
      · exact below.trans (ordered.1 x later)
    · subst same
      simpa [Ordered, keys] using ordered
    · simp only [Ordered, keys, List.map_cons, List.pairwise_cons] at ih ⊢
      refine ⟨fun x member => ?_, ih ordered.2⟩
      rcases mem_keys_insert member with rfl | later
      · exact Nat.lt_of_le_of_ne (Nat.not_lt.mp below) (Ne.symm same)
      · exact ordered.1 x later

theorem mem_insert {m : UuidMap α} {key : Uuid} {value : α} {entry : Uuid × α}
    (member : entry ∈ m.insert key value) : entry = (key, value) ∨ entry ∈ m := by
  induction m with
  | nil => simpa [UuidMap.insert] using member
  | cons head rest ih =>
    simp only [UuidMap.insert] at member
    split_ifs at member <;> simp only [List.mem_cons] at member ⊢
    · tauto
    · tauto
    · rcases member with rfl | later
      · exact .inr (.inl rfl)
      · exact (ih later).imp id .inr

theorem Ordered.nodup {m : UuidMap α} (ordered : m.Ordered) : m.keys.Nodup :=
  ordered.imp (fun less => Nat.ne_of_lt less)

theorem Ordered.push {m : UuidMap (List β)} (ordered : m.Ordered) (key : Uuid) (a : β) :
    (m.push key a).Ordered :=
  ordered.insert _ _

theorem Ordered.erase {m : UuidMap α} (ordered : m.Ordered) (key : Uuid) : (m.erase key).Ordered :=
  List.Pairwise.sublist ((List.filter_sublist m).map Prod.fst) ordered

theorem Ordered.foldl_insert {m : UuidMap α} (ordered : m.Ordered) (entries : List (Uuid × α)) :
    (entries.foldl (fun m entry => m.insert entry.1 entry.2) m).Ordered := by
  induction entries generalizing m with
  | nil => exact ordered
  | cons entry rest ih => exact ih (ordered.insert _ _)

theorem find_of_mem {m : UuidMap α} (nodup : m.keys.Nodup) {key : Uuid} {value : α}
    (member : (key, value) ∈ m) : m.find key = some value := by
  induction m with
  | nil => simp at member
  | cons entry rest ih =>
    obtain ⟨k', v'⟩ := entry
    simp only [keys, List.map_cons, List.nodup_cons] at nodup
    rcases List.mem_cons.mp member with same | later
    · cases same
      simp [find]
    · have other : key ≠ k' := fun same => nodup.1 (same ▸ List.mem_map_of_mem _ later)
      simpa [find, other] using ih nodup.2 later

theorem mem_of_find {m : UuidMap α} {key : Uuid} {value : α} (found : m.find key = some value) :
    (key, value) ∈ m := by
  induction m with
  | nil => simp at found
  | cons entry rest ih =>
    obtain ⟨k', v'⟩ := entry
    by_cases same : key = k' <;> simp_all [find]

/-- An ordered map whose keys are exactly the members of a duplicate-free list lists them in some
order. -/
theorem Ordered.keys_perm {m : UuidMap α} (ordered : m.Ordered) {l : List Uuid} (nodup : l.Nodup)
    (same : ∀ k, (m.find k).isSome ↔ k ∈ l) : m.keys.Perm l :=
  (List.perm_ext_iff_of_nodup ordered.nodup nodup).mpr fun k => mem_keys.trans (same k)

/-- A pass over the entries that reads each value as a function of its key is a pass over the
keys. -/
theorem filterMap_eq_keys {m : UuidMap α} (nodup : m.keys.Nodup)
    (f : Uuid → α → Option β) (g : Uuid → α) (values : ∀ k v, m.find k = some v → v = g k) :
    m.filterMap (fun entry => f entry.1 entry.2) = m.keys.filterMap (fun k => f k (g k)) := by
  rw [keys, List.filterMap_map]
  exact List.filterMap_congr fun entry member => by
    rw [values _ _ (find_of_mem nodup member)]
    rfl

end UuidMap

end Arras4
