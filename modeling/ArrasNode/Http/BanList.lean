import Mathlib.Data.String.Basic

/-! `BanList` (BanList.cc): per source address, the count of unknown-endpoint requests and the
time of the latest. The count is the entry's `unsigned int`, so `count++` wraps modulo 2^32.
Times are `std::chrono::system_clock` time points in nanoseconds; `hasExpired` compares their
difference with `secToUnBan` seconds. Every call takes the clock's reading when it runs. -/
namespace Arras4.Node

def nanosPerSecond : Nat := 1000000000

structure BanListEntry where
  count : UInt32
  timeStamp : Nat
deriving DecidableEq, Repr

/-- `BanListMap`, the `std::map` from source address to entry, in ascending key order. -/
abbrev BanListMap := List (String × BanListEntry)

namespace BanListMap

def find : BanListMap → String → Option BanListEntry
  | [], _ => none
  | (k, v) :: rest, key => if key = k then some v else find rest key

/-- `map[key] = value`, or the entry an iterator points at, assigned in place. -/
def insert : BanListMap → String → BanListEntry → BanListMap
  | [], key, value => [(key, value)]
  | (k, v) :: rest, key, value =>
    if key < k then (key, value) :: (k, v) :: rest
    else if key = k then (key, value) :: rest
    else (k, v) :: insert rest key value

def erase (m : BanListMap) (key : String) : BanListMap :=
  m.filter fun entry => entry.1 ≠ key

@[simp] theorem find_nil (key : String) : find [] key = none := rfl

@[simp] theorem find_insert (m : BanListMap) (key : String) (value : BanListEntry) (k : String) :
    (m.insert key value).find k = if k = key then some value else m.find k := by
  induction m with
  | nil => simp [insert, find]
  | cons entry rest ih =>
    obtain ⟨k', v'⟩ := entry
    simp only [insert]
    split_ifs <;> simp_all [find]

@[simp] theorem find_erase (m : BanListMap) (key k : String) :
    (m.erase key).find k = if k = key then none else m.find k := by
  induction m with
  | nil => simp [erase, find]
  | cons entry rest ih =>
    obtain ⟨k', v'⟩ := entry
    simp only [erase] at ih
    by_cases kept : k' = key <;> by_cases same : k = k' <;> simp_all [erase, find, List.filter_cons]

/-- Keys strictly ascending: the shape of a `std::map`, which every call keeps. -/
def Ordered (m : BanListMap) : Prop := (m.map Prod.fst).Pairwise (· < ·)

theorem find_eq_none_of_not_mem {m : BanListMap} {k : String} (absent : k ∉ m.map Prod.fst) :
    m.find k = none := by
  induction m with
  | nil => rfl
  | cons entry rest ih =>
    simp only [List.map_cons, List.mem_cons, not_or] at absent
    simp [find, absent.1, ih absent.2]

theorem mem_keys_insert {m : BanListMap} {key k : String} {value : BanListEntry}
    (member : k ∈ (m.insert key value).map Prod.fst) : k = key ∨ k ∈ m.map Prod.fst := by
  induction m with
  | nil => simpa [insert] using member
  | cons entry rest ih =>
    obtain ⟨k', v'⟩ := entry
    simp only [insert] at member
    split_ifs at member <;> simp only [List.map_cons, List.mem_cons] at member ⊢ <;> tauto

theorem Ordered.insert {m : BanListMap} (ordered : m.Ordered) (key : String) (value : BanListEntry) :
    (m.insert key value).Ordered := by
  induction m with
  | nil => simp [BanListMap.insert, Ordered]
  | cons entry rest ih =>
    obtain ⟨k', v'⟩ := entry
    simp only [Ordered, List.map_cons, List.pairwise_cons] at ordered
    simp only [BanListMap.insert]
    split_ifs with below same
    · simp only [Ordered, List.map_cons, List.pairwise_cons, List.mem_cons] at ordered ⊢
      refine ⟨?_, ordered.1, ordered.2⟩
      rintro x (rfl | later)
      · exact below
      · exact below.trans (ordered.1 x later)
    · subst same
      simpa [Ordered] using ordered
    · simp only [Ordered, List.map_cons, List.pairwise_cons] at ih ⊢
      refine ⟨fun x member => ?_, ih ordered.2⟩
      rcases mem_keys_insert member with rfl | later
      · exact lt_of_le_of_ne (not_lt.mp below) (Ne.symm same)
      · exact ordered.1 x later

theorem Ordered.filter {m : BanListMap} (ordered : m.Ordered) (keep : String × BanListEntry → Bool) :
    Ordered (m.filter keep) :=
  ordered.sublist ((List.filter_sublist m).map Prod.fst)

theorem find_filter {m : BanListMap} (ordered : m.Ordered) (keep : String × BanListEntry → Bool)
    (k : String) :
    find (m.filter keep) k = (m.find k).bind fun v => if keep (k, v) then some v else none := by
  induction m with
  | nil => rfl
  | cons entry rest ih =>
    obtain ⟨k', v'⟩ := entry
    simp only [Ordered, List.map_cons, List.pairwise_cons] at ordered
    have restFind := ih ordered.2
    by_cases same : k = k'
    · subst same
      have absent : find rest k = none :=
        find_eq_none_of_not_mem fun member => lt_irrefl k (ordered.1 k member)
      by_cases kept : keep (k, v') <;> simp [find, List.filter_cons, kept, restFind, absent]
    · by_cases kept : keep (k', v') <;> simp [find, List.filter_cons, kept, restFind, same]

end BanListMap

structure BanList where
  countToBan : UInt32
  secToUnBan : Nat
  entries : BanListMap
deriving DecidableEq, Repr

namespace BanList

def create (countToBan : UInt32) (secToUnBan : Nat) : BanList := ⟨countToBan, secToUnBan, []⟩

/-- `NodeService`'s ban list: the constructor's defaults, `BanList(5, 300)`. -/
def nodeServiceDefault : BanList := create 5 300

variable (banList : BanList) (now : Nat)

/-- `BanList::hasExpired`: strictly more than `secToUnBan` seconds since the time stamp. -/
def hasExpired (timeStamp : Nat) : Bool :=
  decide (now - timeStamp > banList.secToUnBan * nanosPerSecond)

/-- `BanList::isBanned`: an expired entry is erased; the first request that finds the count at
`countToBan` increments it and restarts its clock (the start of the ban). -/
def isBanned (sourceAddr : String) : BanList × Bool :=
  match banList.entries.find sourceAddr with
  | none => (banList, false)
  | some entry =>
    if banList.hasExpired now entry.timeStamp then
      ({ banList with entries := banList.entries.erase sourceAddr }, false)
    else if entry.count = banList.countToBan then
      let banning : BanListEntry := ⟨entry.count + 1, now⟩
      ({ banList with entries := banList.entries.insert sourceAddr banning },
        decide (banning.count ≥ banList.countToBan))
    else (banList, decide (entry.count ≥ banList.countToBan))

/-- `BanList::track`: a new entry starts at one, an existing one counts on. -/
def track (sourceAddr : String) : BanList :=
  match banList.entries.find sourceAddr with
  | none => { banList with entries := banList.entries.insert sourceAddr ⟨1, now⟩ }
  | some entry => { banList with entries := banList.entries.insert sourceAddr ⟨entry.count + 1, now⟩ }

/-- `BanList::cleanup`: erases every expired entry. -/
def cleanup : BanList :=
  { banList with entries := banList.entries.filter fun entry => !banList.hasExpired now entry.2.timeStamp }

/-- `BanList::getSummary`: after `cleanup`, the banned addresses (count at least `countToBan`)
and the others. -/
def getSummary : BanList × List String × List String :=
  let cleaned := banList.cleanup now
  (cleaned, (cleaned.entries.filter fun entry => entry.2.count ≥ banList.countToBan).map (·.1),
    (cleaned.entries.filter fun entry => entry.2.count < banList.countToBan).map (·.1))

@[simp] theorem getSummary_fst : (banList.getSummary now).1 = banList.cleanup now := rfl

@[simp] theorem isBanned_countToBan (sourceAddr : String) :
    (banList.isBanned now sourceAddr).1.countToBan = banList.countToBan := by
  unfold isBanned; split <;> (try split_ifs) <;> rfl

@[simp] theorem isBanned_secToUnBan (sourceAddr : String) :
    (banList.isBanned now sourceAddr).1.secToUnBan = banList.secToUnBan := by
  unfold isBanned; split <;> (try split_ifs) <;> rfl

@[simp] theorem track_countToBan (sourceAddr : String) :
    (banList.track now sourceAddr).countToBan = banList.countToBan := by
  unfold track; split <;> rfl

@[simp] theorem track_secToUnBan (sourceAddr : String) :
    (banList.track now sourceAddr).secToUnBan = banList.secToUnBan := by
  unfold track; split <;> rfl

@[simp] theorem cleanup_countToBan : (banList.cleanup now).countToBan = banList.countToBan := rfl

@[simp] theorem cleanup_secToUnBan : (banList.cleanup now).secToUnBan = banList.secToUnBan := rfl

/-- The calls on one address leave every other address's entry alone. -/
theorem find_isBanned_of_ne {sourceAddr other : String} (distinct : other ≠ sourceAddr) :
    (banList.isBanned now sourceAddr).1.entries.find other = banList.entries.find other := by
  unfold isBanned; split <;> (try split_ifs) <;> simp [distinct]

theorem find_track_of_ne {sourceAddr other : String} (distinct : other ≠ sourceAddr) :
    (banList.track now sourceAddr).entries.find other = banList.entries.find other := by
  unfold track; split <;> simp [distinct]

theorem find_cleanup (ordered : banList.entries.Ordered) (sourceAddr : String) :
    (banList.cleanup now).entries.find sourceAddr =
      (banList.entries.find sourceAddr).bind fun entry =>
        if banList.hasExpired now entry.timeStamp then none else some entry := by
  simp only [cleanup, BanListMap.find_filter ordered]
  cases banList.entries.find sourceAddr with
  | none => rfl
  | some entry => by_cases expired : banList.hasExpired now entry.timeStamp <;> simp [expired]

theorem ordered_isBanned (ordered : banList.entries.Ordered) (sourceAddr : String) :
    (banList.isBanned now sourceAddr).1.entries.Ordered := by
  unfold isBanned
  split
  · exact ordered
  · split_ifs
    exacts [ordered.filter _, ordered.insert _ _, ordered]

theorem ordered_track (ordered : banList.entries.Ordered) (sourceAddr : String) :
    (banList.track now sourceAddr).entries.Ordered := by
  unfold track; split <;> exact ordered.insert _ _

theorem ordered_cleanup (ordered : banList.entries.Ordered) : (banList.cleanup now).entries.Ordered :=
  ordered.filter _

end BanList

end Arras4.Node
