import ArrasNode.Json.Value
import Mathlib.Data.Nat.Digits

/-! The node's memory and core budget (`ArrasNode::calcResources`) and the parse of its memory
options (`memoryFromString`, through `std::stol`, whose result is converted to `unsigned long` and
shifted modulo 2^64). The host's physical memory and core count are parameters. -/
namespace Arras4.Node

def unsignedLongRange : Nat := 18446744073709551616

def longBound : Nat := 9223372036854775808

/-- What `std::stol` throws: `std::invalid_argument` when no digit is read, `std::out_of_range`
when the value does not fit in `long`. -/
inductive StolError
  | invalidArgument
  | outOfRange
deriving DecidableEq, Repr

def isSpace (c : Char) : Bool :=
  c = ' ' || c = '\t' || c = '\n' || c = '\x0b' || c = '\x0c' || c = '\r'

/-- The decimal digits at the head of the text: the value they extend `acc` to, and their count. -/
def readDigits : List Char → Nat → Nat → Nat × Nat
  | c :: rest, acc, count =>
    if c.isDigit then readDigits rest (acc * 10 + (c.toNat - '0'.toNat)) (count + 1) else (acc, count)
  | [], acc, count => (acc, count)

def readSign : List Char → Bool × List Char
  | '-' :: rest => (true, rest)
  | '+' :: rest => (false, rest)
  | cs => (false, cs)

/-- `std::stol(s)`, base 10. -/
def stol (s : String) : Except StolError Int :=
  let (negative, rest) := readSign (s.data.dropWhile isSpace)
  let (value, count) := readDigits rest 0 0
  if count = 0 then .error .invalidArgument
  else
    let n : Int := if negative then -value else value
    if n < -(longBound : Int) ∨ (longBound : Int) ≤ n then .error .outOfRange else .ok n

def unsignedLong (x : Int) : Nat := (x % unsignedLongRange).toNat

/-- `memoryFromString`: empty is 0; otherwise `std::stol`, shifted by 10, 20 or 30 bits for a
last character `k`, `m` or `g` in either case. -/
def memoryFromString (s : String) : Except StolError Nat :=
  match s.data.getLast? with
  | none => .ok 0
  | some unit => do
    let n := unsignedLong (← stol s)
    if unit = 'k' ∨ unit = 'K' then pure ((n <<< 10) % unsignedLongRange)
    else if unit = 'm' ∨ unit = 'M' then pure ((n <<< 20) % unsignedLongRange)
    else if unit = 'g' ∨ unit = 'G' then pure ((n <<< 30) % unsignedLongRange)
    else pure n

def unitBits (unit : Char) : Nat :=
  if unit = 'k' ∨ unit = 'K' then 10 else if unit = 'm' ∨ unit = 'M' then 20
  else if unit = 'g' ∨ unit = 'G' then 30 else 0

/-! ### Reading a decimal back -/

theorem digitChar_isDigit : ∀ d, d < 10 → (Nat.digitChar d).isDigit = true := by decide

theorem digitChar_value : ∀ d, d < 10 → (Nat.digitChar d).toNat - '0'.toNat = d := by decide

theorem isSpace_of_isDigit {c : Char} (digit : c.isDigit = true) : isSpace c = false := by
  cases space : isSpace c
  · rfl
  · simp only [isSpace, Bool.or_eq_true, decide_eq_true_eq] at space
    rcases space with ((((rfl | rfl) | rfl) | rfl) | rfl) | rfl <;> exact absurd digit (by decide)

theorem toDigitsCore_isDigit : ∀ fuel n ds, (∀ c ∈ ds, c.isDigit = true) →
    ∀ c ∈ Nat.toDigitsCore 10 fuel n ds, c.isDigit = true
  | 0, _, _, digits => digits
  | fuel + 1, n, ds, digits => by
    have digit := digitChar_isDigit (n % 10) (Nat.mod_lt _ (by decide))
    simp only [Nat.toDigitsCore]
    split_ifs
    · exact List.forall_mem_cons.mpr ⟨digit, digits⟩
    · exact toDigitsCore_isDigit fuel _ _ (List.forall_mem_cons.mpr ⟨digit, digits⟩)

theorem readDigits_toDigitsCore (rest : List Char) : ∀ fuel n ds, n < fuel →
    ∃ k, 0 < k ∧ ∀ acc count, readDigits (Nat.toDigitsCore 10 fuel n ds ++ rest) acc count =
      readDigits (ds ++ rest) (acc * Nat.pow 10 k + n) (count + k)
  | 0, n, _, enough => absurd enough (Nat.not_lt_zero n)
  | fuel + 1, n, ds, enough => by
    have digit := digitChar_isDigit (n % 10) (Nat.mod_lt _ (by decide))
    have value := digitChar_value (n % 10) (Nat.mod_lt _ (by decide))
    simp only [Nat.toDigitsCore]
    split_ifs with last
    · refine ⟨1, Nat.one_pos, fun acc count => ?_⟩
      rw [List.cons_append, readDigits, if_pos digit, value, show Nat.pow 10 1 = 10 from rfl]
      congr 1
      all_goals omega
    · obtain ⟨k, positive, read⟩ :=
        readDigits_toDigitsCore rest fuel (n / 10) (Nat.digitChar (n % 10) :: ds) (by omega)
      refine ⟨k + 1, Nat.succ_pos k, fun acc count => ?_⟩
      rw [read, List.cons_append, readDigits, if_pos digit, value,
        show Nat.pow 10 (k + 1) = Nat.pow 10 k * 10 from rfl, ← Nat.mul_assoc]
      congr 1
      all_goals omega

theorem readDigits_repr (n : Nat) {rest : List Char} (noDigit : ∀ c ∈ rest.head?, c.isDigit = false) :
    ∃ k, 0 < k ∧ readDigits ((toString n).data ++ rest) 0 0 = (n, k) := by
  obtain ⟨k, positive, read⟩ := readDigits_toDigitsCore rest (n + 1) n [] (Nat.lt_succ_self n)
  refine ⟨k, positive, ?_⟩
  rw [show (toString n).data = Nat.toDigits 10 n from rfl, Nat.toDigits, read, List.nil_append,
    Nat.zero_mul, Nat.zero_add, Nat.zero_add]
  cases rest with
  | nil => rfl
  | cons c rest => simp [readDigits, noDigit c rfl]

theorem repr_head (n : Nat) : ∃ c cs, (toString n).data = c :: cs ∧ c.isDigit = true := by
  cases digits : (toString n).data with
  | nil =>
    obtain ⟨k, positive, read⟩ := @readDigits_repr n [] nofun
    rw [digits] at read
    cases read
    exact absurd positive (Nat.lt_irrefl 0)
  | cons c cs =>
    refine ⟨c, cs, rfl, toDigitsCore_isDigit (n + 1) n [] nofun c ?_⟩
    rw [show Nat.toDigitsCore 10 (n + 1) n [] = (toString n).data from rfl, digits]
    exact List.mem_cons_self c cs

theorem unsignedLong_lt (x : Int) : unsignedLong x < unsignedLongRange := by
  unfold unsignedLong unsignedLongRange
  omega

theorem readSign_of_isDigit {c : Char} (digit : c.isDigit = true) (l : List Char) :
    readSign (c :: l) = (false, c :: l) := by
  have minus : c ≠ '-' := by
    rintro rfl
    exact absurd digit (by decide)
  have plus : c ≠ '+' := by
    rintro rfl
    exact absurd digit (by decide)
  unfold readSign
  split <;> simp_all

theorem signed_data (negative : Bool) (s rest : String) :
    ((if negative then "-" else "") ++ s ++ rest).data =
      (if negative then ['-'] else []) ++ (s.data ++ rest.data) := by
  cases negative <;> rfl

/-- `std::stol` reads a decimal, with or without a minus sign, up to the first character that is
not a digit. -/
theorem stol_decimal {n : Nat} (small : n < longBound) (negative : Bool) {rest : String}
    (noDigit : ∀ c ∈ rest.data.head?, c.isDigit = false) :
    stol ((if negative then "-" else "") ++ toString n ++ rest) =
      .ok (if negative then -(n : Int) else n) := by
  obtain ⟨k, positive, read⟩ := readDigits_repr n noDigit
  obtain ⟨c, cs, digitsAre, digit⟩ := repr_head n
  have signed : readSign (((if negative then "-" else "") ++ toString n ++ rest).data.dropWhile isSpace) =
      (negative, (toString n).data ++ rest.data) := by
    rw [signed_data, digitsAre, List.cons_append]
    cases negative
    · show readSign ((c :: (cs ++ rest.data)).dropWhile isSpace) = _
      rw [List.dropWhile_cons_of_neg (by simp [isSpace_of_isDigit digit]), readSign_of_isDigit digit]
    · show readSign (('-' :: c :: (cs ++ rest.data)).dropWhile isSpace) = _
      rw [List.dropWhile_cons_of_neg (by decide)]
      rfl
  simp only [stol, signed, read, Nat.pos_iff_ne_zero.mp positive, if_false]
  cases negative
  · rw [if_neg (by omega)]
  · rw [if_neg (by omega)]

/-- A size written as a decimal, with or without a minus sign and followed by any text that does
not start with a digit, reads as the decimal shifted by the bits of the text's last character
(10, 20 or 30 for `k`, `m` or `g` in either case), modulo 2^64: "1.5g" is one GiB, and "-1k" is
2^64 - 1024. -/
theorem memoryFromString_decimal {n : Nat} {rest : String} {unit : Char} (small : n < longBound)
    (negative : Bool) (noDigit : ∀ c ∈ rest.data.head?, c.isDigit = false)
    (last : (toString n ++ rest).data.getLast? = some unit) :
    memoryFromString ((if negative then "-" else "") ++ toString n ++ rest) =
      .ok ((unsignedLong (if negative then -(n : Int) else n) <<< unitBits unit) % unsignedLongRange) := by
  have lastAll : ((if negative then "-" else "") ++ toString n ++ rest).data.getLast? = some unit := by
    obtain ⟨c, cs, digitsAre, -⟩ := repr_head n
    rw [show (toString n ++ rest).data = (toString n).data ++ rest.data from rfl, digitsAre] at last
    rw [signed_data, digitsAre]
    cases negative
    · exact last
    · show ('-' :: (c :: cs ++ rest.data)).getLast? = some unit
      rw [List.cons_append, List.getLast?_cons_cons, ← List.cons_append]
      exact last
  unfold memoryFromString
  rw [lastAll]
  simp only [stol_decimal small negative noDigit, bind, Except.bind, pure, Except.pure, unitBits]
  split_ifs <;> simp [Nat.mod_eq_of_lt (unsignedLong_lt _)]

theorem memoryFromString_fraction_negative :
    memoryFromString "1.5g" = .ok 1073741824 ∧ memoryFromString "-1k" = .ok 18446744073709550592 :=
  ⟨@memoryFromString_decimal 1 ".5g" 'g' (by decide) false (by decide) rfl,
    @memoryFromString_decimal 1 "k" 'k' (by decide) true (by decide) rfl⟩

/-- What `calcResources` throws: the parse's exception, or a `NodeError` with its text. -/
inductive ResourceError
  | stol (error : StolError)
  | nodeError (what : String)
deriving DecidableEq, Repr

/-- `mNodeMemory`, `mComputationsMemory`, `mNodeCores` and `mComputationsCores`. -/
structure Resources where
  nodeMemory : Nat
  computationsMemory : Nat
  nodeCores : Nat
  computationsCores : Nat
deriving DecidableEq, Repr

def checkNodeMemory (nodeMemory physicalMemory : Nat) : Except ResourceError Unit :=
  if nodeMemory ≥ physicalMemory then
    throw (.nodeError ("Requested node memory of " ++ toString nodeMemory ++
      " bytes exceeds host physical memory of " ++ toString physicalMemory ++ " bytes"))
  else pure ()

/-- The core split: the `cores` option when it is set and no more than the host has, else the
host's count; one core is reserved for the node processes when there are two or more. -/
def splitCores (cores hostCores : Nat) : Nat × Nat :=
  let totalCores := if cores ≠ 0 ∧ ¬cores > hostCores then cores else hostCores
  if totalCores ≤ 1 then (0, 1) else (1, totalCores - 1)

def readMemory (text : String) (default : Nat) : Except ResourceError Nat :=
  if text.isEmpty then pure default else (memoryFromString text).mapError .stol

/-- `ArrasNode::calcResources`, from the options `maxNodeMemory`, `memory` and `cores` and the
host's physical memory and core count. -/
def calcResources (maxNodeMemory memory : String) (cores physicalMemory hostCores : Nat) :
    Except ResourceError Resources := do
  let nodeMemory ← readMemory maxNodeMemory (1 <<< 30)
  checkNodeMemory nodeMemory physicalMemory
  let computationsMemory ← readMemory memory (physicalMemory - nodeMemory)
  pure ⟨nodeMemory, computationsMemory, (splitCores cores hostCores).1, (splitCores cores hostCores).2⟩

/-! ### The budget -/

theorem checkNodeMemory_ok {nodeMemory physicalMemory : Nat} {u : Unit}
    (ok : checkNodeMemory nodeMemory physicalMemory = .ok u) : nodeMemory < physicalMemory := by
  unfold checkNodeMemory at ok
  split at ok
  · cases ok
  · omega

theorem splitCores_spec (cores hostCores : Nat) :
    1 ≤ (splitCores cores hostCores).2 ∧ (splitCores cores hostCores).1 ≤ 1 ∧
      (splitCores cores hostCores).1 + (splitCores cores hostCores).2 =
        max 1 (if cores ≠ 0 ∧ ¬cores > hostCores then cores else hostCores) := by
  simp only [splitCores]
  generalize (if cores ≠ 0 ∧ ¬cores > hostCores then cores else hostCores) = total
  split_ifs <;> omega

theorem readMemory_ok {text : String} {default m : Nat} (read : readMemory text default = .ok m) :
    (text = "" → m = default) ∧ (text ≠ "" → memoryFromString text = .ok m) := by
  unfold readMemory at read
  by_cases empty : text = ""
  · subst empty
    exact ⟨fun _ => (Except.ok.inj read).symm, fun given => absurd rfl given⟩
  · rw [if_neg (by simpa [String.isEmpty_iff] using empty)] at read
    refine ⟨fun given => absurd given empty, fun _ => ?_⟩
    cases parsed : memoryFromString text <;> simp_all [Except.mapError]

/-- What an accepted budget is: the node's memory below the host's, 1 GiB unless given; the
computations' memory the rest of the host's unless given, and exactly the given size otherwise,
however much more than the host has that is; at least one core for the computations and at most
one for the node, the two adding up to the cores used. -/
theorem calcResources_ok {maxNodeMemory memory : String} {cores physicalMemory hostCores : Nat}
    {r : Resources} (ok : calcResources maxNodeMemory memory cores physicalMemory hostCores = .ok r) :
    r.nodeMemory < physicalMemory ∧
      (maxNodeMemory = "" → r.nodeMemory = 1 <<< 30) ∧
      (maxNodeMemory ≠ "" → memoryFromString maxNodeMemory = .ok r.nodeMemory) ∧
      (memory = "" → r.nodeMemory + r.computationsMemory = physicalMemory) ∧
      (memory ≠ "" → memoryFromString memory = .ok r.computationsMemory) ∧
      1 ≤ r.computationsCores ∧ r.nodeCores ≤ 1 ∧
      r.nodeCores + r.computationsCores =
        max 1 (if cores ≠ 0 ∧ ¬cores > hostCores then cores else hostCores) := by
  simp only [calcResources, except_bind_eq_ok] at ok
  obtain ⟨nodeMemory, nodeRead, _, checked, computationsMemory, computationsRead, final⟩ := ok
  cases final
  have below := checkNodeMemory_ok checked
  obtain ⟨nodeDefault, nodeGiven⟩ := readMemory_ok nodeRead
  obtain ⟨computationsDefault, computationsGiven⟩ := readMemory_ok computationsRead
  obtain ⟨coresPositive, nodeCores, coresSum⟩ := splitCores_spec cores hostCores
  refine ⟨below, nodeDefault, nodeGiven, fun empty => ?_, computationsGiven, coresPositive, nodeCores,
    coresSum⟩
  have rest := computationsDefault empty
  dsimp only at rest ⊢
  omega

/-- A node memory at or above the host's is refused with the `NodeError` that names both sizes,
before the computation memory is read: a malformed `memory` option is then never reported. -/
theorem calcResources_node_memory_exceeds {maxNodeMemory memory : String}
    {cores physicalMemory hostCores nodeMemory : Nat}
    (read : readMemory maxNodeMemory (1 <<< 30) = .ok nodeMemory) (exceeds : physicalMemory ≤ nodeMemory) :
    calcResources maxNodeMemory memory cores physicalMemory hostCores =
      .error (.nodeError ("Requested node memory of " ++ toString nodeMemory ++
        " bytes exceeds host physical memory of " ++ toString physicalMemory ++ " bytes")) := by
  simp only [calcResources, read, bind, Except.bind, checkNodeMemory, ge_iff_le, if_pos exceeds]

end Arras4.Node
