import ArrasNode.Node.Resources

/-! The read of `/proc/cpuinfo` (`HardwareFeatures::parseProcInfo`, `splitProcInfoLine` and
`getProcessorInfo`), whose processor count is the host's core count in `calcResources`. The file's
content is given, `none` when it cannot be opened, and `boost::lexical_cast<unsigned short>` is a
parameter. -/
namespace Arras4.Node

/-- `\w` (xpressive `_w`) in the C locale. -/
def isWordChar (c : Char) : Bool := c.isAlphanum || c = '_'

theorem isSpace_of_isWordChar {c : Char} (word : isWordChar c = true) : isSpace c = false := by
  cases space : isSpace c
  · rfl
  · simp only [isSpace, Bool.or_eq_true, decide_eq_true_eq] at space
    rcases space with (((((rfl | rfl) | rfl) | rfl) | rfl) | rfl) <;> exact absurd word (by decide)

theorem colon_not_word : isWordChar ':' = false ∧ isSpace ':' = false := by decide

/-- The first group of `CPUINFO_LINE_RE`: a word character, word characters or spaces, and a word
character. -/
def isKey : List Char → Bool
  | first :: rest =>
    isWordChar first && (rest.getLast?.map isWordChar).getD false &&
      rest.dropLast.all fun c => isWordChar c || isSpace c
  | [] => false

/-- `CPUINFO_LINE_RE` matches the whole line with groups `key` and `value`:
`bos >> (s1 = _w >> *(_w | space) >> _w) >> *space >> ":" >> space >> (s2 = *_) >> eos`. -/
def LineMatches (line key value : List Char) : Prop :=
  ∃ first middle last spaces c, key = first :: middle ++ [last] ∧ isWordChar first = true ∧
    (∀ x ∈ middle, isWordChar x = true ∨ isSpace x = true) ∧ isWordChar last = true ∧
    (∀ x ∈ spaces, isSpace x = true) ∧ isSpace c = true ∧ line = key ++ spaces ++ ':' :: c :: value

/-- `splitProcInfoLine`: the text before the first colon with its trailing spaces dropped, and
the text after the colon and one space, when they form a match. -/
def splitProcInfoLine (line : String) : String × String :=
  let key := ((line.data.takeWhile (· ≠ ':')).reverse.dropWhile isSpace).reverse
  match line.data.dropWhile (· ≠ ':') with
  | ':' :: c :: value => if isSpace c ∧ isKey key then (⟨key⟩, ⟨value⟩) else ("", "")
  | _ => ("", "")

/-! ### The split is the regex's -/

theorem takeWhile_append_cons {p : Char → Bool} {l rest : List Char} {a : Char}
    (all : ∀ x ∈ l, p x = true) (stop : p a = false) : (l ++ a :: rest).takeWhile p = l := by
  induction l with
  | nil => simp [List.takeWhile_cons, stop]
  | cons x l ih => simp [List.takeWhile_cons, all x (List.mem_cons_self x l),
      ih fun y member => all y (List.mem_cons_of_mem x member)]

theorem dropWhile_append_cons {p : Char → Bool} {l rest : List Char} {a : Char}
    (all : ∀ x ∈ l, p x = true) (stop : p a = false) : (l ++ a :: rest).dropWhile p = a :: rest := by
  induction l with
  | nil => simp [List.dropWhile_cons, stop]
  | cons x l ih => simp [List.dropWhile_cons, all x (List.mem_cons_self x l),
      ih fun y member => all y (List.mem_cons_of_mem x member)]

theorem isKey_iff {key : List Char} : isKey key = true ↔ ∃ first middle last, key = first :: middle ++ [last] ∧
    isWordChar first = true ∧ (∀ x ∈ middle, isWordChar x = true ∨ isSpace x = true) ∧
    isWordChar last = true := by
  constructor
  · intro keyed
    cases key with
    | nil => cases keyed
    | cons first rest =>
      simp only [isKey, Bool.and_eq_true, List.all_eq_true, Bool.or_eq_true] at keyed
      obtain ⟨⟨wordFirst, wordLast⟩, wordMiddle⟩ := keyed
      cases last? : rest.getLast? with
      | none => simp [last?] at wordLast
      | some last =>
        refine ⟨first, rest.dropLast, last, ?_, wordFirst, wordMiddle, by simpa [last?] using wordLast⟩
        rw [List.cons_append, List.dropLast_append_getLast? last last?]
  · rintro ⟨first, middle, last, rfl, wordFirst, wordMiddle, wordLast⟩
    simp only [List.cons_append, isKey, List.getLast?_concat, Option.map_some', Option.getD_some,
      List.dropLast_concat, wordFirst, wordLast, Bool.true_and, List.all_eq_true, Bool.or_eq_true]
    exact wordMiddle

theorem rstrip_key {key spaces : List Char} {last : Char} (ends : key.getLast? = some last)
    (word : isWordChar last = true) (allSpaces : ∀ x ∈ spaces, isSpace x = true) :
    ((key ++ spaces).reverse.dropWhile isSpace).reverse = key := by
  obtain ⟨front, rfl⟩ : ∃ front, key = front ++ [last] := ⟨key.dropLast, (List.dropLast_append_getLast? last ends).symm⟩
  rw [List.reverse_append, List.reverse_append, List.reverse_singleton, List.singleton_append,
    dropWhile_append_cons (by simpa using allSpaces) (isSpace_of_isWordChar word)]
  simp

theorem splitProcInfoLine_of_matches {line : String} {key value : List Char}
    (matched : LineMatches line.data key value) : splitProcInfoLine line = (⟨key⟩, ⟨value⟩) := by
  obtain ⟨first, middle, last, spaces, c, rfl, wordFirst, wordMiddle, wordLast, allSpaces, space,
    lineIs⟩ := matched
  have noColon : ∀ x ∈ (first :: middle ++ [last]) ++ spaces, decide (x ≠ ':') = true := by
    intro x member
    have classed : isWordChar x = true ∨ isSpace x = true := by
      simp only [List.mem_append, List.mem_cons, List.mem_singleton, List.not_mem_nil, or_false]
        at member
      rcases member with ((rfl | inMiddle) | rfl) | inSpaces
      exacts [.inl wordFirst, wordMiddle x inMiddle, .inl wordLast, .inr (allSpaces x inSpaces)]
    simp only [decide_eq_true_eq]
    rintro rfl
    simp [colon_not_word.1, colon_not_word.2] at classed
  have keyed : isKey (first :: middle ++ [last]) = true :=
    isKey_iff.mpr ⟨first, middle, last, rfl, wordFirst, wordMiddle, wordLast⟩
  have colonStops : decide ((':' : Char) ≠ ':') = false := by decide
  have stripped := rstrip_key (List.getLast?_concat (first :: middle)) wordLast
    allSpaces
  simp only [splitProcInfoLine, lineIs, takeWhile_append_cons noColon colonStops,
    dropWhile_append_cons noColon colonStops, stripped, space, keyed, and_self, if_true]

theorem splitProcInfoLine_cases (line : String) :
    splitProcInfoLine line = ("", "") ∨
      ∃ key value, isKey key = true ∧ splitProcInfoLine line = (⟨key⟩, ⟨value⟩) := by
  simp only [splitProcInfoLine]
  split
  · split_ifs with matched
    · exact .inr ⟨_, _, matched.2, rfl⟩
    · exact .inl rfl
  · exact .inl rfl

theorem splitProcInfoLine_of_empty_key {line : String} (empty : (splitProcInfoLine line).1 = "") :
    splitProcInfoLine line = ("", "") := by
  rcases splitProcInfoLine_cases line with unmatched | ⟨key, value, keyed, split⟩
  · exact unmatched
  · rw [split] at empty
    obtain rfl : key = [] := congrArg String.data empty
    cases keyed

theorem matches_of_splitProcInfoLine {line : String} {key value : String}
    (split : splitProcInfoLine line = (key, value)) (nonempty : key ≠ "") :
    LineMatches line.data key.data value.data := by
  simp only [splitProcInfoLine] at split
  split at split
  · rename_i c rest after
    split_ifs at split with matched
    · obtain ⟨space, keyed⟩ := matched
      obtain ⟨first, middle, last, keyIs, wordFirst, wordMiddle, wordLast⟩ := isKey_iff.mp keyed
      cases split
      set pre := line.data.takeWhile (· ≠ ':')
      have preIs : pre = (pre.reverse.dropWhile isSpace).reverse ++ (pre.reverse.takeWhile isSpace).reverse := by
        rw [← List.reverse_append, List.takeWhile_append_dropWhile, List.reverse_reverse]
      refine ⟨first, middle, last, (pre.reverse.takeWhile isSpace).reverse, c, keyIs, wordFirst,
        wordMiddle, wordLast, fun x member => List.mem_takeWhile_imp (List.mem_reverse.mp member),
        space, ?_⟩
      calc line.data = pre ++ ':' :: c :: rest := by
            rw [← after]
            exact (List.takeWhile_append_dropWhile _ _).symm
        _ = _ := by
            conv_lhs => rw [preIs]
    · exact absurd (congrArg Prod.fst split).symm nonempty
  · exact absurd (congrArg Prod.fst split).symm nonempty

/-- `splitProcInfoLine` returns the regex's two groups when the line matches, and two empty
strings when it does not. -/
theorem splitProcInfoLine_spec (line : String) :
    (∀ key value, LineMatches line.data key value → splitProcInfoLine line = (⟨key⟩, ⟨value⟩)) ∧
      ((¬ ∃ key value, LineMatches line.data key value) → splitProcInfoLine line = ("", "")) := by
  refine ⟨fun _ _ => splitProcInfoLine_of_matches, fun unmatched => ?_⟩
  by_cases empty : (splitProcInfoLine line).1 = ""
  · exact splitProcInfoLine_of_empty_key empty
  · exact absurd ⟨_, _, matches_of_splitProcInfoLine rfl empty⟩ unmatched

/-! ### Reading the file -/

/-- What the `std::getline` calls of `parseProcInfo` read while the stream is good: the first
line, and the lines after it, one after each newline; the last is what follows the last newline. -/
def readLines : List Char → List Char × List (List Char)
  | [] => ([], [])
  | c :: rest =>
    match readLines rest with
    | (line, lines) => if c = '\n' then ([], line :: lines) else (c :: line, lines)

def fileLines (content : List Char) : List (List Char) := (readLines content).1 :: (readLines content).2

/-- `HardwareFeatures::ProcessorFeatures`, a `std::map<std::string, std::string>`. -/
abbrev ProcessorFeatures := Members String

/-- `std::map::insert`: a key already present keeps its value. -/
def insertFeature (features : ProcessorFeatures) (feature : String × String) : ProcessorFeatures :=
  if (Members.find features feature.1).isSome then features
  else Members.insert features feature.1 feature.2

/-- One turn of `parseProcInfo`'s loop, over the processors read and the current map. -/
def procInfoStep (acc : List ProcessorFeatures × Option ProcessorFeatures) (line : List Char) :
    List ProcessorFeatures × Option ProcessorFeatures :=
  if line ≠ [] then (acc.1, some (insertFeature (acc.2.getD []) (splitProcInfoLine ⟨line⟩)))
  else
    match acc.2 with
    | some features => (acc.1 ++ [features], none)
    | none => acc

/-- `HardwareFeatures::parseProcInfo`, given the file's content, or none when it does not open. -/
def parseProcInfo : Option String → List ProcessorFeatures
  | none => []
  | some content => ((fileLines content.data).foldl procInfoStep ([], none)).1

/-- `HardwareFeatures::ProcessorInfo`; a number whose key is missing stays uninitialised, `none`. -/
structure ProcessorInfo where
  id : Option Nat
  core : Option Nat
  chip : Option Nat
  model : Option Nat
  modelName : String
  flags : List String
deriving DecidableEq, Repr

section Info

variable (castUShort : String → Option Nat)

/-- A number of a processor: `boost::lexical_cast<unsigned short>` of its value, which throws
(`none`) on a value it does not read. -/
def readNumber (features : ProcessorFeatures) (key : String) : Option (Option Nat) :=
  match Members.find features key with
  | some text => (castUShort text).map some
  | none => some none

/-- The loop body of `getProcessorInfo`; `boost::split` on spaces keeps empty pieces. -/
def processorInfo (features : ProcessorFeatures) : Option ProcessorInfo := do
  let id ← readNumber castUShort features "processor"
  let chip ← readNumber castUShort features "physical id"
  let core ← readNumber castUShort features "core id"
  let model ← readNumber castUShort features "model"
  pure
    { id := id
      core := core
      chip := chip
      model := model
      modelName := (Members.find features "model name").getD ""
      flags := ((Members.find features "flags").map fun flags =>
        (flags.data.splitOn ' ').map String.mk).getD [] }

def processorInfos : List ProcessorFeatures → Option (List ProcessorInfo)
  | [] => some []
  | features :: rest => do
    let info ← processorInfo castUShort features
    let infos ← processorInfos rest
    pure (info :: infos)

/-- `HardwareFeatures::getProcessorInfo`: the processors and their count, or none when a cast
throws. -/
def getProcessorInfo (content : Option String) : Option (List ProcessorInfo × Nat) :=
  (processorInfos castUShort (parseProcInfo content)).map fun infos => (infos, infos.length)

end Info

/-! ### The file's format -/

def joinLines : List (List Char) → List Char
  | [] => []
  | [line] => line
  | line :: rest => line ++ '\n' :: joinLines rest

/-- A feature as `/proc/cpuinfo` writes it: the key, a tab, a colon, a space and the value. -/
def featureLine (feature : String × String) : List Char :=
  feature.1.data ++ '\t' :: ':' :: ' ' :: feature.2.data

def processorLines (processors : List (List (String × String))) : List (List Char) :=
  processors.flatMap fun features => features.map featureLine ++ [[]]

def procInfoText (processors : List (List (String × String))) : String :=
  ⟨joinLines (processorLines processors ++ [[]])⟩

/-- A feature `CPUINFO_LINE_RE` reads back from its line: a key of the regex's first group, and no
newline. -/
def Printable (feature : String × String) : Prop :=
  isKey feature.1.data = true ∧ '\n' ∉ feature.1.data ∧ '\n' ∉ feature.2.data

instance (feature : String × String) : Decidable (Printable feature) :=
  inferInstanceAs (Decidable (_ ∧ _ ∧ _))

theorem readLines_append {line : List Char} (noNewline : '\n' ∉ line) (rest : List Char) :
    readLines (line ++ rest) = (line ++ (readLines rest).1, (readLines rest).2) := by
  induction line with
  | nil => rfl
  | cons c line ih =>
    rw [List.mem_cons, not_or] at noNewline
    rw [List.cons_append, readLines, ih noNewline.2]
    simp [Ne.symm noNewline.1]

theorem fileLines_joinLines : ∀ {lines : List (List Char)}, lines ≠ [] → (∀ line ∈ lines, '\n' ∉ line) →
    fileLines (joinLines lines) = lines
  | [line], _, noNewline => by
    have read := readLines_append (noNewline line (List.mem_singleton_self line)) []
    simp only [readLines, List.append_nil] at read
    simp [fileLines, joinLines, read]
  | line :: next :: rest, _, noNewline => by
    have first := readLines_append (noNewline line (List.mem_cons_self _ _)) ('\n' :: joinLines (next :: rest))
    have later := @fileLines_joinLines (next :: rest) (List.cons_ne_nil _ _)
      fun l member => noNewline l (List.mem_cons_of_mem _ member)
    simp only [fileLines, readLines, if_true] at first later
    simp only [fileLines, joinLines, first, List.append_nil, later]

theorem splitProcInfoLine_featureLine {feature : String × String} (keyed : isKey feature.1.data = true) :
    splitProcInfoLine ⟨featureLine feature⟩ = feature := by
  obtain ⟨first, middle, last, keyIs, wordFirst, wordMiddle, wordLast⟩ := isKey_iff.mp keyed
  exact splitProcInfoLine_of_matches ⟨first, middle, last, ['\t'], ' ', keyIs, wordFirst, wordMiddle,
    wordLast, by decide, rfl, by simp [featureLine]⟩

theorem featureLine_ne_nil (feature : String × String) : featureLine feature ≠ [] := by
  simp [featureLine]

theorem featureLine_no_newline {feature : String × String} (printable : Printable feature) :
    '\n' ∉ featureLine feature := by
  simp [featureLine, printable.2.1, printable.2.2]

theorem processorLines_cons (features : List (String × String)) (rest : List (List (String × String))) :
    processorLines (features :: rest) = features.map featureLine ++ [[]] ++ processorLines rest := rfl

theorem procInfoStep_line (acc : List ProcessorFeatures × Option ProcessorFeatures) {line : List Char}
    (nonempty : line ≠ []) :
    procInfoStep acc line = (acc.1, some (insertFeature (acc.2.getD []) (splitProcInfoLine ⟨line⟩))) :=
  if_pos nonempty

theorem find_foldl_insertFeature (features : List (String × String)) (m : ProcessorFeatures) (key : String) :
    Members.find (features.foldl insertFeature m) key = (Members.find m key).or (features.lookup key) := by
  induction features generalizing m with
  | nil => simp
  | cons feature rest ih =>
    obtain ⟨k, v⟩ := feature
    rw [List.foldl_cons, ih, List.lookup_cons]
    unfold insertFeature
    by_cases same : key = k
    · subst same
      cases found : Members.find m key <;> simp [found]
    · have differ : (key == k) = false := by simpa using same
      simp only [differ]
      split_ifs <;> simp [same]

theorem foldl_featureLines (acc : List ProcessorFeatures) (m : ProcessorFeatures) :
    ∀ {features : List (String × String)}, (∀ f ∈ features, Printable f) →
      (features.map featureLine).foldl procInfoStep (acc, some m) = (acc, some (features.foldl insertFeature m))
  | [], _ => rfl
  | feature :: rest, printable => by
    rw [List.map_cons, List.foldl_cons, procInfoStep_line _ (featureLine_ne_nil feature), Option.getD_some,
      splitProcInfoLine_featureLine (printable feature (List.mem_cons_self _ _)).1]
    exact foldl_featureLines acc _ fun f member => printable f (List.mem_cons_of_mem _ member)

theorem procInfoStep_blank (done : List ProcessorFeatures) : procInfoStep (done, none) [] = (done, none) :=
  rfl

theorem procInfoStep_close (done : List ProcessorFeatures) (features : ProcessorFeatures) :
    procInfoStep (done, some features) [] = (done ++ [features], none) := rfl

theorem foldl_featureLines_none (acc : List ProcessorFeatures) {features : List (String × String)}
    (nonempty : features ≠ []) (printable : ∀ f ∈ features, Printable f) :
    (features.map featureLine).foldl procInfoStep (acc, none) = (acc, some (features.foldl insertFeature [])) := by
  obtain ⟨feature, rest, rfl⟩ := List.exists_cons_of_ne_nil nonempty
  rw [List.map_cons, List.foldl_cons, procInfoStep_line _ (featureLine_ne_nil feature), Option.getD_none,
    splitProcInfoLine_featureLine (printable feature (List.mem_cons_self _ _)).1,
    foldl_featureLines acc _ fun f member => printable f (List.mem_cons_of_mem _ member), List.foldl_cons]

theorem foldl_processor (acc : List ProcessorFeatures) {features : List (String × String)}
    (nonempty : features ≠ []) (printable : ∀ f ∈ features, Printable f) :
    (features.map featureLine ++ [[]]).foldl procInfoStep (acc, none) =
      (acc ++ [features.foldl insertFeature []], none) := by
  rw [List.foldl_append, foldl_featureLines_none acc nonempty printable]
  rfl

theorem foldl_processorLines (acc : List ProcessorFeatures) {processors : List (List (String × String))}
    (printable : ∀ features ∈ processors, features ≠ [] ∧ ∀ f ∈ features, Printable f) :
    (processorLines processors).foldl procInfoStep (acc, none) =
      (acc ++ processors.map (·.foldl insertFeature []), none) := by
  induction processors generalizing acc with
  | nil => simp [processorLines]
  | cons features rest ih =>
    obtain ⟨nonempty, allPrintable⟩ := printable features (List.mem_cons_self _ _)
    rw [processorLines_cons, List.foldl_append, foldl_processor acc nonempty allPrintable,
      ih _ fun fs member => printable fs (List.mem_cons_of_mem _ member)]
    simp

theorem processorLines_no_newline {processors : List (List (String × String))}
    (printable : ∀ features ∈ processors, ∀ f ∈ features, Printable f) :
    ∀ line ∈ processorLines processors, '\n' ∉ line := by
  intro line member
  simp only [processorLines, List.mem_flatMap, List.mem_append, List.mem_map, List.mem_singleton] at member
  obtain ⟨features, inProcessors, ⟨feature, inFeatures, rfl⟩ | rfl⟩ := member
  · exact featureLine_no_newline (printable features inProcessors feature inFeatures)
  · simp

theorem parseProcInfo_joinLines {lines : List (List Char)} (nonempty : lines ≠ [])
    (noNewline : ∀ line ∈ lines, '\n' ∉ line) :
    parseProcInfo (some ⟨joinLines lines⟩) = (lines.foldl procInfoStep ([], none)).1 := by
  simp only [parseProcInfo, fileLines_joinLines nonempty noNewline]

/-! ### Round trip -/

/-- Two processors of one chip. -/
def sampleProcessors : List (List (String × String)) :=
  [[("processor", "0"), ("model name", "Xeon"), ("flags", "fpu sse")],
    [("processor", "1"), ("model name", "Xeon"), ("flags", "fpu sse")]]

theorem parseProcInfo_procInfoText_eq {processors : List (List (String × String))}
    (printable : ∀ features ∈ processors, features ≠ [] ∧ ∀ f ∈ features, Printable f) :
    parseProcInfo (some (procInfoText processors)) = processors.map (·.foldl insertFeature []) := by
  have noNewline : ∀ line ∈ processorLines processors ++ [[]], '\n' ∉ line := by
    simp only [List.mem_append, List.mem_singleton]
    rintro line (member | rfl)
    · exact processorLines_no_newline (fun fs member => (printable fs member).2) line member
    · simp
  rw [procInfoText, parseProcInfo_joinLines (by simp) noNewline, List.foldl_append,
    foldl_processorLines [] printable, List.foldl_cons, procInfoStep_blank, List.foldl_nil, List.nil_append]

/-- Processors written in `/proc/cpuinfo`'s format read back: one map per processor, in order,
each key with the first value the processor gives it. -/
theorem parseProcInfo_procInfoText {processors : List (List (String × String))}
    (printable : ∀ features ∈ processors, features ≠ [] ∧ ∀ f ∈ features, Printable f) :
    List.Forall₂ (fun parsed features => ∀ key, Members.find parsed key = features.lookup key)
      (parseProcInfo (some (procInfoText processors))) processors := by
  rw [parseProcInfo_procInfoText_eq printable, List.forall₂_map_left_iff, List.forall₂_same]
  intro features _ key
  simp [find_foldl_insertFeature]

theorem parseProcInfo_sampleProcessors :
    (∀ features ∈ sampleProcessors, features ≠ [] ∧ ∀ f ∈ features, Printable f) ∧
      List.Forall₂ (fun parsed features => ∀ key, Members.find parsed key = features.lookup key)
        (parseProcInfo (some (procInfoText sampleProcessors))) sampleProcessors :=
  have printable : ∀ features ∈ sampleProcessors, features ≠ [] ∧ ∀ f ∈ features, Printable f := by decide
  ⟨printable, parseProcInfo_procInfoText printable⟩

/-- The last processor counts only when a newline follows its last line: without one it is lost,
and with one it is kept, blank line or not. -/
theorem parseProcInfo_last_line {processors : List (List (String × String))}
    {last : List (String × String)}
    (printable : ∀ features ∈ processors, features ≠ [] ∧ ∀ f ∈ features, Printable f)
    (lastNonempty : last ≠ []) (lastPrintable : ∀ f ∈ last, Printable f) :
    (parseProcInfo (some ⟨joinLines (processorLines processors ++ last.map featureLine)⟩)).length =
        processors.length ∧
      (parseProcInfo (some ⟨joinLines (processorLines processors ++ last.map featureLine ++ [[]])⟩)).length =
        processors.length + 1 := by
  have noNewline : ∀ line ∈ processorLines processors ++ last.map featureLine, '\n' ∉ line :=
    List.forall_mem_append.mpr ⟨processorLines_no_newline fun fs member => (printable fs member).2,
      List.forall_mem_map.mpr fun feature inLast => featureLine_no_newline (lastPrintable feature inLast)⟩
  have linesNonempty : processorLines processors ++ last.map featureLine ≠ [] := by
    simpa using fun _ => lastNonempty
  have read := foldl_featureLines_none (processors.map (·.foldl insertFeature [])) lastNonempty lastPrintable
  constructor
  · rw [parseProcInfo_joinLines linesNonempty noNewline, List.foldl_append, foldl_processorLines [] printable,
      List.nil_append, read]
    simp
  · have withBlank : ∀ line ∈ processorLines processors ++ last.map featureLine ++ [[]], '\n' ∉ line := by
      exact List.forall_mem_append.mpr ⟨noNewline, by simp⟩
    rw [parseProcInfo_joinLines (by simp) withBlank, List.foldl_append,
      List.foldl_append, foldl_processorLines [] printable, List.nil_append, read, List.foldl_cons,
      procInfoStep_close, List.foldl_nil]
    simp

theorem parseProcInfo_third_processor :
    (parseProcInfo (some ⟨joinLines (processorLines sampleProcessors ++
        [("processor", "2")].map featureLine)⟩)).length = 2 ∧
      (parseProcInfo (some ⟨joinLines (processorLines sampleProcessors ++
        [("processor", "2")].map featureLine ++ [[]])⟩)).length = 3 :=
  parseProcInfo_last_line (by decide) (List.cons_ne_nil _ _) (by decide)

theorem processorInfos_length {castUShort : String → Option Nat} :
    ∀ {parsed : List ProcessorFeatures} {infos : List ProcessorInfo},
      processorInfos castUShort parsed = some infos → infos.length = parsed.length
  | [], _, read => by
    cases read
    rfl
  | features :: rest, infos, read => by
    simp only [processorInfos, Option.bind_eq_bind, Option.bind_eq_some, Option.pure_def,
      Option.some.injEq] at read
    obtain ⟨info, -, infos, rest_read, rfl⟩ := read
    simp [processorInfos_length rest_read]

/-- When `getProcessorInfo` returns on a file of processors in `/proc/cpuinfo`'s format, its count,
the host's core count of `calcResources`, is the number of processors written. -/
theorem getProcessorInfo_procInfoText {castUShort : String → Option Nat}
    {processors : List (List (String × String))} {infos : List ProcessorInfo} {count : Nat}
    (printable : ∀ features ∈ processors, features ≠ [] ∧ ∀ f ∈ features, Printable f)
    (got : getProcessorInfo castUShort (some (procInfoText processors)) = some (infos, count)) :
    count = processors.length ∧ infos.length = processors.length := by
  obtain ⟨read, readOk, readIs⟩ := Option.map_eq_some'.mp got
  cases readIs
  have counted : infos.length = processors.length := by
    rw [processorInfos_length readOk, parseProcInfo_procInfoText_eq printable, List.length_map]
  exact ⟨counted, counted⟩

/-- A decimal read for unsigned short, for the example below: digits only, below 2^16. -/
def decimalUShort (text : String) : Option Nat :=
  if (readDigits text.data 0 0).2 = text.data.length ∧ text.data ≠ [] ∧ (readDigits text.data 0 0).1 < 65536
  then some (readDigits text.data 0 0).1 else none

theorem getProcessorInfo_sampleProcessors :
    ∃ infos count, getProcessorInfo decimalUShort (some (procInfoText sampleProcessors)) = some (infos, count) ∧
      count = sampleProcessors.length ∧ infos.length = sampleProcessors.length :=
  ⟨_, _, rfl, @getProcessorInfo_procInfoText decimalUShort sampleProcessors _ _ (by decide) rfl⟩

end Arras4.Node
