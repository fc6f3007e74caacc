import ServiceBindings.Proofs.Options
import ServiceBindings.Proofs.Text.Trim

/-!
# The fragment that decides an option

Each option depends on one fragment only: the last one that gives its key a value.  A switch whose
value is neither `true` nor `false` has its default, whatever earlier fragments say.
-/

namespace ServiceBindings.Options

/-! ## Options and their keys -/

/-- The options that are on or off. -/
inductive Switch where
  | java
  | contracts
  | implementations
  | registrations
  | python
deriving DecidableEq, Repr

namespace Switch

/-- The key of a switch. -/
def key : Switch → String
  | java => "enableJava"
  | contracts => "enableJavaInterfaces"
  | implementations => "enableJavaDefaultImpl"
  | registrations => "enableJavaMetaInf"
  | python => "enablePython"

/-- The position of a switch. -/
def position (options : Options) : Switch → Bool
  | java => options.java
  | contracts => options.contracts
  | implementations => options.implementations
  | registrations => options.registrations
  | python => options.python

/-- The position that a value stands for: `true` and `false` in any mixture of cases, and otherwise
the default of the switch. -/
def ofValue (switch : Switch) (value : String) : Bool :=
  if value.toLower = "true" then true
  else if value.toLower = "false" then false
  else switch.position default

end Switch

/-- The options that name a directory. -/
inductive Root where
  | contracts
  | implementations
  | registrations
  | python
deriving DecidableEq, Repr

namespace Root

/-- The key of a root directory. -/
def key : Root → String
  | contracts => "javaInterfacesPath"
  | implementations => "javaInterfacesImplPath"
  | registrations => "javaMetaInfPath"
  | python => "pythonPath"

/-- The root directory, if there is one. -/
def directory (options : Options) : Root → Option String
  | contracts => options.contractRoot
  | implementations => options.implementationRoot
  | registrations => options.registrationRoot
  | python => options.pythonRoot

end Root

/-! ## Single assignments -/

theorem switch_eq_ofValue (switch : Switch) (value : String) :
    Options.switch (switch.position default) value = switch.ofValue value := by
  have sameWord (word : String) :
      value.toList.map Char.toLower = word.toList ↔ value.toLower = word := by
    have isMap : value.toLower = value.map Char.toLower := rfl
    rw [← String.toList_inj, isMap, String.toList_map]
  simp only [Options.switch, Switch.ofValue, sameWord]

theorem position_assign (switch : Switch) (options : Options) (assignment : Assignment) :
    switch.position (options.assign assignment) =
      if assignment.key = switch.key then switch.ofValue assignment.value
      else switch.position options := by
  rw [← switch_eq_ofValue]
  cases switch <;> simp only [assign, Switch.key] <;> split <;> simp_all [Switch.position]

theorem directory_assign (root : Root) (options : Options) (assignment : Assignment) :
    root.directory (options.assign assignment) =
      if assignment.key = root.key then Text.nonempty? assignment.value
      else root.directory options := by
  cases root <;> simp only [assign, Root.key] <;> split <;> simp_all [Root.directory]

/-! ## Fragments -/

/-- Whether a fragment gives a key a value: it has an equals sign, and without the white space at
their ends the texts before and after the first one are the key and the value. -/
def Gives (fragment key value : String) : Prop :=
  ∃ front back, fragment = front ++ "=" ++ back ∧ '=' ∉ front.toList ∧
    Text.trim front = key ∧ Text.trim back = value

/-- Whether something is the last value that the fragments of a text give a key, or nothing is
given to it. -/
inductive IsLastValue (raw key : String) : Option String → Prop where
  | absent (never : ∀ fragment ∈ Text.segments ',' raw, ∀ value, ¬Gives fragment key value) :
      IsLastValue raw key none
  | last {earlier later : List String} {fragment value : String}
      (isList : Text.segments ',' raw = earlier ++ fragment :: later)
      (gives : Gives fragment key value)
      (isLast : ∀ other ∈ later, ∀ value, ¬Gives other key value) :
      IsLastValue raw key (some value)

/-- The value that a fragment gives a key, if it gives it one. -/
def valueIn? (key fragment : String) : Option String :=
  (Assignment.ofFragment? (Text.trim fragment)).bind fun assignment =>
    if assignment.key = key then some assignment.value else none

/-- The last value that the fragments of a text give a key, if there is one. -/
def lastValue? (raw key : String) : Option String :=
  (Text.segments ',' raw).reverse.findSome? (valueIn? key)

theorem singleton_equals : String.singleton '=' = "=" := rfl

theorem ofFragment?_trim_append {front : String} (absent : '=' ∉ front.toList) (back : String) :
    Assignment.ofFragment? (Text.trim (front ++ "=" ++ back)) =
      if Text.trim front = "" then none else some ⟨Text.trim front, Text.trim back⟩ := by
  have visible : Text.isBlank '=' = false := by decide
  obtain ⟨first, second, isCut, sameFirst, sameSecond⟩ :=
    @Text.exists_cutFirst?_trim '=' front back visible absent
  rw [singleton_equals] at isCut
  simp only [Assignment.ofFragment?, isCut, sameFirst, sameSecond, String.isEmpty_iff]

theorem ofFragment?_trim_of_absent {fragment : String} (absent : '=' ∉ fragment.toList) :
    Assignment.ofFragment? (Text.trim fragment) = none := by
  rw [Assignment.ofFragment?, Text.cutFirst?_of_absent (Text.notMem_trim absent)]

theorem valueIn?_eq_some_iff {key fragment value : String} (nonempty : key ≠ "") :
    valueIn? key fragment = some value ↔ Gives fragment key value := by
  constructor
  · intro found
    by_cases assigns : '=' ∈ fragment.toList
    · obtain ⟨front, back, isCut, absent⟩ := Text.exists_append_of_mem assigns
      rw [singleton_equals] at isCut
      subst isCut
      have isAssignment := ofFragment?_trim_append absent back
      by_cases unnamed : Text.trim front = ""
      · rw [if_pos unnamed] at isAssignment
        rw [valueIn?, isAssignment] at found
        cases found
      · rw [if_neg unnamed] at isAssignment
        rw [valueIn?, isAssignment, Option.bind_some] at found
        split at found
        · rename_i isKey
          cases found
          exact ⟨front, back, rfl, absent, isKey, rfl⟩
        · cases found
    · rw [valueIn?, ofFragment?_trim_of_absent assigns] at found
      cases found
  · intro gives
    obtain ⟨front, back, rfl, absent, rfl, rfl⟩ := gives
    rw [valueIn?, ofFragment?_trim_append absent, if_neg nonempty, Option.bind_some, if_pos rfl]

theorem valueIn?_eq_none_iff {key fragment : String} (nonempty : key ≠ "") :
    valueIn? key fragment = none ↔ ∀ value, ¬Gives fragment key value := by
  simp only [← valueIn?_eq_some_iff nonempty, Option.eq_none_iff_forall_ne_some]

theorem lastValue?_eq_some_iff {raw key value : String} : lastValue? raw key = some value ↔
    ∃ earlier fragment later, Text.segments ',' raw = earlier ++ fragment :: later ∧
      valueIn? key fragment = some value ∧ ∀ other ∈ later, valueIn? key other = none := by
  rw [lastValue?, List.findSome?_eq_some_iff]
  constructor
  · intro given
    obtain ⟨later, fragment, earlier, isList, found, isLast⟩ := given
    refine ⟨earlier.reverse, fragment, later.reverse, ?_, found, ?_⟩
    · simpa using congrArg List.reverse isList
    · simpa using isLast
  · intro given
    obtain ⟨earlier, fragment, later, isList, found, isLast⟩ := given
    refine ⟨later.reverse, fragment, earlier.reverse, ?_, found, ?_⟩
    · simp [isList]
    · simpa using isLast

/-- A text has one last value of a key, or none. -/
theorem isLastValue_iff {raw key : String} (nonempty : key ≠ "") (value? : Option String) :
    IsLastValue raw key value? ↔ value? = lastValue? raw key := by
  rw [eq_comm]
  constructor
  · intro isLast
    cases isLast with
    | absent never =>
        rw [lastValue?, List.findSome?_eq_none_iff]
        intro fragment member
        exact (valueIn?_eq_none_iff nonempty).mpr (never fragment (List.mem_reverse.mp member))
    | last isList gives isLast =>
        exact lastValue?_eq_some_iff.mpr ⟨_, _, _, isList, (valueIn?_eq_some_iff nonempty).mpr gives,
          fun other member => (valueIn?_eq_none_iff nonempty).mpr (isLast other member)⟩
  · intro found
    cases value? with
    | none =>
        rw [lastValue?, List.findSome?_eq_none_iff] at found
        refine .absent fun fragment member => ?_
        exact (valueIn?_eq_none_iff nonempty).mp (found fragment (List.mem_reverse.mpr member))
    | some value =>
        obtain ⟨earlier, fragment, later, isList, inFragment, isLast⟩ :=
          lastValue?_eq_some_iff.mp found
        exact .last isList ((valueIn?_eq_some_iff nonempty).mp inFragment) fun other member =>
          (valueIn?_eq_none_iff nonempty).mp (isLast other member)

/-! ## Parsed options -/

/-- An option that each assignment of its key sets, and no other one, is decided by the last value
of the key. -/
theorem parse_eq_of_assign {α : Type} {key : String} (get : Options → α) {read : String → α}
    (sets : ∀ options assignment, get (assign options assignment) =
      if assignment.key = key then read assignment.value else get options) (raw : String) :
    get (parse raw) = (lastValue? raw key).elim (get default) read := by
  rw [parse, ofAssignments, assignments, lastValue?]
  generalize Text.segments ',' raw = fragments
  -- from the end, since the last fragment of the key is the one that counts
  induction fragments using List.reverseRecOn with
  | nil => rfl
  | append_singleton earlier fragment ih =>
      rw [List.filterMap_append, List.foldl_append, List.reverse_append]
      cases isAssignment : Assignment.ofFragment? (Text.trim fragment) with
      | none => simpa [isAssignment, valueIn?] using ih
      | some assignment =>
          by_cases isKey : assignment.key = key
          · simp [isAssignment, valueIn?, sets, isKey]
          · simpa [isAssignment, valueIn?, sets, isKey] using ih

/-- A switch stands as the last value of its key says, and a root directory is the last value of
its key unless that is empty; without such a value both have their defaults.  Arguments are read
like the list that they make when they are joined. -/
theorem parse_last_fragment_wins (raw : String) :
    (∀ switch : Switch, ∃ value?,
      (∀ other?, IsLastValue raw switch.key other? ↔ other? = value?) ∧
        switch.position (parse raw) = value?.elim (switch.position default) switch.ofValue) ∧
    (∀ root : Root, ∃ value?,
      (∀ other?, IsLastValue raw root.key other? ↔ other? = value?) ∧
        root.directory (parse raw) = value?.elim (root.directory default) Text.nonempty?) ∧
    ∀ arguments : List String, ofArguments arguments =
      parse (String.intercalate "," (arguments.map withoutDashes)) := by
  refine ⟨fun switch => ?_, fun root => ?_, fun arguments => (parse_joined arguments).symm⟩
  · have nonempty : switch.key ≠ "" := by cases switch <;> decide
    exact ⟨lastValue? raw switch.key, isLastValue_iff nonempty,
      parse_eq_of_assign (switch.position ·) (position_assign switch) raw⟩
  · have nonempty : root.key ≠ "" := by cases root <;> decide
    exact ⟨lastValue? raw root.key, isLastValue_iff nonempty,
      parse_eq_of_assign (root.directory ·) (directory_assign root) raw⟩

end ServiceBindings.Options
