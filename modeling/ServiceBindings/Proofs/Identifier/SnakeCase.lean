import Mathlib.Data.List.Infix
import ServiceBindings.Proofs.Text.Letter
import ServiceBindings.Python

/-!
# Names in snake_case

A name in snake_case is its lowercase form with underscores between words.  Without underscores
the two are the same, so a service can be recognised by the file name of its binding, up to letter
case and underscores.  An underscore is only added between two characters that are none.
-/

namespace ServiceBindings

namespace Text

/-- Whether a text has only ASCII characters. -/
def IsAscii (text : String) : Prop := ∀ c ∈ text.toList, c.toNat < 128

instance (text : String) : Decidable (IsAscii text) :=
  decidable_of_iff (text.toList.all (·.toNat < 128) = true) (by simp [IsAscii])

/-- A text without the occurrences of a character. -/
def without (unwanted : Char) (text : String) : String :=
  String.ofList (text.toList.filter (· != unwanted))

/-! ## Lowercase forms -/

theorem lowercaseOf_ne_nil (c : Char) : lowercaseOf c ≠ [] := by
  rw [lowercaseOf]
  split
  · exact List.cons_ne_nil _ _
  · exact List.cons_ne_nil _ _

theorem notMem_lowercaseOf {separator c : Char} (before : separator.toNat < 0x61)
    (different : c ≠ separator) : separator ∉ lowercaseOf c := by
  intro member
  exact different (eq_of_mem_lowercaseOf member before).symm

theorem all_lowercaseOf : ∀ code < 128, (lowercaseOf (Char.ofNat code)).all (fun lower =>
    !isUppercase lower && lowercaseOf lower == [lower]) = true := by
  decide +kernel

/-- The lowercase form of an ASCII character is not uppercase, and it is its own lowercase form. -/
theorem isUppercase_of_mem_lowercaseOf {c lower : Char} (ascii : c.toNat < 128)
    (member : lower ∈ lowercaseOf c) :
    isUppercase lower = false ∧ lowercaseOf lower = [lower] := by
  have settled := all_lowercaseOf c.toNat ascii
  rw [Char.ofNat_toNat, List.all_eq_true] at settled
  simpa using settled lower member

theorem filter_lowercaseOf {separator : Char} (before : separator.toNat < 0x61)
    (isLower : lowercaseOf separator = [separator]) (c : Char) :
    (lowercaseOf c).filter (· != separator) =
      ([c].filter (· != separator)).flatMap lowercaseOf := by
  by_cases same : c = separator
  · simp [same, isLower]
  · have kept : (lowercaseOf c).filter (· != separator) = lowercaseOf c := by
      rw [List.filter_eq_self]
      intro lower member
      rw [bne_iff_ne]
      intro isSeparator
      exact notMem_lowercaseOf before same (isSeparator ▸ member)
    simp [kept, same]

/-- Leaving out a separator that is its own lowercase form can be done before or after lowercase
forms are taken. -/
theorem without_lowercase {separator : Char} (before : separator.toNat < 0x61)
    (isLower : lowercaseOf separator = [separator]) (text : String) :
    without separator (lowercase text) = lowercase (without separator text) := by
  rw [← String.toList_inj, without, lowercase, lowercase, without]
  simp only [String.toList_ofList]
  induction text.toList with
  | nil => rfl
  | cons c rest ih =>
      rw [List.flatMap_cons, List.filter_append, ih, filter_lowercaseOf before isLower,
        ← List.flatMap_append, ← List.filter_append, List.singleton_append]

end Text

/-! ## Separators between characters -/

/-- Whether a list is another one with separators added, each between two characters that are no
separators. -/
inductive AddsBetween (separator : Char) : List Char → List Char → Prop where
  | nil : AddsBetween separator [] []
  | keep {c : Char} {plain spelled : List Char} :
      AddsBetween separator plain spelled → AddsBetween separator (c :: plain) (c :: spelled)
  | add {before after : Char} {plain spelled : List Char} :
      before ≠ separator → after ≠ separator →
      AddsBetween separator (after :: plain) (after :: spelled) →
      AddsBetween separator (before :: after :: plain) (before :: separator :: after :: spelled)

namespace AddsBetween

variable {separator : Char} {plain spelled : List Char}

theorem append_left (front : List Char) (adds : AddsBetween separator plain spelled) :
    AddsBetween separator (front ++ plain) (front ++ spelled) := by
  induction front with
  | nil => exact adds
  | cons c rest ih => exact .keep ih

/-- A separator may be added between characters without separators and others that start with
none. -/
theorem append_separator {front : List Char} (nonempty : front ≠ []) (absent : separator ∉ front)
    {first : Char} (isOther : first ≠ separator)
    (adds : AddsBetween separator (first :: plain) (first :: spelled)) :
    AddsBetween separator (front ++ first :: plain) (front ++ separator :: first :: spelled) := by
  induction front with
  | nil => exact absurd rfl nonempty
  | cons c rest ih =>
      rw [List.mem_cons, not_or] at absent
      cases rest with
      | nil => exact .add (Ne.symm absent.1) isOther adds
      | cons next others => exact .keep (ih (List.cons_ne_nil _ _) absent.2)

/-- Without separators nothing is added. -/
theorem filter_eq (adds : AddsBetween separator plain spelled) :
    spelled.filter (· != separator) = plain.filter (· != separator) := by
  induction adds with
  | nil => rfl
  | keep _ ih => rw [List.filter_cons, List.filter_cons, ih]
  | add isOther nextIsOther _ ih =>
      simp only [List.filter_cons, bne_iff_ne, ne_eq, isOther, nextIsOther, not_false_eq_true,
        not_true_eq_false, if_true, if_false] at ih ⊢
      rw [ih]

theorem eq_or_mem (adds : AddsBetween separator plain spelled) {c : Char} (member : c ∈ spelled) :
    c = separator ∨ c ∈ plain := by
  by_cases isSeparator : c = separator
  · exact .inl isSeparator
  · have kept : c ∈ spelled.filter (· != separator) :=
      List.mem_filter.mpr ⟨member, bne_iff_ne.mpr isSeparator⟩
    rw [adds.filter_eq] at kept
    exact .inr (List.mem_filter.mp kept).1

theorem head?_eq (adds : AddsBetween separator plain spelled) : spelled.head? = plain.head? := by
  cases adds with
  | nil => rfl
  | keep _ => rfl
  | add _ _ _ => rfl

theorem getLast?_eq (adds : AddsBetween separator plain spelled) :
    spelled.getLast? = plain.getLast? := by
  induction adds with
  | nil => rfl
  | keep _ ih => rw [List.getLast?_cons, List.getLast?_cons, ih]
  | add _ _ _ ih =>
      rw [List.getLast?_cons_cons, List.getLast?_cons_cons, ih, List.getLast?_cons_cons]

/-- Two separators in a row are only where there were two before. -/
theorem doubled_iff (adds : AddsBetween separator plain spelled) :
    [separator, separator] <:+: spelled ↔ [separator, separator] <:+: plain := by
  induction adds with
  | nil => rfl
  | keep adds ih =>
      rw [List.infix_cons_iff, List.infix_cons_iff, ih, List.cons_prefix_cons,
        List.cons_prefix_cons, List.singleton_prefix_iff_head?_eq_some,
        List.singleton_prefix_iff_head?_eq_some, adds.head?_eq]
  | @add before after plain _ isOther nextIsOther _ ih =>
      have inPlain : [separator, separator] <:+: before :: after :: plain ↔
          [separator, separator] <:+: after :: plain := by
        rw [List.infix_cons_iff]
        simp [Ne.symm isOther]
      rw [inPlain, ← ih, List.infix_cons_iff, List.infix_cons_iff]
      simp [Ne.symm isOther, Ne.symm nextIsOther]

end AddsBetween

namespace Identifier

open Text (lowercaseOf isUppercase)

theorem ne_underscore_of_startsWord {c next : Char} {afterNext : Option Char}
    (starts : startsWord (some c) next afterNext = true) : c ≠ '_' ∧ next ≠ '_' := by
  constructor
  · rintro rfl
    have noWord : (Text.isLowercase '_' || '_'.isDigit ||
        (isUppercase '_' && afterNext.any Text.isLowercase)) = false := by
      rw [Bool.or_eq_false_iff]
      exact ⟨by decide, by rw [show isUppercase '_' = false by decide, Bool.false_and]⟩
    rw [startsWord, noWord, Bool.and_false] at starts
    cases starts
  · rintro rfl
    rw [startsWord, show isUppercase '_' = false by decide, Bool.false_and] at starts
    cases starts

theorem addsBetween_snakeCaseFrom (c : Char) (rest : List Char) :
    AddsBetween '_' ((c :: rest).flatMap lowercaseOf)
      (lowercaseOf c ++ snakeCaseFrom (some c) rest) := by
  induction rest generalizing c with
  | nil => exact .append_left _ .nil
  | cons next others ih =>
      rw [List.flatMap_cons, snakeCaseFrom]
      by_cases starts : startsWord (some c) next others.head? = true
      · obtain ⟨isOther, nextIsOther⟩ := ne_underscore_of_startsWord starts
        obtain ⟨first, more, isNext⟩ :=
          List.exists_cons_of_ne_nil (Text.lowercaseOf_ne_nil next)
        have firstIsOther : first ≠ '_' := by
          rintro rfl
          exact Text.notMem_lowercaseOf (by decide) nextIsOther (by simp [isNext])
        have adds := ih next
        rw [List.flatMap_cons, isNext] at adds
        rw [if_pos starts, List.flatMap_cons, isNext]
        exact .append_separator (Text.lowercaseOf_ne_nil c)
          (Text.notMem_lowercaseOf (by decide) isOther) firstIsOther adds
      · rw [if_neg starts]
        exact .append_left _ (ih next)

/-- A name in snake_case is its lowercase form with underscores added. -/
theorem addsBetween_snakeCase (name : String) :
    AddsBetween '_' (Text.lowercase name).toList (snakeCase name).toList := by
  rw [snakeCase, Text.lowercase, String.toList_ofList, String.toList_ofList]
  cases name.toList with
  | nil => exact .nil
  | cons c rest => exact addsBetween_snakeCaseFrom c rest

/-! ## Names in ASCII -/

theorem startsWord_of_isUppercase_eq_false {c : Char} (isOther : isUppercase c = false)
    (previous next : Option Char) : startsWord previous c next = false := by
  cases previous with
  | none => rfl
  | some before => rw [startsWord, isOther, Bool.false_and]

/-- Nothing changes in what has no uppercase letter and is its own lowercase form. -/
theorem snakeCaseFrom_eq_self {characters : List Char}
    (settled : ∀ c ∈ characters, isUppercase c = false ∧ lowercaseOf c = [c])
    (previous : Option Char) : snakeCaseFrom previous characters = characters := by
  induction characters generalizing previous with
  | nil => rfl
  | cons c rest ih =>
      rw [List.forall_mem_cons] at settled
      obtain ⟨⟨isOther, isLower⟩, restSettled⟩ := settled
      rw [snakeCaseFrom, startsWord_of_isUppercase_eq_false isOther, isLower, ih restSettled]
      rfl

theorem isUppercase_of_mem_snakeCase {name : String} (ascii : Text.IsAscii name) {c : Char}
    (member : c ∈ (snakeCase name).toList) : isUppercase c = false ∧ lowercaseOf c = [c] := by
  obtain rfl | inLowercase := (addsBetween_snakeCase name).eq_or_mem member
  · decide +kernel
  · rw [Text.lowercase, String.toList_ofList, List.mem_flatMap] at inLowercase
    obtain ⟨source, inName, isLower⟩ := inLowercase
    exact Text.isUppercase_of_mem_lowercaseOf (ascii source inName) isLower

theorem snakeCase_snakeCase {name : String} (ascii : Text.IsAscii name) :
    snakeCase (snakeCase name) = snakeCase name := by
  rw [snakeCase, snakeCaseFrom_eq_self fun _ => isUppercase_of_mem_snakeCase ascii,
    String.ofList_toList]

/-- The file name of a binding gives back the name of its service up to letter case and underscores:
snake_case adds nothing but underscores to the lowercase form, none at an end and none beside
another one.  A name in ASCII has then no uppercase letter left, and stays as it is from then
on. -/
theorem moduleFileName_reversible (name : String) :
    Python.moduleFileName name = snakeCase name ++ "_service.py" ∧
      Text.without '_' (snakeCase name) = Text.without '_' (Text.lowercase name) ∧
      Text.without '_' (Text.lowercase name) = Text.lowercase (Text.without '_' name) ∧
      AddsBetween '_' (Text.lowercase name).toList (snakeCase name).toList ∧
      (snakeCase name).toList.head? = (Text.lowercase name).toList.head? ∧
      (snakeCase name).toList.getLast? = (Text.lowercase name).toList.getLast? ∧
      (['_', '_'] <:+: (snakeCase name).toList ↔ ['_', '_'] <:+: (Text.lowercase name).toList) ∧
      (Text.IsAscii name →
        (∀ c ∈ (snakeCase name).toList, isUppercase c = false) ∧
          snakeCase (snakeCase name) = snakeCase name) := by
  have adds := addsBetween_snakeCase name
  have sameLetters :
      Text.without '_' (snakeCase name) = Text.without '_' (Text.lowercase name) := by
    rw [Text.without, Text.without, adds.filter_eq]
  refine ⟨rfl, sameLetters, Text.without_lowercase (by decide) (by decide +kernel) name, adds,
    adds.head?_eq, adds.getLast?_eq, adds.doubled_iff, ?_⟩
  intro ascii
  exact ⟨fun c member => (isUppercase_of_mem_snakeCase ascii member).1, snakeCase_snakeCase ascii⟩

theorem moduleFileName_reversible_gateway :
    Text.IsAscii "_HTTPGateway2Fa__toURL_" ∧
      Python.moduleFileName "_HTTPGateway2Fa__toURL_" =
        "_http_gateway2_fa__to_url__service.py" ∧
      (∀ c ∈ (snakeCase "_HTTPGateway2Fa__toURL_").toList, isUppercase c = false) ∧
      snakeCase (snakeCase "_HTTPGateway2Fa__toURL_") = snakeCase "_HTTPGateway2Fa__toURL_" := by
  have ascii : Text.IsAscii "_HTTPGateway2Fa__toURL_" := by decide
  obtain ⟨_, _, _, _, _, _, _, settled⟩ := moduleFileName_reversible "_HTTPGateway2Fa__toURL_"
  exact ⟨ascii, by decide +kernel, settled ascii⟩

end Identifier

end ServiceBindings
