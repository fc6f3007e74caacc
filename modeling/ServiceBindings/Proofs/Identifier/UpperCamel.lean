import Mathlib
import ServiceBindings.Identifier

/-!
# Names in UpperCamelCase

A name in UpperCamelCase has all letters and digits of the name it comes from, some of them now
capitals, and nothing else.  The flag that is carried from one character to the next says that no
letter stands directly before, so which letters become capitals can be said without it.  A text is
its own UpperCamelCase exactly if it has the shape of such a name, and the conversion changes
nothing a second time.
-/

namespace ServiceBindings.Identifier

/-- Whether a character may stand after another one in UpperCamelCase: no lowercase letter stands
after a digit. -/
def MayFollow (before c : Char) : Prop := before.isDigit = true → c.isLower = false

/-- Whether a text has the shape of a name in UpperCamelCase.  Letters and digits are those of
ASCII. -/
structure IsUpperCamel (text : String) : Prop where
  letterOrDigit : ∀ c ∈ text.toList, c.isAlphanum = true
  start : ∀ c ∈ text.toList.head?, c.isLower = false
  afterDigit : text.toList.IsChain MayFollow

/-- Whether a letter or digit is kept by the character written for it: that is the same up to case,
and the same altogether where an uppercase letter was given. -/
def IsSpelledAs (given spelled : Char) : Prop :=
  spelled.toLower = given.toLower ∧ (given.isUpper = true → spelled = given)

/-- A character as it stands at the start of a word or inside one. -/
def inWord (atStart : Bool) (c : Char) : Char := if atStart then c.toUpper else c

/-- What UpperCamelCase has for a character that stands after another one or in front of all: for a
letter or digit, itself in a word that starts there if no letter stands before, and nothing for any
other. -/
def spelling? (before : Option Char) (c : Char) : Option Char :=
  if c.isAlphanum then some (inWord (!before.any Char.isAlpha) c) else none

/-! ## Letters and digits -/

section Characters

variable {c : Char}

theorem isAlphanum_eq (c : Char) : c.isAlphanum = (c.isAlpha || c.isDigit) := rfl

theorem isAlpha_eq_false_of_isDigit (isDigit : c.isDigit = true) : c.isAlpha = false := by
  rw [Bool.eq_false_iff]
  intro isAlpha
  simp only [Char.isAlpha, Char.isUpper, Char.isLower, Char.isDigit, UInt32.le_iff_toNat_le,
    ge_iff_le, Bool.or_eq_true, Bool.and_eq_true, decide_eq_true_eq] at isAlpha isDigit
  have beforeUpper : '9'.val.toNat < 'A'.val.toNat := by decide
  have beforeLower : '9'.val.toNat < 'a'.val.toNat := by decide
  omega

theorem isAlpha_inWord (atStart : Bool) (c : Char) : (inWord atStart c).isAlpha = c.isAlpha := by
  cases atStart with
  | true => exact Char.isAlpha_toUpper_eq_isAlpha c
  | false => rfl

theorem isAlphanum_inWord (atStart : Bool) (kept : c.isAlphanum = true) :
    (inWord atStart c).isAlphanum = true := by
  rw [isAlphanum_eq, isAlpha_inWord]
  by_cases isAlpha : c.isAlpha = true
  · rw [isAlpha, Bool.true_or]
  · have isOther : ¬c.isLower = true := fun isLower => isAlpha (by simp [Char.isAlpha, isLower])
    rwa [inWord, Char.toUpper_eq_of_not_isLower isOther, ite_self]

theorem isSpelledAs_inWord (atStart : Bool) (c : Char) : IsSpelledAs c (inWord atStart c) := by
  cases atStart with
  | true =>
      refine ⟨Char.toLower_toUpper_eq_toLower c, ?_⟩
      intro isUpper
      exact Char.toUpper_eq_of_not_isLower (Char.not_isLower_of_isUpper isUpper)
  | false => exact ⟨rfl, fun _ => rfl⟩

end Characters

/-! ## One character after the other -/

variable {atStart : Bool} {characters : List Char} {name text : String}

theorem toList_upperCamel (name : String) :
    (upperCamel name).toList = upperCamelFrom true name.toList := String.toList_ofList

/-- Letters and digits are written down, and a word starts after all that is no letter. -/
theorem upperCamelFrom_cons (atStart : Bool) (c : Char) (rest : List Char) :
    upperCamelFrom atStart (c :: rest) =
      if c.isAlphanum then inWord atStart c :: upperCamelFrom (!c.isAlpha) rest
      else upperCamelFrom (!c.isAlpha) rest := by
  rw [upperCamelFrom, isAlphanum_eq, Char.isAlpha, inWord]
  by_cases isLower : c.isLower = true
  · simp [isLower]
  · rw [Char.toUpper_eq_of_not_isLower isLower]
    by_cases isUpper : c.isUpper = true
    · simp [isLower, isUpper]
    · by_cases isDigit : c.isDigit = true
      · simp [isLower, isUpper, isDigit]
      · simp [isLower, isUpper, isDigit]

theorem isAlphanum_of_mem_upperCamelFrom {c : Char}
    (member : c ∈ upperCamelFrom atStart characters) : c.isAlphanum = true := by
  induction characters generalizing atStart with
  | nil => cases member
  | cons first rest ih =>
      rw [upperCamelFrom_cons] at member
      split at member
      · rename_i kept
        cases List.mem_cons.mp member with
        | inl isFirst => exact isFirst ▸ isAlphanum_inWord atStart kept
        | inr inRest => exact ih inRest
      · exact ih member

theorem isAlphanum_of_mem_upperCamel {c : Char} (member : c ∈ (upperCamel name).toList) :
    c.isAlphanum = true := by
  rw [toList_upperCamel] at member
  exact isAlphanum_of_mem_upperCamelFrom member

/-- Where a word starts, no lowercase letter is written first. -/
theorem isLower_eq_false_of_mem_head? (characters : List Char) :
    ∀ c ∈ (upperCamelFrom true characters).head?, c.isLower = false := by
  induction characters with
  | nil => simp [upperCamelFrom]
  | cons first rest ih =>
      rw [upperCamelFrom_cons]
      split
      · simp [inWord]
      · rename_i leftOut
        rw [isAlphanum_eq, Bool.or_eq_true, not_or] at leftOut
        have noLetter : first.isAlpha = false := Bool.eq_false_iff.mpr leftOut.1
        rwa [noLetter]

/-- A word starts after every digit that is written down, so no lowercase letter comes next. -/
theorem isChain_upperCamelFrom (atStart : Bool) (characters : List Char) :
    (upperCamelFrom atStart characters).IsChain MayFollow := by
  induction characters generalizing atStart with
  | nil => exact .nil
  | cons first rest ih =>
      rw [upperCamelFrom_cons]
      split
      · rw [List.isChain_cons]
        refine ⟨?_, ih (!first.isAlpha)⟩
        intro next isNext isDigit
        have noLetter : first.isAlpha = false :=
          (isAlpha_inWord atStart first).symm.trans (isAlpha_eq_false_of_isDigit isDigit)
        rw [noLetter] at isNext
        exact isLower_eq_false_of_mem_head? rest next isNext
      · exact ih (!first.isAlpha)

theorem isUpperCamel_upperCamel (name : String) : IsUpperCamel (upperCamel name) where
  letterOrDigit _ := isAlphanum_of_mem_upperCamel
  start := by
    rw [toList_upperCamel]
    exact isLower_eq_false_of_mem_head? name.toList
  afterDigit := by
    rw [toList_upperCamel]
    exact isChain_upperCamelFrom true name.toList

/-! ## Texts that stay as they are -/

theorem upperCamelFrom_eq_self (kept : ∀ c ∈ characters, c.isAlphanum = true)
    (start : atStart = true → ∀ c ∈ characters.head?, c.isLower = false)
    (afterDigit : characters.IsChain MayFollow) :
    upperCamelFrom atStart characters = characters := by
  induction characters generalizing atStart with
  | nil => rfl
  | cons first rest ih =>
      rw [List.forall_mem_cons] at kept
      rw [List.isChain_cons] at afterDigit
      have firstStays : inWord atStart first = first := by
        cases atStart with
        | true => exact Char.toUpper_eq_of_not_isLower (by simp [start rfl first rfl])
        | false => rfl
      have restStays : upperCamelFrom (!first.isAlpha) rest = rest := by
        refine ih kept.2 ?_ afterDigit.2
        intro noLetter next isNext
        rw [Bool.not_eq_true'] at noLetter
        have isDigit : first.isDigit = true := by simpa [isAlphanum_eq, noLetter] using kept.1
        exact afterDigit.1 next isNext isDigit
      rw [upperCamelFrom_cons, if_pos kept.1, firstStays, restStays]

theorem IsUpperCamel.upperCamel_eq (isUpperCamel : IsUpperCamel text) : upperCamel text = text := by
  rw [← String.toList_inj, toList_upperCamel]
  exact upperCamelFrom_eq_self isUpperCamel.letterOrDigit (fun _ => isUpperCamel.start)
    isUpperCamel.afterDigit

/-- A text is its own UpperCamelCase exactly if it has that shape. -/
theorem upperCamel_eq_self_iff : upperCamel text = text ↔ IsUpperCamel text := by
  constructor
  · intro isSame
    rw [← isSame]
    exact isUpperCamel_upperCamel text
  · exact IsUpperCamel.upperCamel_eq

instance (text : String) : Decidable (IsUpperCamel text) :=
  decidable_of_iff _ upperCamel_eq_self_iff

example : IsUpperCamel "V2Api" ∧ ¬IsUpperCamel "V2api" ∧ ¬IsUpperCamel "V2-Api" := by
  decide +kernel

/-! ## What becomes of each character -/

theorem forall₂_isSpelledAs_upperCamelFrom (atStart : Bool) (characters : List Char) :
    List.Forall₂ IsSpelledAs (characters.filter Char.isAlphanum)
      (upperCamelFrom atStart characters) := by
  induction characters generalizing atStart with
  | nil => exact .nil
  | cons first rest ih =>
      rw [upperCamelFrom_cons, List.filter_cons]
      split
      · exact .cons (isSpelledAs_inWord atStart first) (ih (!first.isAlpha))
      · exact ih (!first.isAlpha)

theorem upperCamelFrom_eq_reduceOption (before : Option Char) (characters : List Char) :
    upperCamelFrom (!before.any Char.isAlpha) characters =
      (List.zipWith spelling? (before :: characters.map some) characters).reduceOption := by
  induction characters generalizing before with
  | nil => rfl
  | cons first rest ih =>
      have after := ih (some first)
      rw [Option.any_some] at after
      rw [upperCamelFrom_cons, List.map_cons, List.zipWith_cons_cons, spelling?, after]
      split
      · rw [List.reduceOption_cons_of_some]
      · rw [List.reduceOption_cons_of_none]

/-- UpperCamelCase leaves out what is no letter and no digit of ASCII, makes a capital of every
letter that no letter stands directly before, and changes nothing else; what it gives is its own
UpperCamelCase. -/
theorem upperCamel_stable_and_lossless (name : String) :
    IsUpperCamel (upperCamel name) ∧
      List.Forall₂ IsSpelledAs (name.toList.filter Char.isAlphanum) (upperCamel name).toList ∧
      (upperCamel name).toList =
        (List.zipWith spelling? (none :: name.toList.map some) name.toList).reduceOption ∧
      upperCamel (upperCamel name) = upperCamel name := by
  have isUpperCamel : IsUpperCamel (upperCamel name) := isUpperCamel_upperCamel name
  refine ⟨isUpperCamel, ?_, ?_, isUpperCamel.upperCamel_eq⟩
  · rw [toList_upperCamel]
    exact forall₂_isSpelledAs_upperCamelFrom true name.toList
  · rw [toList_upperCamel]
    exact upperCamelFrom_eq_reduceOption none name.toList

example : upperCamel "http2éclair_search-V1api" = "Http2ClairSearchV1Api" := by decide +kernel

end ServiceBindings.Identifier
