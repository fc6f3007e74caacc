import Mathlib
import ServiceBindings.Proofs.Json.Number
import ServiceBindings.Proofs.Listing
import ServiceBindings.Proofs.Text.Lines
import ServiceBindings.Proofs.Text.Segments

/-!
# Reading a listing back

The listing of an array or object determines it, if keys are words, numbers are integers and texts
are single lines that cannot be taken for other scalars.  A line tells by its indentation to which
value it belongs, by its label whether it is an item or which field it is, and by what follows the
label whether the value stands on the line or below.
-/

namespace ServiceBindings.Listing

open Json (Value)

/-- Whether a character may stand in a key: an ASCII letter, a digit or an underscore. -/
def isKeyCharacter (c : Char) : Bool := c.isAlphanum || c == '_'

/-- Whether a text is a word that can be told from what follows it as a key. -/
structure IsKey (key : String) : Prop where
  nonempty : key ≠ ""
  characters : ∀ c ∈ key.toList, isKeyCharacter c = true

instance (key : String) : Decidable (IsKey key) :=
  decidable_of_iff (key ≠ "" ∧ key.toList.all isKeyCharacter = true)
    ⟨fun conditions => ⟨conditions.1, List.all_eq_true.mp conditions.2⟩,
      fun isKey => ⟨isKey.nonempty, List.all_eq_true.mpr isKey.characters⟩⟩

/-- Whether a text is how a scalar is written that is no text. -/
def SpellsScalar (text : String) : Prop :=
  text ∈ ["null", "true", "false", "[]", "\x7b\x7d"] ∨ ∃ value : Int, text = toString value

/-- Whether the listing of a value does not hide what the value is, its members aside. -/
def IsListable : Value → Prop
  | .number number => ∃ value, number = .integer value
  | .text text => Text.IsLine text ∧ ¬SpellsScalar text
  | .object fields => ∀ field ∈ fields, IsKey field.1
  | _ => True

theorem IsListable.sorted {part : Value} (listable : IsListable part) : IsListable part.sorted := by
  cases part with
  | null | bool | number | text | array => exact listable
  | object fields => exact Value.forall_key_sortedFields IsKey listable

/-! ## Scalars -/

/-- The scalar that a text spells. -/
def readScalar (text : String) : Value :=
  if text = "null" then .null
  else if text = "true" then .bool true
  else if text = "false" then .bool false
  else if text = "[]" then .array []
  else if text = "\x7b\x7d" then .object []
  else
    match text.toInt? with
    | some value => if text = toString value then .number (.integer value) else .text text
    | none => .text text

theorem toString_ne {text : String} {c : Char} (member : c ∈ text.toList)
    (noDigit : c.isDigit = false) (noSign : c ≠ '-') (value : Int) : toString value ≠ text := by
  rintro rfl
  cases Json.isDigit_or_eq_of_mem_toString member with
  | inl isDigit => exact absurd isDigit (by simp [noDigit])
  | inr isSign => exact noSign isSign

theorem not_spellsScalar {text : String}
    (noWord : text ∉ ["null", "true", "false", "[]", "\x7b\x7d"]) {c : Char}
    (member : c ∈ text.toList) (noDigit : c.isDigit = false) (noSign : c ≠ '-') :
    ¬SpellsScalar text := by
  rintro (isWord | ⟨value, isInteger⟩)
  · exact noWord isWord
  · exact toString_ne member noDigit noSign value isInteger.symm

theorem readScalar_toString (value : Int) :
    readScalar (toString value) = .number (.integer value) := by
  have notNull : toString value ≠ "null" := toString_ne (c := 'n') (by decide) rfl (by decide) value
  have notTrue : toString value ≠ "true" := toString_ne (c := 't') (by decide) rfl (by decide) value
  have notFalse : toString value ≠ "false" :=
    toString_ne (c := 'f') (by decide) rfl (by decide) value
  have notArray : toString value ≠ "[]" := toString_ne (c := '[') (by decide) rfl (by decide) value
  have notObject : toString value ≠ "\x7b\x7d" :=
    toString_ne (c := '\x7b') (by decide) rfl (by decide) value
  have isInteger : (toString value).toInt? = some value := Int.toInt?_repr value
  rw [readScalar, if_neg notNull, if_neg notTrue, if_neg notFalse, if_neg notArray,
    if_neg notObject, isInteger]
  exact if_pos rfl

theorem readScalar_of_not_spellsScalar {text : String} (spells : ¬SpellsScalar text) :
    readScalar text = .text text := by
  rw [SpellsScalar, not_or, not_exists] at spells
  obtain ⟨noWord, noInteger⟩ := spells
  simp only [List.mem_cons, List.not_mem_nil, or_false, not_or] at noWord
  obtain ⟨notNull, notTrue, notFalse, notArray, notObject⟩ := noWord
  rw [readScalar, if_neg notNull, if_neg notTrue, if_neg notFalse, if_neg notArray,
    if_neg notObject]
  split
  · exact if_neg (noInteger _)
  · rfl

/-- Scalars are read back from their texts. -/
theorem readScalar_scalarText {value : Value} (scalar : isScalar value = true)
    (listable : IsListable value) : readScalar (scalarText value) = value := by
  cases value with
  | null => rfl
  | bool value => cases value <;> rfl
  | number number =>
      obtain ⟨value, rfl⟩ := listable
      exact readScalar_toString value
  | text text => exact readScalar_of_not_spellsScalar listable.2
  | array items =>
      rw [List.isEmpty_iff.mp scalar]
      rfl
  | object fields =>
      rw [List.isEmpty_iff.mp scalar]
      rfl

/-! ## Labels -/

/-- Two lists are cut at the same place, where a property ends that holds in front of the cut. -/
theorem append_inj_of_border {α : Type} {holds : α → Bool} {front back otherFront otherBack : List α}
    (inFront : ∀ item ∈ front, holds item = true)
    (inOtherFront : ∀ item ∈ otherFront, holds item = true)
    (border : ∀ item ∈ back.head?, holds item = false)
    (otherBorder : ∀ item ∈ otherBack.head?, holds item = false)
    (same : front ++ back = otherFront ++ otherBack) : front = otherFront ∧ back = otherBack := by
  have ends {rest : List α} (atBorder : ∀ item ∈ rest.head?, holds item = false) :
      rest.takeWhile holds = [] := by
    cases rest with
    | nil => rfl
    | cons item others => exact List.takeWhile_cons_of_neg (by simp [atBorder item rfl])
  have fronts := congrArg (List.takeWhile holds) same
  rw [List.takeWhile_append_of_pos inFront, List.takeWhile_append_of_pos inOtherFront, ends border,
    ends otherBorder, List.append_nil, List.append_nil] at fronts
  rw [fronts] at same
  exact ⟨fronts, List.append_cancel_left same⟩

/-- Whether a text is a label: characters of a key, and then one that is neither such a character
nor white space. -/
def IsLabel (label : String) : Prop :=
  ∃ word mark, label.toList = word ++ [mark] ∧ (∀ c ∈ word, isKeyCharacter c = true) ∧
    isKeyCharacter mark = false ∧ Text.isBlank mark = false

theorem isLabel_dash : IsLabel "-" := ⟨[], '-', rfl, by simp, rfl, rfl⟩

theorem IsKey.isLabel {key : String} (isKey : IsKey key) : IsLabel (key ++ ":") :=
  ⟨key.toList, ':', by simp, isKey.characters, rfl, rfl⟩

theorem isLabel_of_mem_labelled {value : Value} (listable : IsListable value)
    {member : String × Value} (isMember : member ∈ labelled .plain value) : IsLabel member.1 := by
  cases value with
  | null | bool | number | text => cases isMember
  | array items =>
      obtain ⟨item, _, rfl⟩ := List.mem_map.mp isMember
      exact isLabel_dash
  | object fields =>
      obtain ⟨field, isField, rfl⟩ := List.mem_map.mp isMember
      exact (listable field isField).isLabel

theorem IsLabel.append_inj {label otherLabel rest otherRest : String} (isLabel : IsLabel label)
    (otherIsLabel : IsLabel otherLabel) (same : label ++ rest = otherLabel ++ otherRest) :
    label = otherLabel ∧ rest = otherRest := by
  obtain ⟨word, mark, isAppend, inWord, isMark, _⟩ := isLabel
  obtain ⟨otherWord, otherMark, otherIsAppend, inOtherWord, otherIsMark, _⟩ := otherIsLabel
  rw [← String.toList_inj, String.toList_append, String.toList_append, isAppend, otherIsAppend,
    List.append_assoc, List.append_assoc] at same
  have cut := append_inj_of_border inWord inOtherWord (by simpa using isMark)
    (by simpa using otherIsMark) same
  rw [List.singleton_append, List.singleton_append, List.cons.injEq] at cut
  obtain ⟨sameWord, sameMark, sameRest⟩ := cut
  refine ⟨?_, String.toList_inj.mp sameRest⟩
  rw [← String.toList_inj, isAppend, otherIsAppend, sameWord, sameMark]

theorem IsLabel.head?_ne_blank {label : String} (isLabel : IsLabel label) (rest : String) :
    (label ++ rest).toList.head? ≠ some ' ' := by
  obtain ⟨word, mark, isAppend, inWord, _, visible⟩ := isLabel
  rw [String.toList_append, isAppend]
  intro isBlank
  cases word with
  | nil =>
      rw [List.nil_append, List.singleton_append, List.head?_cons, Option.some.injEq] at isBlank
      rw [isBlank] at visible
      exact absurd visible (by decide)
  | cons first others =>
      have isKey := inWord first List.mem_cons_self
      rw [List.cons_append, List.cons_append, List.head?_cons, Option.some.injEq] at isBlank
      rw [isBlank] at isKey
      exact absurd isKey (by decide)

theorem IsLabel.isLine {label : String} (isLabel : IsLabel label) : Text.IsLine label := by
  obtain ⟨word, mark, isAppend, inWord, _, visible⟩ := isLabel
  rw [Text.IsLine, isAppend, List.mem_append, List.mem_singleton]
  rintro (inside | rfl)
  · exact absurd (inWord _ inside) (by decide)
  · exact absurd visible (by decide)

/-! ## Indentation -/

/-- Whether a line is indented to a depth, or deeper. -/
def isIndented (depth : Nat) (line : String) : Bool :=
  (Value.indentation depth).toList.isPrefixOf line.toList

theorem indentation_add (depth more : Nat) :
    Value.indentation (depth + more) = Value.indentation depth ++ Value.indentation more := by
  rw [← String.toList_inj, String.toList_append, Value.indentation, Value.indentation,
    Value.indentation, String.toList_ofList, String.toList_ofList, String.toList_ofList,
    Nat.mul_add, List.replicate_add]

theorem isIndented_indentation_append {depth deeper : Nat} (isDeeper : depth ≤ deeper)
    (content : String) : isIndented depth (Value.indentation deeper ++ content) = true := by
  obtain ⟨more, rfl⟩ := Nat.exists_eq_add_of_le isDeeper
  rw [indentation_add, isIndented, List.isPrefixOf_iff_prefix, String.toList_append,
    String.toList_append, List.append_assoc]
  exact List.prefix_append _ _

theorem isIndented_succ_eq_false (depth : Nat) {content : String}
    (first : content.toList.head? ≠ some ' ') :
    isIndented (depth + 1) (Value.indentation depth ++ content) = false := by
  rw [Bool.eq_false_iff, isIndented, ne_eq, List.isPrefixOf_iff_prefix, indentation_add,
    String.toList_append, String.toList_append, List.prefix_append_right_inj]
  intro isPrefix
  have isBlank : content.toList.head? = some ' ' := by
    obtain ⟨rest, isAppend⟩ := isPrefix
    rw [← isAppend]
    rfl
  exact first isBlank

theorem isIndented_of_mem_lines {style : Style} {depth : Nat} {value : Value} {line : String}
    (isLine : line ∈ lines style depth value) : isIndented depth line = true := by
  obtain ⟨deeper, _, content, isDeeper, _, _, rfl⟩ := exists_of_mem_lines isLine
  exact isIndented_indentation_append isDeeper content

/-! ## Members -/

/-- What stands on the line of a label behind it. -/
def behindLabel (value : Value) : String :=
  if isScalar value then " " ++ scalarText value else ""

/-- The lines below that of a label. -/
def belowLabel (depth : Nat) (value : Value) : List String :=
  if isScalar value then [] else lines .plain (depth + 1) value

theorem labelledLines_eq_cons (depth : Nat) (member : String × Value) :
    labelledLines .plain depth member =
      (Value.indentation depth ++ (member.1 ++ behindLabel member.2)) ::
        belowLabel depth member.2 := by
  rw [labelledLines, memberLines, behindLabel, belowLabel]
  split
  · simp only [Style.plain, String.append_assoc]
  · rw [String.append_empty]

theorem isIndented_of_mem_belowLabel {depth : Nat} {value : Value} {line : String}
    (isLine : line ∈ belowLabel depth value) : isIndented (depth + 1) line = true := by
  rw [belowLabel] at isLine
  split at isLine
  · cases isLine
  · exact isIndented_of_mem_lines isLine

theorem isIndented_head?_labelledLines {depth : Nat} {members : List (String × Value)}
    (areLabels : ∀ member ∈ members, IsLabel member.1) :
    ∀ line ∈ (members.flatMap (labelledLines .plain depth)).head?,
      isIndented (depth + 1) line = false := by
  cases members with
  | nil => simp
  | cons member rest =>
      intro line isHead
      rw [List.flatMap_cons, labelledLines_eq_cons, List.cons_append, List.head?_cons,
        Option.mem_some_iff] at isHead
      rw [← isHead]
      exact isIndented_succ_eq_false depth
        ((areLabels member List.mem_cons_self).head?_ne_blank _)

/-- Members are told apart by their lines, if each is determined by what stands behind its label and
below. -/
theorem flatMap_labelledLines_inj {depth : Nat} {left right : List (String × Value)}
    (leftLabels : ∀ member ∈ left, IsLabel member.1) (rightLabels : ∀ member ∈ right, IsLabel member.1)
    (determined : ∀ member ∈ left, ∀ other ∈ right, behindLabel member.2 = behindLabel other.2 →
      belowLabel depth member.2 = belowLabel depth other.2 → member.2 = other.2)
    (same : left.flatMap (labelledLines .plain depth) = right.flatMap (labelledLines .plain depth)) :
    left = right := by
  induction left generalizing right with
  | nil =>
      cases right with
      | nil => rfl
      | cons other others =>
          rw [List.flatMap_nil, List.flatMap_cons, labelledLines_eq_cons] at same
          cases same
  | cons member rest ih =>
      cases right with
      | nil =>
          rw [List.flatMap_nil, List.flatMap_cons, labelledLines_eq_cons] at same
          cases same
      | cons other others =>
          rw [List.forall_mem_cons] at leftLabels rightLabels
          rw [List.flatMap_cons, List.flatMap_cons, labelledLines_eq_cons, labelledLines_eq_cons,
            List.cons_append, List.cons_append, List.cons.injEq] at same
          obtain ⟨sameLine, sameBelow⟩ := same
          obtain ⟨sameLabel, sameBehind⟩ := leftLabels.1.append_inj rightLabels.1
            (String.append_right_inj _ |>.mp sameLine)
          -- What is below the label is indented further than the next label, which is the border.
          obtain ⟨sameInner, sameRest⟩ := append_inj_of_border
            (fun _ => isIndented_of_mem_belowLabel) (fun _ => isIndented_of_mem_belowLabel)
            (isIndented_head?_labelledLines leftLabels.2)
            (isIndented_head?_labelledLines rightLabels.2) sameBelow
          have sameValue : member.2 = other.2 :=
            determined member List.mem_cons_self other List.mem_cons_self sameBehind sameInner
          have sameMembers : rest = others := by
            apply ih leftLabels.2 rightLabels.2 _ sameRest
            intro later isLater another isAnother
            exact determined later (List.mem_cons_of_mem _ isLater) another
              (List.mem_cons_of_mem _ isAnother)
          rw [sameMembers, Prod.ext sameLabel sameValue]

theorem key_append_ne_dash {key : String} (isKey : IsKey key) : key ++ ":" ≠ "-" := by
  intro same
  obtain ⟨first, rest, isCons⟩ : ∃ first rest, key.toList = first :: rest :=
    List.exists_cons_of_ne_nil (by simpa using isKey.nonempty)
  rw [← String.toList_inj, String.toList_append, isCons] at same
  simp at same

/-- An array or object is determined by its members with their labels. -/
theorem labelled_plain_inj {left right : Value} (leftCompound : isScalar left = false)
    (rightCompound : isScalar right = false) (leftListable : IsListable left)
    (rightListable : IsListable right) (same : labelled .plain left = labelled .plain right) :
    left = right := by
  have differ {items : List Value} {fields : List (String × Value)}
      (compound : isScalar (.array items) = false) (listable : IsListable (.object fields)) :
      labelled .plain (.array items) ≠ labelled .plain (.object fields) := by
    intro sameMembers
    cases items with
    | nil => cases compound
    | cons item rest =>
        cases fields with
        | nil => cases sameMembers
        | cons field others =>
            have sameLabel := congrArg Prod.fst (List.cons.inj sameMembers).1
            exact key_append_ne_dash (listable field List.mem_cons_self) sameLabel.symm
  cases left with
  | null | bool | number | text => cases leftCompound
  | array items =>
      cases right with
      | null | bool | number | text => cases rightCompound
      | array others =>
          have injective : Function.Injective fun item : Value => ("-", item) :=
            fun _ _ sameItem => congrArg Prod.snd sameItem
          rw [List.map_injective_iff.mpr injective same]
      | object fields => exact absurd same (differ leftCompound rightListable)
  | object fields =>
      cases right with
      | null | bool | number | text => cases rightCompound
      | array items => exact absurd same.symm (differ rightCompound leftListable)
      | object others =>
          have injective : Function.Injective
              fun field : String × Value => (Style.plain.key field.1 ++ ":", field.2) := by
            intro field other sameField
            obtain ⟨sameLabel, sameValue⟩ := Prod.mk.inj sameField
            exact Prod.ext ((String.append_left_inj ":").mp sameLabel) sameValue
          rw [List.map_injective_iff.mpr injective same]

/-! ## Values -/

theorem everywhere_of_mem_labelled {style : Style} {condition : Value → Prop} {value : Value}
    (given : value.Everywhere condition) {member : String × Value}
    (isMember : member ∈ labelled style value) : member.2.Everywhere condition :=
  fun part inside => given part (isPartOf_of_mem_labelled isMember inside)

/-- The lines of an array or object determine it. -/
theorem lines_plain_inj {left right : Value} (leftListable : left.Everywhere IsListable)
    (rightListable : right.Everywhere IsListable) (leftCompound : isScalar left = false)
    (rightCompound : isScalar right = false) {depth : Nat}
    (same : lines .plain depth left = lines .plain depth right) : left = right := by
  induction left using byLabelled Style.plain generalizing right depth with
  | step left ih =>
      rw [lines_of_not_isScalar _ _ leftCompound, lines_of_not_isScalar _ _ rightCompound] at same
      have leftIsListable := leftListable left .itself
      have rightIsListable := rightListable right .itself
      apply labelled_plain_inj leftCompound rightCompound leftIsListable rightIsListable
      apply flatMap_labelledLines_inj (fun _ => isLabel_of_mem_labelled leftIsListable)
        (fun _ => isLabel_of_mem_labelled rightIsListable) _ same
      intro member isMember other isOther sameBehind sameBelow
      have memberListable := everywhere_of_mem_labelled leftListable isMember
      have otherListable := everywhere_of_mem_labelled rightListable isOther
      rw [behindLabel, behindLabel] at sameBehind
      rw [belowLabel, belowLabel] at sameBelow
      -- A blank behind the label tells a scalar, even an empty text, from an array or object.
      cases memberScalar : isScalar member.2 with
      | true =>
          cases otherScalar : isScalar other.2 with
          | true =>
              rw [if_pos memberScalar, if_pos otherScalar, String.append_right_inj] at sameBehind
              calc member.2
                  = readScalar (scalarText member.2) :=
                    (readScalar_scalarText memberScalar (memberListable _ .itself)).symm
                _ = readScalar (scalarText other.2) := by rw [sameBehind]
                _ = other.2 := readScalar_scalarText otherScalar (otherListable _ .itself)
          | false => simp [memberScalar, otherScalar] at sameBehind
      | false =>
          cases otherScalar : isScalar other.2 with
          | true => simp [memberScalar, otherScalar] at sameBehind
          | false =>
              rw [memberScalar, otherScalar] at sameBelow
              exact ih member isMember memberListable otherListable memberScalar otherScalar
                sameBelow

/-! ## Listings -/

theorem isLine_indentation (depth : Nat) : Text.IsLine (Value.indentation depth) := by
  intro member
  exact absurd (eq_blank_of_mem_indentation member) (by decide)

theorem isLine_scalarText {value : Value} (scalar : isScalar value = true)
    (listable : IsListable value) : Text.IsLine (scalarText value) := by
  apply notMem_scalarText (by decide) scalar
  rintro text rfl
  exact listable.1

theorem isLine_of_mem_lines {value : Value} (listable : value.Everywhere IsListable) {depth : Nat}
    {line : String} (member : line ∈ lines .plain depth value) : Text.IsLine line := by
  obtain ⟨deeper, part, content, _, isPart, tells, rfl⟩ := exists_of_mem_lines member
  rw [Text.isLine_append]
  refine ⟨isLine_indentation deeper, ?_⟩
  cases tells with
  | scalar scalar => exact isLine_scalarText scalar (listable part isPart)
  | label isMember => exact (isLabel_of_mem_labelled (listable part isPart) isMember).isLine
  | labelled isMember scalar =>
      have label := isLabel_of_mem_labelled (listable part isPart) isMember
      have inside := (isPartOf_of_mem_labelled isMember .itself).trans isPart
      rw [Text.isLine_append, Text.isLine_append]
      exact ⟨⟨label.isLine, by decide⟩, isLine_scalarText scalar (listable _ inside)⟩

theorem segments_format_text {value : Value} (listable : value.Everywhere IsListable)
    (colors : Bool) :
    Text.segments '\n' (format colors .text value) = lines .plain 0 value.sorted := by
  have sortedListable := listable.sorted fun _ => IsListable.sorted
  exact Text.segments_intercalate (lines_ne_nil _ _ _) fun _ => isLine_of_mem_lines sortedListable

/-- Arrays and objects with the same listing are the same but for the order of their fields, which
is no part of the data: values that have their fields in ascending order are then equal. -/
theorem format_text_inj {left right : Value} (leftCompound : isScalar left = false)
    (rightCompound : isScalar right = false) (leftListable : left.Everywhere IsListable)
    (rightListable : right.Everywhere IsListable) (colors : Bool) :
    format colors .text left = format colors .text right ↔ left.sorted = right.sorted := by
  constructor
  · intro same
    have sameLines := congrArg (Text.segments '\n') same
    rw [segments_format_text leftListable, segments_format_text rightListable] at sameLines
    exact lines_plain_inj (leftListable.sorted fun _ => IsListable.sorted)
      (rightListable.sorted fun _ => IsListable.sorted) ((isScalar_sorted left).trans leftCompound)
      ((isScalar_sorted right).trans rightCompound) sameLines
  · intro same
    exact congrArg (fun value => String.intercalate "\n" (lines .plain 0 value)) same

/-- A text that looks like a field is not taken for one. -/
theorem format_text_ne_of_colon :
    format false .text (.object [("name", .text "type: Query"), ("sizes", .array [.ofNat 1])]) ≠
      format false .text (.object [("name", .object [("type", .text "Query")]),
        ("sizes", .array [.ofNat 1])]) := by
  have spells : ¬SpellsScalar "type: Query" :=
    not_spellsScalar (c := ':') (by decide) (by decide) rfl (by decide)
  have innerSpells : ¬SpellsScalar "Query" :=
    not_spellsScalar (c := 'Q') (by decide) (by decide) rfl (by decide)
  have areKeys : IsKey "name" ∧ IsKey "sizes" ∧ IsKey "type" := by decide
  have areLines : Text.IsLine "type: Query" ∧ Text.IsLine "Query" := by decide
  rw [ne_eq, format_text_inj rfl rfl _ _ false]
  · exact nofun
  · simp [IsListable, Value.ofNat, spells, areKeys, areLines]
  · simp [IsListable, Value.ofNat, innerSpells, areKeys, areLines]

end ServiceBindings.Listing
