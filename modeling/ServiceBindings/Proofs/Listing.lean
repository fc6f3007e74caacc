import ServiceBindings.Listing.Basic
import ServiceBindings.Proofs.Json.Number
import ServiceBindings.Proofs.Json.Part

/-!
# Lines of a listing

The lines of a value that is no scalar are those of its members one after the other.  Items and
fields differ only in the label in front of the value.  Every line tells something of a part of the
value, and whatever is told of a part stands in a line.
-/

namespace ServiceBindings.Listing

open Json (Value)

variable (style : Style) (depth : Nat)

/-- The items or fields of a value, each with its label. -/
def labelled : Value → List (String × Value)
  | .array items => items.map ("-", ·)
  | .object fields => fields.map fun field => (style.key field.1 ++ ":", field.2)
  | _ => []

/-- The lines of a value behind its label. -/
def labelledLines (member : String × Value) : List String :=
  memberLines style (Value.indentation depth ++ member.1) member.2
    (lines style (depth + 1) member.2)

theorem itemsLines_eq_flatMap (items : List Value) :
    itemsLines style depth items = (labelled style (.array items)).flatMap
      (labelledLines style depth) := by
  rw [labelled, List.flatMap_map]
  induction items with
  | nil => rfl
  | cons item rest ih => rw [itemsLines, ih, List.flatMap_cons, labelledLines]

theorem fieldsLines_eq_flatMap (fields : List (String × Value)) :
    fieldsLines style depth fields = (labelled style (.object fields)).flatMap
      (labelledLines style depth) := by
  rw [labelled, List.flatMap_map]
  induction fields with
  | nil => rfl
  | cons field rest ih =>
      rw [fieldsLines, ih, List.flatMap_cons, labelledLines, String.append_assoc]

theorem lines_of_isScalar {value : Value} (scalar : isScalar value = true) :
    lines style depth value = [Value.indentation depth ++ style.scalar value] := by
  cases value with
  | null | bool | number | text => rfl
  | array items =>
      cases items with
      | nil => rfl
      | cons item rest => cases scalar
  | object fields =>
      cases fields with
      | nil => rfl
      | cons field rest => cases scalar

theorem lines_of_not_isScalar {value : Value} (compound : isScalar value = false) :
    lines style depth value = (labelled style value).flatMap (labelledLines style depth) := by
  cases value with
  | null | bool | number | text => cases compound
  | array items =>
      cases items with
      | nil => cases compound
      | cons item rest => exact itemsLines_eq_flatMap style depth _
  | object fields =>
      cases fields with
      | nil => cases compound
      | cons field rest => exact fieldsLines_eq_flatMap style depth _

theorem labelled_ne_nil {value : Value} (compound : isScalar value = false) :
    labelled style value ≠ [] := by
  cases value with
  | null | bool | number | text => cases compound
  | array items =>
      cases items with
      | nil => cases compound
      | cons item rest => exact List.cons_ne_nil _ _
  | object fields =>
      cases fields with
      | nil => cases compound
      | cons field rest => exact List.cons_ne_nil _ _

theorem labelled_eq_nil {value : Value} (scalar : isScalar value = true) :
    labelled style value = [] := by
  cases value with
  | null | bool | number | text => rfl
  | array items =>
      rw [List.isEmpty_iff.mp scalar]
      rfl
  | object fields =>
      rw [List.isEmpty_iff.mp scalar]
      rfl

theorem lines_ne_nil (value : Value) : lines style depth value ≠ [] := by
  cases scalar : isScalar value with
  | true =>
      rw [lines_of_isScalar _ _ scalar]
      exact List.cons_ne_nil _ _
  | false =>
      obtain ⟨member, rest, isCons⟩ := List.exists_cons_of_ne_nil (labelled_ne_nil style scalar)
      rw [lines_of_not_isScalar _ _ scalar, isCons, List.flatMap_cons, labelledLines, memberLines]
      split <;> exact List.cons_ne_nil _ _

/-! ## Scalars -/

theorem isScalar_sorted (value : Value) : isScalar value.sorted = isScalar value := by
  cases value with
  | null | bool | number | text => rfl
  | array items =>
      rw [Value.sorted, Value.sortedItems_eq_map]
      exact List.isEmpty_map
  | object fields =>
      rw [Value.sorted, Bool.eq_iff_iff, isScalar, isScalar, List.isEmpty_iff, List.isEmpty_iff,
        Value.sortedFields_eq_nil_iff, and_iff_left rfl]

/-- Neither blanks nor control characters stand in a scalar that is no text. -/
theorem lt_of_mem_scalarText {value : Value} (scalar : isScalar value = true)
    (noText : ∀ text, value ≠ .text text) {c : Char} (member : c ∈ (scalarText value).toList) :
    ' ' < c := by
  have visible {text : String} (allVisible : text.toList.all (' ' < ·) = true)
      (inText : c ∈ text.toList) : ' ' < c :=
    of_decide_eq_true (List.all_eq_true.mp allVisible c inText)
  cases value with
  | null => exact visible (by decide) member
  | bool value => cases value <;> exact visible (by decide) member
  | number number => exact Json.lt_of_isFigure (Json.Number.isFigure_of_mem_text member)
  | text text => exact absurd rfl (noText text)
  | array items =>
      rw [List.isEmpty_iff.mp scalar] at member
      exact visible (by decide) member
  | object fields =>
      rw [List.isEmpty_iff.mp scalar] at member
      exact visible (by decide) member

theorem notMem_scalarText {c : Char} (invisible : ¬(' ' < c)) {value : Value}
    (scalar : isScalar value = true) (notInText : ∀ text, value = .text text → c ∉ text.toList) :
    c ∉ (scalarText value).toList := by
  cases value with
  | text text => exact notInText text rfl
  | null | bool | number | array | object =>
      intro member
      exact invisible (lt_of_mem_scalarText scalar (fun _ => nofun) member)

theorem eq_blank_of_mem_indentation {depth : Nat} {c : Char}
    (member : c ∈ (Value.indentation depth).toList) : c = ' ' := by
  rw [Value.indentation, String.toList_ofList] at member
  exact (List.mem_replicate.mp member).2

/-! ## What a line tells -/

variable {style}

theorem isPartOf_of_mem_labelled {value part : Value} {member : String × Value}
    (isMember : member ∈ labelled style value) (inside : part.IsPartOf member.2) :
    part.IsPartOf value := by
  cases value with
  | null | bool | number | text => cases isMember
  | array items =>
      obtain ⟨item, isItem, rfl⟩ := List.mem_map.mp isMember
      exact .inItem isItem inside
  | object fields =>
      obtain ⟨field, isField, rfl⟩ := List.mem_map.mp isMember
      exact .inField isField inside

variable (style) in
theorem eq_or_exists_labelled_of_isPartOf {part value : Value} (isPart : part.IsPartOf value) :
    part = value ∨ ∃ member ∈ labelled style value, part.IsPartOf member.2 := by
  cases isPart with
  | itself => exact .inl rfl
  | inItem isItem inside => exact .inr ⟨_, List.mem_map_of_mem isItem, inside⟩
  | inField isField inside => exact .inr ⟨_, List.mem_map_of_mem isField, inside⟩

theorem eq_of_isPartOf_of_isScalar {part value : Value} (scalar : isScalar value = true)
    (isPart : part.IsPartOf value) : part = value := by
  cases eq_or_exists_labelled_of_isPartOf .plain isPart with
  | inl same => exact same
  | inr inMember =>
      obtain ⟨member, isMember, _⟩ := inMember
      rw [labelled_eq_nil _ scalar] at isMember
      cases isMember

variable (style) in
/-- A property holds of every value if it passes from the members of a value to the value. -/
@[elab_as_elim]
theorem byLabelled {motive : Value → Prop}
    (step : ∀ value, (∀ member ∈ labelled style value, motive member.2) → motive value) :
    ∀ value, motive value := by
  intro value
  induction value using Value.byMembers with
  | null | bool | number | text =>
      apply step
      intro member isMember
      cases isMember
  | array items ih =>
      apply step
      intro member isMember
      obtain ⟨item, isItem, rfl⟩ := List.mem_map.mp isMember
      exact ih item isItem
  | object fields ih =>
      apply step
      intro member isMember
      obtain ⟨field, isField, rfl⟩ := List.mem_map.mp isMember
      exact ih field isField

theorem exists_scalar_part (value : Value) :
    ∃ part : Value, part.IsPartOf value ∧ isScalar part = true := by
  induction value using byLabelled .plain with
  | step value ih =>
      cases scalar : isScalar value with
      | true => exact ⟨value, .itself, scalar⟩
      | false =>
          obtain ⟨member, isMember⟩ := List.exists_mem_of_ne_nil _ (labelled_ne_nil .plain scalar)
          obtain ⟨part, isPart, partIsScalar⟩ := ih member isMember
          exact ⟨part, isPartOf_of_mem_labelled isMember isPart, partIsScalar⟩

/-- Whether a text tells something of a value in one line: what the value is, if it is a
scalar, or the label of a member, and what the member is, if that is a scalar. -/
inductive Tells (style : Style) (value : Value) : String → Prop where
  | scalar (isScalar : isScalar value = true) : Tells style value (style.scalar value)
  | label {member : String × Value} (isMember : member ∈ labelled style value) :
      Tells style value member.1
  | labelled {member : String × Value} (isMember : member ∈ labelled style value)
      (isScalar : isScalar member.2 = true) :
      Tells style value (member.1 ++ " " ++ style.scalar member.2)

theorem exists_of_mem_lines {depth : Nat} {value : Value} {line : String}
    (isLine : line ∈ lines style depth value) :
    ∃ deeper part content, depth ≤ deeper ∧ part.IsPartOf value ∧ Tells style part content ∧
      line = Value.indentation deeper ++ content := by
  induction value using byLabelled style generalizing depth with
  | step value ih =>
      cases scalar : isScalar value with
      | true =>
          rw [lines_of_isScalar _ _ scalar, List.mem_singleton] at isLine
          exact ⟨depth, value, _, Nat.le_refl _, .itself, .scalar scalar, isLine⟩
      | false =>
          rw [lines_of_not_isScalar _ _ scalar] at isLine
          obtain ⟨member, isMember, inMember⟩ := List.mem_flatMap.mp isLine
          rw [labelledLines, memberLines] at inMember
          split at inMember
          · rename_i memberIsScalar
            rw [List.mem_singleton] at inMember
            refine ⟨depth, value, _, Nat.le_refl _, .itself,
              .labelled isMember memberIsScalar, ?_⟩
            simp only [inMember, String.append_assoc]
          · cases List.mem_cons.mp inMember with
            | inl isLabel =>
                exact ⟨depth, value, _, Nat.le_refl _, .itself, .label isMember, isLabel⟩
            | inr inInner =>
                obtain ⟨deeper, part, content, isDeeper, isPart, tells, isContent⟩ :=
                  ih member isMember inInner
                exact ⟨deeper, part, content, Nat.le_of_succ_le isDeeper,
                  isPartOf_of_mem_labelled isMember isPart, tells, isContent⟩

theorem exists_line_of_labelled (depth : Nat) {value : Value} {member : String × Value}
    (isMember : member ∈ labelled style value) {content : String}
    (inMember : ∃ line ∈ labelledLines style depth member, content.toList <:+: line.toList) :
    ∃ line ∈ lines style depth value, content.toList <:+: line.toList := by
  have compound : isScalar value = false := by
    apply Bool.eq_false_iff.mpr
    intro scalar
    rw [labelled_eq_nil style scalar] at isMember
    cases isMember
  obtain ⟨line, isLine, isInside⟩ := inMember
  rw [lines_of_not_isScalar _ _ compound]
  exact ⟨line, List.mem_flatMap.mpr ⟨member, isMember, isLine⟩, isInside⟩

theorem infix_append_left (front back : String) : back.toList <:+: (front ++ back).toList := by
  rw [String.toList_append]
  exact (List.suffix_append _ _).isInfix

/-- What is told of a value stands in one of its lines. -/
theorem Tells.exists_line {value : Value} {content : String} (tells : Tells style value content)
    (depth : Nat) : ∃ line ∈ lines style depth value, content.toList <:+: line.toList := by
  cases tells with
  | scalar scalar =>
      rw [lines_of_isScalar _ _ scalar]
      exact ⟨_, List.mem_singleton_self _, infix_append_left _ _⟩
  | label isMember =>
      apply exists_line_of_labelled depth isMember
      rw [labelledLines, memberLines]
      split
      · refine ⟨_, List.mem_singleton_self _, ?_⟩
        rw [String.append_assoc, String.toList_append]
        exact (infix_append_left _ _).trans (List.prefix_append _ _).isInfix
      · exact ⟨_, List.mem_cons_self, infix_append_left _ _⟩
  | labelled isMember scalar =>
      apply exists_line_of_labelled depth isMember
      rw [labelledLines, memberLines, if_pos scalar]
      refine ⟨_, List.mem_singleton_self _, ?_⟩
      rw [String.append_assoc, String.append_assoc, String.append_assoc]
      exact infix_append_left _ _

/-- Whatever is told of a part of a value stands in one of the lines of the value. -/
theorem Tells.exists_line_of_isPartOf {part value : Value} {content : String}
    (tells : Tells style part content) (isPart : part.IsPartOf value) (depth : Nat) :
    ∃ line ∈ lines style depth value, content.toList <:+: line.toList := by
  induction value using byLabelled style generalizing depth with
  | step value ih =>
      cases eq_or_exists_labelled_of_isPartOf style isPart with
      | inl same =>
          subst same
          exact tells.exists_line depth
      | inr inMember =>
          obtain ⟨member, isMember, inside⟩ := inMember
          apply exists_line_of_labelled depth isMember
          rw [labelledLines, memberLines]
          split
          · -- The line of a scalar member is not the line that it has on its own.
            rename_i scalar
            rw [eq_of_isPartOf_of_isScalar scalar inside] at tells
            cases tells with
            | scalar => exact ⟨_, List.mem_singleton_self _, infix_append_left _ _⟩
            | label isInner | labelled isInner =>
                rw [labelled_eq_nil style scalar] at isInner
                cases isInner
          · obtain ⟨line, isLine, isInside⟩ := ih member isMember inside (depth + 1)
            exact ⟨line, List.mem_cons_of_mem _ isLine, isInside⟩

end ServiceBindings.Listing
