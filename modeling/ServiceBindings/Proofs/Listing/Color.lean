import Mathlib.Data.List.Forall2
import ServiceBindings.Proofs.Listing

/-!
# Colors of a listing

A color sequence is the escape character and an opening bracket, then codes with semicolons between
them, and the letter `m`.  In a listing in colors every key and every scalar is painted, so there are
color sequences in it.  Without them it is the plain listing, as long as no text in it brings an
escape character of its own.
-/

namespace ServiceBindings.Listing

open Json (Value)

/-! ## Removing color sequences -/

/-- Whether a character may stand between the bracket and the end of a color sequence. -/
def isCode (c : Char) : Bool := c.isDigit || c == ';'

/-- What follows the color sequence with which characters start. -/
def afterSequence? : List Char → Option (List Char)
  | '\x1b' :: '[' :: rest =>
    match rest.dropWhile isCode with
    | 'm' :: after => some after
    | _ => none
  | _ => none

theorem length_of_afterSequence? {characters after : List Char}
    (found : afterSequence? characters = some after) : after.length < characters.length := by
  rw [afterSequence?.eq_def] at found
  split at found
  · rename_i rest
    have shorter := (List.dropWhile_suffix isCode (l := rest)).length_le
    split at found
    · rename_i isEnd
      cases found
      rw [isEnd, List.length_cons] at shorter
      rw [List.length_cons, List.length_cons]
      omega
    · cases found
  · cases found

/-- Characters without all color sequences. -/
def withoutSequences : List Char → List Char
  | [] => []
  | c :: rest =>
    match _found : afterSequence? (c :: rest) with
    | some after => withoutSequences after
    | none => c :: withoutSequences rest
termination_by characters => characters.length
decreasing_by
  · exact length_of_afterSequence? _found
  · exact Nat.lt_succ_self _

/-- A text without all color sequences. -/
def withoutColors (text : String) : String := String.ofList (withoutSequences text.toList)

theorem withoutSequences_of_afterSequence? {characters after : List Char}
    (found : afterSequence? characters = some after) :
    withoutSequences characters = withoutSequences after := by
  cases characters with
  | nil => cases found
  | cons c rest =>
      rw [withoutSequences]
      split
      · rename_i other isAfter
        rw [found, Option.some.injEq] at isAfter
        rw [isAfter]
      · rename_i isNone
        rw [found] at isNone
        cases isNone

theorem withoutSequences_append_of_absent {front : List Char} (absent : '\x1b' ∉ front)
    (rest : List Char) : withoutSequences (front ++ rest) = front ++ withoutSequences rest := by
  induction front with
  | nil => rfl
  | cons c others ih =>
      rw [List.mem_cons, not_or] at absent
      have noSequence : afterSequence? (c :: (others ++ rest)) = none := by
        rw [afterSequence?.eq_def]
        split
        · rename_i isStart
          exact absurd (List.cons.inj isStart).1.symm absent.1
        · rfl
      rw [List.cons_append, withoutSequences]
      split
      · rename_i isSome
        rw [noSequence] at isSome
        cases isSome
      · rw [ih absent.2, List.cons_append]

theorem withoutSequences_sequence_append {codes : String}
    (areCodes : codes.toList.all isCode = true) (rest : List Char) :
    withoutSequences (Color.sequence codes ++ rest) = withoutSequences rest := by
  apply withoutSequences_of_afterSequence?
  have ends : (codes.toList ++ 'm' :: rest).dropWhile isCode = 'm' :: rest := by
    rw [List.dropWhile_append_of_pos (List.all_eq_true.mp areCodes)]
    rfl
  have isSequence : Color.sequence codes ++ rest = '\x1b' :: '[' :: (codes.toList ++ 'm' :: rest) := by
    simp [Color.sequence]
  rw [isSequence, afterSequence?]
  split
  · rename_i isEnd
    rw [ends] at isEnd
    rw [(List.cons.inj isEnd).2]
  · rename_i noEnd
    exact absurd ends (noEnd rest)

/-! ## Texts that show as others -/

/-- Whether a text is another one with color sequences in it.  Nothing that comes after the text
makes a difference to that. -/
def ShowsAs (shown plain : String) : Prop :=
  ∀ rest, withoutSequences (shown.toList ++ rest) = plain.toList ++ withoutSequences rest

theorem ShowsAs.withoutColors_eq {shown plain : String} (showsAs : ShowsAs shown plain) :
    withoutColors shown = plain := by
  have whole := showsAs []
  rw [List.append_nil, withoutSequences, List.append_nil] at whole
  rw [withoutColors, whole, String.ofList_toList]

theorem showsAs_self {text : String} (absent : '\x1b' ∉ text.toList) : ShowsAs text text :=
  withoutSequences_append_of_absent absent

theorem ShowsAs.append {shown plain otherShown otherPlain : String} (first : ShowsAs shown plain)
    (second : ShowsAs otherShown otherPlain) :
    ShowsAs (shown ++ otherShown) (plain ++ otherPlain) := by
  intro rest
  rw [String.toList_append, String.toList_append, List.append_assoc, first, second,
    List.append_assoc]

theorem sustained_of_absent (opening : List Char) {characters : List Char}
    (absent : '\x1b' ∉ characters) : Color.sustained opening characters = characters := by
  induction characters with
  | nil => rfl
  | cons c rest ih =>
      rw [List.mem_cons, not_or] at absent
      rw [Color.sustained]
      · rw [ih absent.2]
      · intro others isEscape
        exact absurd isEscape.symm absent.1

theorem showsAs_paint (color : Color) {text : String} (absent : '\x1b' ∉ text.toList) :
    ShowsAs (color.paint text) text := by
  have openingCodes : color.codes.toList.all isCode = true := by cases color <;> decide
  have resetCodes : "0".toList.all isCode = true := by decide
  intro rest
  rw [Color.paint, String.toList_ofList, sustained_of_absent _ absent, List.append_assoc,
    List.append_assoc, withoutSequences_sequence_append openingCodes,
    withoutSequences_append_of_absent absent, Color.reset,
    withoutSequences_sequence_append resetCodes]

theorem showsAs_intercalate {joint : String} (jointShows : ShowsAs joint joint)
    {shown plain : List String} (showAs : List.Forall₂ ShowsAs shown plain) :
    ShowsAs (String.intercalate joint shown) (String.intercalate joint plain) := by
  induction showAs with
  | nil => exact showsAs_self (by simp)
  | cons first others ih =>
      cases others with
      | nil => simpa using first
      | cons second rest =>
          rw [String.intercalate_cons_cons, String.intercalate_cons_cons]
          exact (first.append jointShows).append ih

/-! ## What is painted -/

theorem infix_intercalate (joint : String) {line : String} {lines : List String}
    (member : line ∈ lines) : line.toList <:+: (String.intercalate joint lines).toList := by
  induction lines with
  | nil => cases member
  | cons first rest ih =>
      cases rest with
      | nil =>
          have isWhole : line = String.intercalate joint [first] := by
            rw [List.mem_singleton.mp member, String.intercalate_singleton]
          exact isWhole ▸ List.infix_rfl
      | cons second others =>
          rw [String.intercalate_cons_cons]
          cases List.mem_cons.mp member with
          | inl isFirst =>
              rw [isFirst, String.append_assoc, String.toList_append]
              exact (List.prefix_append _ _).isInfix
          | inr inRest => exact (ih inRest).trans (infix_append_left _ _)

/-- Whatever is told in colors of a part of a value stands in the listing in colors. -/
theorem Tells.infix_format_pretty {part value : Value} {content : String}
    (tells : Tells .colored part content) (isPart : part.IsPartOf value.sorted) :
    content.toList <:+: (format true .pretty value).toList := by
  obtain ⟨line, isLine, isInside⟩ := tells.exists_line_of_isPartOf isPart 0
  exact isInside.trans (infix_intercalate "\n" isLine)

theorem paint_scalar_infix_format_pretty {part value : Value} (isPart : part.IsPartOf value.sorted)
    (scalar : isScalar part = true) :
    ((scalarColor part).paint (scalarText part)).toList <:+: (format true .pretty value).toList :=
  (Tells.scalar scalar).infix_format_pretty isPart

theorem paint_key_infix_format_pretty {fields : List (String × Value)} {value : Value}
    (isPart : (Value.object fields).IsPartOf value.sorted) {field : String × Value}
    (isField : field ∈ fields) :
    (Color.key.paint field.1).toList <:+: (format true .pretty value).toList := by
  have isMember : (Color.key.paint field.1 ++ ":", field.2) ∈ labelled .colored (.object fields) :=
    List.mem_map.mpr ⟨field, isField, rfl⟩
  have inLabel : (Color.key.paint field.1).toList <:+: (Color.key.paint field.1 ++ ":").toList := by
    rw [String.toList_append]
    exact (List.prefix_append _ _).isInfix
  exact inLabel.trans ((Tells.label isMember).infix_format_pretty isPart)

theorem sequence_prefix_paint (color : Color) (text : String) :
    Color.sequence color.codes <+: (color.paint text).toList := by
  rw [Color.paint, String.toList_ofList]
  exact List.prefix_append _ _

/-- There are color sequences in every listing in colors. -/
theorem exists_sequence_infix_format_pretty (value : Value) :
    ∃ color : Color, Color.sequence color.codes <:+: (format true .pretty value).toList := by
  obtain ⟨part, isPart, scalar⟩ := exists_scalar_part value.sorted
  have painted := paint_scalar_infix_format_pretty isPart scalar
  exact ⟨scalarColor part, (sequence_prefix_paint _ _).isInfix.trans painted⟩

/-! ## Listings in colors -/

/-- Whether there is no escape character in a text or in the keys of an object. -/
def LacksEscapes : Value → Prop
  | .text text => '\x1b' ∉ text.toList
  | .object fields => ∀ field ∈ fields, '\x1b' ∉ field.1.toList
  | _ => True

theorem LacksEscapes.sorted {part : Value} (lacks : LacksEscapes part) :
    LacksEscapes part.sorted := by
  cases part with
  | null | bool | number | text | array => exact lacks
  | object fields => exact Value.forall_key_sortedFields (fun key => '\x1b' ∉ key.toList) lacks

theorem escape_notMem_scalarText {value : Value} (scalar : isScalar value = true)
    (lacks : LacksEscapes value) : '\x1b' ∉ (scalarText value).toList := by
  apply notMem_scalarText (by decide) scalar
  rintro text rfl
  exact lacks

theorem showAs_memberLines {shown plain : String} (labels : ShowsAs shown plain) {value : Value}
    (lacks : LacksEscapes value) {shownInner plainInner : List String}
    (inner : List.Forall₂ ShowsAs shownInner plainInner) :
    List.Forall₂ ShowsAs (memberLines .colored shown value shownInner)
      (memberLines .plain plain value plainInner) := by
  rw [memberLines, memberLines]
  split
  · rename_i scalar
    have shows := showsAs_paint (scalarColor value) (escape_notMem_scalarText scalar lacks)
    have space : ShowsAs " " " " := showsAs_self (by decide)
    exact .cons ((labels.append space).append shows) .nil
  · exact .cons labels inner

theorem showsAs_indentation (depth : Nat) :
    ShowsAs (Value.indentation depth) (Value.indentation depth) := by
  apply showsAs_self
  intro member
  exact absurd (eq_blank_of_mem_indentation member) (by decide)

theorem forall₂_flatMap {α β : Type} {related : β → β → Prop} {first second : α → List β}
    {items : List α} (images : ∀ item ∈ items, List.Forall₂ related (first item) (second item)) :
    List.Forall₂ related (items.flatMap first) (items.flatMap second) := by
  induction items with
  | nil => exact .nil
  | cons item rest ih =>
      rw [List.flatMap_cons, List.flatMap_cons]
      exact List.rel_append (images item List.mem_cons_self)
        (ih fun other member => images other (List.mem_cons_of_mem _ member))

theorem showAs_lines_of_isScalar (depth : Nat) {value : Value} (scalar : isScalar value = true)
    (lacks : LacksEscapes value) :
    List.Forall₂ ShowsAs (lines .colored depth value) (lines .plain depth value) := by
  have shows := showsAs_paint (scalarColor value) (escape_notMem_scalarText scalar lacks)
  rw [lines_of_isScalar _ _ scalar, lines_of_isScalar _ _ scalar]
  exact .cons ((showsAs_indentation depth).append shows) .nil

/-- Line by line, a value in colors shows as the plain value. -/
theorem showAs_lines {value : Value} (lack : value.Everywhere LacksEscapes) (depth : Nat) :
    List.Forall₂ ShowsAs (lines .colored depth value) (lines .plain depth value) := by
  induction value using Value.byMembers generalizing depth with
  | null | bool | number | text =>
      exact showAs_lines_of_isScalar depth rfl (lack _ .itself)
  | array items ih =>
      cases scalar : isScalar (.array items) with
      | true => exact showAs_lines_of_isScalar depth scalar (lack _ .itself)
      | false =>
          rw [lines_of_not_isScalar _ _ scalar, lines_of_not_isScalar _ _ scalar, labelled, labelled,
            List.flatMap_map, List.flatMap_map]
          apply forall₂_flatMap
          intro item isItem
          have inItem := ((Value.everywhere_array_iff items).mp lack).2 item isItem
          have dash : ShowsAs "-" "-" := showsAs_self (by decide)
          exact showAs_memberLines ((showsAs_indentation depth).append dash) (inItem _ .itself)
            (ih item isItem inItem (depth + 1))
  | object fields ih =>
      cases scalar : isScalar (.object fields) with
      | true => exact showAs_lines_of_isScalar depth scalar (lack _ .itself)
      | false =>
          rw [lines_of_not_isScalar _ _ scalar, lines_of_not_isScalar _ _ scalar, labelled, labelled,
            List.flatMap_map, List.flatMap_map]
          apply forall₂_flatMap
          intro field isField
          have inField := ((Value.everywhere_object_iff fields).mp lack).2 field isField
          have key := showsAs_paint .key (lack _ .itself field isField)
          have colon : ShowsAs ":" ":" := showsAs_self (by decide)
          exact showAs_memberLines ((showsAs_indentation depth).append (key.append colon))
            (inField _ .itself) (ih field isField inField (depth + 1))

/-- Without its color sequences the listing in colors is the plain one. -/
theorem withoutColors_format_pretty {value : Value} (lack : value.Everywhere LacksEscapes)
    (colors : Bool) :
    withoutColors (format true .pretty value) = format colors .text value := by
  have lines := showAs_lines (lack.sorted fun _ => LacksEscapes.sorted) 0
  have lineBreak : ShowsAs "\n" "\n" := showsAs_self (by decide)
  exact (showsAs_intercalate lineBreak lines).withoutColors_eq

theorem withoutColors_format_pretty_of_breaks :
    let value : Value := .object [("files", .array [.text "a\nb", .text "", .object []]),
      ("clean", .bool true), ("size", .ofNat 2)]
    format true .pretty value =
      "\x1b[1;34mclean\x1b[0m: \x1b[33mtrue\x1b[0m\n\x1b[1;34mfiles\x1b[0m:\n" ++
        "  - \x1b[32ma\nb\x1b[0m\n  - \x1b[32m\x1b[0m\n  - \x1b[32m\x7b\x7d\x1b[0m\n" ++
          "\x1b[1;34msize\x1b[0m: \x1b[36m2\x1b[0m" ∧
    withoutColors (format true .pretty value) =
      "clean: true\nfiles:\n  - a\nb\n  - \n  - \x7b\x7d\nsize: 2" := by
  intro value
  have lack : value.Everywhere LacksEscapes := by
    simp [value, LacksEscapes, Value.ofNat]
  constructor
  · cbv
  · exact withoutColors_format_pretty lack false

end ServiceBindings.Listing
