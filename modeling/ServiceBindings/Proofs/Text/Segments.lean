import Mathlib.Data.List.Infix
import ServiceBindings.Text.Segments

/-!
# Texts and their segments

Joining segments with their separator gives the text back, and a text that ends in a separator
is cut where the separator was.  The segments are what stands between the separators and the ends
of a text.  What is put behind a text without a separator goes to the last segment.
-/

namespace ServiceBindings.Text

variable {separator : Char}

theorem segments_ne_nil (separator : Char) (text : String) : segments separator text ≠ [] := by
  simp [segments]

theorem segments_append_separator_append (front back : String) :
    segments separator (front ++ String.singleton separator ++ back) =
      segments separator front ++ segments separator back := by
  simp [segments, List.splitOn_append_cons_self]

/-- The characters of a part are those of the whole, without the separator. -/
theorem of_mem_splitOn {part characters : List Char} {c : Char}
    (member : part ∈ characters.splitOn separator) (inPart : c ∈ part) :
    c ≠ separator ∧ c ∈ characters := by
  induction characters generalizing part with
  | nil =>
      rw [List.splitOn_nil, List.mem_singleton] at member
      subst member
      cases inPart
  | cons head rest ih =>
      rw [List.splitOn_cons_eq_if_modifyHead] at member
      have later {other : List Char} (inRest : other ∈ rest.splitOn separator)
          (inOther : c ∈ other) : c ≠ separator ∧ c ∈ head :: rest :=
        ⟨(ih inRest inOther).1, List.mem_cons_of_mem _ (ih inRest inOther).2⟩
      split at member
      · rcases List.mem_cons.mp member with rfl | inRest
        · cases inPart
        · exact later inRest inPart
      · rename_i different
        rcases List.exists_cons_of_ne_nil (List.splitOn_ne_nil separator rest) with
          ⟨first, others, isSplit⟩
        rw [isSplit] at member later
        rcases List.mem_cons.mp member with rfl | inOthers
        · rcases List.mem_cons.mp inPart with rfl | inFirst
          · exact ⟨by simpa using different, List.mem_cons_self ..⟩
          · exact later (List.mem_cons_self ..) inFirst
        · exact later (List.mem_cons_of_mem _ inOthers) inPart

theorem separator_notMem_of_mem_segments {text segment : String}
    (member : segment ∈ segments separator text) : separator ∉ segment.toList := by
  rcases List.mem_map.mp member with ⟨characters, isPart, rfl⟩
  rw [String.toList_ofList]
  intro inside
  exact (of_mem_splitOn isPart inside).1 rfl

theorem mem_of_mem_segments {text segment : String} {c : Char}
    (member : segment ∈ segments separator text) (inSegment : c ∈ segment.toList) :
    c ∈ text.toList := by
  rcases List.mem_map.mp member with ⟨characters, isPart, rfl⟩
  rw [String.toList_ofList] at inSegment
  exact (of_mem_splitOn isPart inSegment).2

theorem intercalate_segments (separator : Char) (text : String) :
    String.intercalate (String.singleton separator) (segments separator text) = text := by
  apply String.ext_iff.mpr
  rw [String.toList_intercalate, segments, List.map_map]
  have asLists : String.toList ∘ String.ofList = id := by
    funext characters
    exact String.toList_ofList
  rw [asLists, List.map_id, String.toList_singleton]
  exact List.intercalate_splitOn separator

theorem segments_inj {left right : String}
    (same : segments separator left = segments separator right) : left = right := by
  rw [← intercalate_segments separator left, same, intercalate_segments]

theorem segments_of_absent {text : String} (absent : separator ∉ text.toList) :
    segments separator text = [text] := by
  rw [segments, List.splitOn_eq_singleton absent, List.map_singleton, String.ofList_toList]

/-- Whether a text is a component of another one: it has no separator inside, and it is set off
from what stands before and behind it by a separator, unless nothing stands there. -/
structure IsComponent (separator : Char) (text component : String) : Prop where
  absent : separator ∉ component.toList
  setOff : ∃ before after, text = before ++ component ++ after ∧
    (before = "" ∨ ∃ front, before = front ++ String.singleton separator) ∧
    (after = "" ∨ ∃ back, after = String.singleton separator ++ back)

theorem isComponent_of_mem_segments {text component : String}
    (member : component ∈ segments separator text) : IsComponent separator text component := by
  obtain ⟨front, back, isCut⟩ := List.append_of_mem member
  have joined : text = String.intercalate (String.singleton separator)
      (front ++ component :: back) := by
    rw [← isCut, intercalate_segments]
  have behind : ∃ after, String.intercalate (String.singleton separator) (component :: back) =
      component ++ after ∧ (after = "" ∨ ∃ rest, after = String.singleton separator ++ rest) := by
    by_cases atEnd : back = []
    · exact ⟨"", by simp [atEnd], .inl rfl⟩
    · exact ⟨_, by rw [String.intercalate_cons_of_ne_nil atEnd, String.append_assoc], .inr ⟨_, rfl⟩⟩
  obtain ⟨after, isBehind, afterSetOff⟩ := behind
  refine ⟨separator_notMem_of_mem_segments member, ?_⟩
  by_cases atStart : front = []
  · refine ⟨"", after, ?_, .inl rfl, afterSetOff⟩
    rw [joined, atStart, List.nil_append, isBehind, String.empty_append]
  · refine ⟨String.intercalate (String.singleton separator) front ++ String.singleton separator,
      after, ?_, .inr ⟨_, rfl⟩, afterSetOff⟩
    rw [joined, String.intercalate_append_of_ne_nil atStart (List.cons_ne_nil component back),
      isBehind, ← String.append_assoc]

theorem IsComponent.mem_segments {text component : String}
    (isComponent : IsComponent separator text component) :
    component ∈ segments separator text := by
  obtain ⟨absent, before, after, rfl, beforeSetOff, afterSetOff⟩ := isComponent
  have first : component ∈ segments separator (component ++ after) := by
    rcases afterSetOff with rfl | ⟨back, rfl⟩
    · rw [String.append_empty, segments_of_absent absent]
      exact List.mem_singleton.mpr rfl
    · rw [← String.append_assoc, segments_append_separator_append, segments_of_absent absent]
      exact List.mem_append_left _ (List.mem_singleton.mpr rfl)
  rcases beforeSetOff with rfl | ⟨front, rfl⟩
  · rwa [String.empty_append]
  · have isCut : front ++ String.singleton separator ++ component ++ after =
        front ++ String.singleton separator ++ (component ++ after) := String.append_assoc
    rw [isCut, segments_append_separator_append]
    exact List.mem_append_right _ first

/-- The segments of a text are its components. -/
theorem mem_segments_iff {text component : String} :
    component ∈ segments separator text ↔ IsComponent separator text component :=
  ⟨isComponent_of_mem_segments, IsComponent.mem_segments⟩

/-- The segments of joined texts are those of one after the other. -/
theorem segments_intercalate_eq_flatMap {parts : List String} (nonempty : parts ≠ []) :
    segments separator (String.intercalate (String.singleton separator) parts) =
      parts.flatMap (segments separator) := by
  induction parts with
  | nil => exact absurd rfl nonempty
  | cons part rest ih =>
      cases rest with
      | nil => rw [String.intercalate_singleton, List.flatMap_singleton]
      | cons next others =>
          rw [String.intercalate_cons_cons, segments_append_separator_append,
            ih (List.cons_ne_nil next others), ← List.flatMap_cons]

theorem segments_intercalate {parts : List String} (nonempty : parts ≠ [])
    (absent : ∀ part ∈ parts, separator ∉ part.toList) :
    segments separator (String.intercalate (String.singleton separator) parts) = parts := by
  have single : parts.flatMap (segments separator) = parts.flatMap fun part => [part] :=
    List.flatMap_congr fun part member => segments_of_absent (absent part member)
  rw [segments_intercalate_eq_flatMap nonempty, single, List.flatMap_singleton']

/-- What is put behind a text belongs to its last segment. -/
theorem segments_append_of_absent {text last ending : String} {front : List String}
    (isCut : segments separator text = front ++ [last]) (absent : separator ∉ ending.toList) :
    segments separator (text ++ ending) = front ++ [last ++ ending] := by
  have lastAbsent : separator ∉ last.toList :=
    separator_notMem_of_mem_segments (isCut ▸ List.mem_concat_self)
  have endAbsent : separator ∉ (last ++ ending).toList := by simp [lastAbsent, absent]
  have joined : text = String.intercalate (String.singleton separator) (front ++ [last]) := by
    rw [← isCut, intercalate_segments]
  by_cases single : front = []
  · subst single
    rw [List.nil_append, String.intercalate_singleton] at joined
    rw [joined, segments_of_absent endAbsent]
    rfl
  · have frontAbsent : ∀ part ∈ front, separator ∉ part.toList := by
      intro part member
      exact separator_notMem_of_mem_segments (isCut ▸ List.mem_append_left _ member)
    rw [String.intercalate_append_of_ne_nil single (by simp), String.intercalate_singleton]
      at joined
    rw [joined, String.append_assoc, segments_append_separator_append,
      segments_intercalate single frontAbsent, segments_of_absent endAbsent]

/-! ## Texts cut at their last separator -/

/-- A text without a separator, or one in two parts around its last separator. -/
theorem absent_or_exists_last (separator : Char) (text : String) :
    separator ∉ text.toList ∨ ∃ front last,
      text = front ++ String.singleton separator ++ last ∧ separator ∉ last.toList := by
  by_cases member : separator ∈ text.toList
  · obtain ⟨after, before, isReversed, absent⟩ :=
      List.eq_append_cons_of_mem (List.mem_reverse.mpr member)
    refine .inr ⟨String.ofList before.reverse, String.ofList after.reverse, ?_,
      by simpa using absent⟩
    rw [← String.toList_inj, ← List.reverse_inj, isReversed]
    simp
  · exact .inl member

theorem bne_of_mem_reverse {text : String} (absent : separator ∉ text.toList) :
    ∀ c ∈ text.toList.reverse, (c != separator) = true := by
  intro c member
  rw [bne_iff_ne]
  intro isSeparator
  exact absent (isSeparator ▸ List.mem_reverse.mp member)

theorem cutLast?_of_absent {text : String} (absent : separator ∉ text.toList) :
    cutLast? separator text = none := by
  rw [cutLast?, ← List.append_nil text.toList.reverse,
    List.dropWhile_append_of_pos (bne_of_mem_reverse absent), List.dropWhile_nil]

theorem cutLast?_append_separator_append (front : String) {last : String}
    (absent : separator ∉ last.toList) :
    cutLast? separator (front ++ String.singleton separator ++ last) = some (front, last) := by
  have inside := bne_of_mem_reverse absent
  rw [cutLast?, String.toList_append, List.reverse_append,
    List.dropWhile_append_of_pos inside, List.takeWhile_append_of_pos inside]
  simp

/-- A text is cut off its last segment. -/
theorem cutLast?_of_segments {text last : String} {front : List String}
    (isCut : segments separator text = front ++ [last]) :
    cutLast? separator text =
      if front = [] then none
      else some (String.intercalate (String.singleton separator) front, last) := by
  have absent : separator ∉ last.toList :=
    separator_notMem_of_mem_segments (isCut ▸ List.mem_concat_self)
  have joined : text = String.intercalate (String.singleton separator) (front ++ [last]) := by
    rw [← isCut, intercalate_segments]
  split
  · rename_i single
    rw [single, List.nil_append, String.intercalate_singleton] at joined
    rw [joined]
    exact cutLast?_of_absent absent
  · rename_i nonempty
    rw [String.intercalate_append_of_ne_nil nonempty (by simp), String.intercalate_singleton]
      at joined
    rw [joined]
    exact cutLast?_append_separator_append _ absent

/-! ## Characters of joined texts -/

theorem notMem_intercalate {c : Char} {joint : String} (notInJoint : c ∉ joint.toList)
    {parts : List String} (absent : ∀ part ∈ parts, c ∉ part.toList) :
    c ∉ (String.intercalate joint parts).toList := by
  induction parts with
  | nil => simp
  | cons part rest ih =>
      have notInPart := absent part List.mem_cons_self
      have notInRest := ih fun other member => absent other (List.mem_cons_of_mem _ member)
      cases rest with
      | nil => simpa using notInPart
      | cons next others =>
          rw [String.intercalate_cons_cons]
          simp only [String.toList_append, List.mem_append, not_or]
          exact ⟨⟨notInPart, notInJoint⟩, notInRest⟩

/-! ## The order of texts -/

theorem lt_append (front : String) {back : String} (nonempty : back ≠ "") :
    front < front ++ back := by
  obtain ⟨first, rest, isCons⟩ : ∃ first rest, back.toList = first :: rest :=
    List.exists_cons_of_ne_nil (by simpa using nonempty)
  rw [String.lt_iff, String.toList_append, isCons]
  have longer : front.toList ++ [] < front.toList ++ first :: rest :=
    List.append_left_lt (List.nil_lt_cons first rest)
  rwa [List.append_nil] at longer

/-! ## Replaced separators -/

variable {new : Char}

@[simp] theorem replaceChar_append (first second : String) :
    replaceChar separator new (first ++ second) =
      replaceChar separator new first ++ replaceChar separator new second := by
  simp [replaceChar]

@[simp] theorem replaceChar_eq_empty_iff (text : String) :
    replaceChar separator new text = "" ↔ text = "" := by
  simp [replaceChar]

theorem replaceChar_of_absent {text : String} (absent : separator ∉ text.toList) :
    replaceChar separator new text = text := by
  have kept : ∀ c ∈ text.toList, (if c == separator then new else c) = id c := by
    intro c member
    have different : c ≠ separator := by
      rintro rfl
      exact absent member
    simp [different]
  rw [replaceChar, List.map_congr_left kept, List.map_id, String.ofList_toList]

/-- Replacing the separator of joined parts is joining them with another one. -/
theorem replaceChar_intercalate {parts : List String}
    (absent : ∀ part ∈ parts, separator ∉ part.toList) :
    replaceChar separator new (String.intercalate (String.singleton separator) parts) =
      String.intercalate (String.singleton new) parts := by
  have replaced : replaceChar separator new (String.singleton separator) = String.singleton new := by
    simp [replaceChar]
  induction parts with
  | nil => rfl
  | cons part rest ih =>
      have isPart : replaceChar separator new part = part :=
        replaceChar_of_absent (absent part List.mem_cons_self)
      cases rest with
      | nil => rw [String.intercalate_singleton, String.intercalate_singleton, isPart]
      | cons next others =>
          rw [String.intercalate_cons_cons, String.intercalate_cons_cons, replaceChar_append,
            replaceChar_append, isPart, replaced,
            ih fun other member => absent other (List.mem_cons_of_mem _ member)]

end ServiceBindings.Text
