import ServiceBindings.Artifact.Path
import ServiceBindings.Proofs.Path
import ServiceBindings.Proofs.Text.Segments

/-!
# Joined artifact paths

A joined path is an artifact path if each of its segments, apart from slashes at the ends, is
one or is empty, and if the last one is a name.
-/

namespace ServiceBindings

namespace Artifact

theorem Path.exists_ofText_iff {text : String} :
    (∃ path, Path.ofText text = .ok path) ↔ Artifact.isPath text = true := by
  constructor
  · intro given
    obtain ⟨path, isValid⟩ := given
    rw [ofText] at isValid
    split at isValid
    · cases isValid
    · split at isValid
      · assumption
      · cases isValid
  · intro valid
    have nonempty : text.isEmpty = false := by
      rw [Bool.eq_false_iff, Ne, String.isEmpty_iff]
      intro isEmpty
      subst isEmpty
      cases valid
    have notFirst : text.toList.head? ≠ some '/' := by
      intro isFirst
      obtain ⟨rest, isCons⟩ := List.head?_eq_some_iff.mp isFirst
      rw [Artifact.isPath, Text.segments, isCons] at valid
      simp [List.splitOn_cons_eq_if_modifyHead, isName] at valid
    refine ⟨⟨text, valid⟩, ?_⟩
    rw [ofText, if_neg (by simp [nonempty, notFirst]), dif_pos valid]

theorem isName_of_mem {component : String} {c : Char} (member : c ∈ component.toList)
    (notDot : c ≠ '.') : isName component = true := by
  rw [isName, Bool.and_eq_true, Bool.and_eq_true, Bool.not_eq_true', bne_iff_ne, bne_iff_ne]
  refine ⟨⟨?_, ?_⟩, ?_⟩
  · cases isEmpty : component.isEmpty with
    | false => rfl
    | true =>
        rw [String.isEmpty_iff] at isEmpty
        simp [isEmpty] at member
  · intro same
    simp [same, notDot] at member
  · intro same
    simp [same, notDot] at member

theorem isPath_intercalate {parts : List String} (nonempty : parts ≠ [])
    (arePaths : ∀ part ∈ parts, isPath part = true) :
    isPath (String.intercalate "/" parts) = true := by
  have areSegments : Text.segments '/' (String.intercalate "/" parts) =
      parts.flatMap (Text.segments '/') := Text.segments_intercalate_eq_flatMap nonempty
  rw [isPath, areSegments, List.all_eq_true]
  intro component member
  obtain ⟨part, partMember, inPart⟩ := List.mem_flatMap.mp member
  exact List.all_eq_true.mp (arePaths part partMember) component inPart

/-- Whether a text that becomes part of a path leads nowhere but further inside: apart from
slashes at its ends it is empty or an artifact path. -/
def LeadsInside (segment : String) : Prop :=
  Text.trimBoth '/' segment = "" ∨ isPath (Text.trimBoth '/' segment) = true

instance (segment : String) : Decidable (LeadsInside segment) :=
  inferInstanceAs (Decidable (_ ∨ _))

theorem isPath_of_mem_parts {segments : List String}
    (inside : ∀ segment ∈ segments, LeadsInside segment) {part : String}
    (member : part ∈ Path.parts segments) : isPath part = true := by
  obtain ⟨trimmed, kept⟩ := List.mem_filter.mp member
  obtain ⟨segment, segmentMember, rfl⟩ := List.mem_map.mp trimmed
  cases inside segment segmentMember with
  | inl isEmpty => simp [isEmpty] at kept
  | inr valid => exact valid

theorem leadsInside_join {segments : List String}
    (inside : ∀ segment ∈ segments, LeadsInside segment) : LeadsInside (Path.join segments) := by
  rw [LeadsInside, (Path.isTrimmed_join segments).trimBoth_eq, Path.join_eq]
  by_cases noParts : Path.parts segments = []
  · left
    rw [noParts]
    rfl
  · right
    exact isPath_intercalate noParts fun part => isPath_of_mem_parts inside

theorem leadsInside_of_isName {name : String} (valid : isName name = true)
    (absent : '/' ∉ name.toList) : LeadsInside name := by
  rw [LeadsInside, Text.trimBoth_eq_self absent, isPath, Text.segments_of_absent absent]
  exact .inr (List.all_eq_true.mpr fun component member => List.mem_singleton.mp member ▸ valid)

theorem leadsInside_intercalate {names : List String}
    (areNames : ∀ name ∈ names, isName name = true) (absent : ∀ name ∈ names, '/' ∉ name.toList) :
    LeadsInside (String.intercalate "/" names) := by
  have named : ∀ name ∈ names, name ≠ "" := by
    intro name member isEmpty
    have valid := areNames name member
    rw [isEmpty] at valid
    cases valid
  rw [← Path.join_of_absent named absent]
  exact leadsInside_join fun name member =>
    leadsInside_of_isName (areNames name member) (absent name member)

/-- A name that is joined to what leads inside completes an artifact path. -/
theorem isPath_join_concat {front : List String}
    (inside : ∀ segment ∈ front, LeadsInside segment) {name : String}
    (valid : isName name = true) (absent : '/' ∉ name.toList) :
    isPath (Path.join (front ++ [name])) = true := by
  have lastInside := leadsInside_of_isName valid absent
  have allInside : ∀ segment ∈ front ++ [name], LeadsInside segment := by
    intro segment member
    cases List.mem_append.mp member with
    | inl inFront => exact inside segment inFront
    | inr isLast => exact List.mem_singleton.mp isLast ▸ lastInside
  have nonempty : name ≠ "" := by
    intro isEmpty
    rw [isEmpty] at valid
    cases valid
  have hasParts : Path.parts (front ++ [name]) ≠ [] := by
    rw [Path.parts_append, Path.parts_singleton (by rwa [Text.trimBoth_eq_self absent])]
    simp
  exact isPath_intercalate hasParts fun part => isPath_of_mem_parts allInside

end Artifact

end ServiceBindings
