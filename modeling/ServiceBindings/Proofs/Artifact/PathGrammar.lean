import ServiceBindings.Proofs.Artifact.Collector
import ServiceBindings.Proofs.Artifact.Directories
import ServiceBindings.Proofs.Artifact.Joined

/-!
# Which texts are artifact paths

A text is an artifact path if something is in it and each of its components leads further inside.
An artifact path is cut at its last slash: what stands before it is an artifact path again, what
follows it is one component, and nothing is lost.
-/

namespace ServiceBindings.Artifact

/-- Whether a component leads from a directory to something in it, and not to the directory itself
or to the one around it. -/
def LeadsInto (component : String) : Prop :=
  component ≠ "" ∧ component ≠ "." ∧ component ≠ ".."

theorem isName_iff {component : String} : isName component = true ↔ LeadsInto component := by
  simp [isName, LeadsInto, and_assoc]

/-- Whether a text is not empty and all its components lead further inside. -/
def IsWellFormed (text : String) : Prop :=
  text ≠ "" ∧ ∀ component, Text.IsComponent '/' text component → LeadsInto component

theorem isPath_iff {text : String} : isPath text = true ↔ IsWellFormed text := by
  have components : isPath text = true ↔
      ∀ component, Text.IsComponent '/' text component → LeadsInto component := by
    simp only [isPath, List.all_eq_true, Text.mem_segments_iff, isName_iff]
  rw [IsWellFormed, ← components]
  exact ⟨fun valid => ⟨nonempty_of_isPath valid, valid⟩, And.right⟩

/-- Whether a text is empty or starts at the root. -/
def IsEmptyOrRooted (text : String) : Prop :=
  text = "" ∨ text.toList.head? = some '/'

namespace Path

/-! ## Texts that are accepted -/

variable {text : String}

theorem ofText_of_isEmptyOrRooted (misplaced : IsEmptyOrRooted text) :
    ofText text = .error (.invalidPath text) := by
  rw [ofText, if_pos (by simpa [IsEmptyOrRooted] using misplaced)]

theorem ofText_of_not_isPath (placed : ¬IsEmptyOrRooted text)
    (invalid : ¬Artifact.isPath text = true) :
    ofText text = .error (.invalidComponent text) := by
  rw [ofText, if_neg (by simpa [IsEmptyOrRooted] using placed), dif_neg invalid]

theorem ofText_eq_invalidPath_iff :
    ofText text = .error (.invalidPath text) ↔ IsEmptyOrRooted text := by
  refine ⟨?_, ofText_of_isEmptyOrRooted⟩
  intro refused
  by_contra placed
  by_cases valid : Artifact.isPath text = true
  · obtain ⟨path, accepted⟩ := exists_ofText_iff.mpr valid
    rw [accepted] at refused
    cases refused
  · rw [ofText_of_not_isPath placed valid] at refused
    cases refused

theorem ofText_eq_invalidComponent_iff :
    ofText text = .error (.invalidComponent text) ↔
      ¬IsEmptyOrRooted text ∧ ¬Artifact.isPath text = true := by
  constructor
  · intro refused
    constructor
    · intro misplaced
      rw [ofText_of_isEmptyOrRooted misplaced] at refused
      cases refused
    · intro valid
      obtain ⟨path, accepted⟩ := exists_ofText_iff.mpr valid
      rw [accepted] at refused
      cases refused
  · intro given
    exact ofText_of_not_isPath given.1 given.2

/-! ## Paths cut at their last slash -/

/-- Whether a path is cut at its last slash without loss. -/
structure IsCut (path : Path) : Prop where
  isComponent : Text.IsComponent '/' path.text path.fileName
  leadsInto : LeadsInto path.fileName
  parent?_eq_none_iff : path.parent? = none ↔ '/' ∉ path.text.toList
  fileName_eq : path.parent? = none → path.fileName = path.text
  parent : ∀ directory, path.parent? = some directory →
    (∃ parent, ofText directory = .ok parent) ∧ path.text = directory ++ "/" ++ path.fileName

theorem isCut_of_absent {path : Path} (absent : '/' ∉ path.text.toList) : path.IsCut := by
  have noCut := Text.cutLast?_of_absent absent
  have noParent : path.parent? = none := by rw [parent?, noCut, Option.map_none]
  have isWhole : path.fileName = path.text := by rw [fileName, noCut]
  have isComponent : Text.IsComponent '/' path.text path.text :=
    ⟨absent, "", "", by simp, .inl rfl, .inl rfl⟩
  constructor
  · rw [isWhole]
    exact isComponent
  · rw [isWhole]
    exact (isPath_iff.mp path.isPath).2 path.text isComponent
  · exact iff_of_true noParent absent
  · exact fun _ => isWhole
  · intro directory hasParent
    rw [noParent] at hasParent
    cases hasParent

theorem isCut_of_split {path : Path} {front last : String}
    (isSplit : path.text = front ++ "/" ++ last) (absent : '/' ∉ last.toList) : path.IsCut := by
  have cut : Text.cutLast? '/' path.text = some (front, last) := by
    rw [isSplit]
    exact Text.cutLast?_append_separator_append front absent
  have isParent : path.parent? = some front := by rw [parent?, cut, Option.map_some]
  have isName : path.fileName = last := by rw [fileName, cut]
  have isComponent : Text.IsComponent '/' path.text last :=
    ⟨absent, front ++ "/", "", by rw [isSplit, String.append_empty], .inr ⟨front, rfl⟩, .inl rfl⟩
  have isAbove : Text.segments '/' front <+: Text.segments '/' path.text := by
    refine ⟨Text.segments '/' last, ?_⟩
    rw [isSplit]
    exact (Text.segments_append_separator_append front last).symm
  have valid : Artifact.isPath front = true := Tree.isPath_of_segments_prefix path.isPath isAbove
  constructor
  · rw [isName]
    exact isComponent
  · rw [isName]
    exact (isPath_iff.mp path.isPath).2 last isComponent
  · exact iff_of_false (by simp [isParent]) (by simp [isSplit])
  · intro noParent
    rw [isParent] at noParent
    cases noParent
  · intro directory hasParent
    rw [isParent] at hasParent
    cases hasParent
    exact ⟨exists_ofText_iff.mpr valid, by rw [isName, isSplit]⟩

theorem isCut (path : Path) : path.IsCut := by
  obtain absent | ⟨front, last, isSplit, absent⟩ := Text.absent_or_exists_last '/' path.text
  · exact isCut_of_absent absent
  · exact isCut_of_split isSplit absent

/-- What the check of artifact paths accepts, why it refuses the rest, and how it cuts a path.

* A text is accepted exactly if it is not empty and each of its components between slashes is not
  empty and neither `.` nor `..`.
* A refused text is an invalid path exactly if it is empty or starts with a slash, and otherwise it
  has an invalid component.
* An accepted path is the text as it is.  Its name is one of its components and leads further
  inside; it has no parent exactly if it has no slash, and otherwise its parent is accepted and the
  path is its parent, a slash and its name. -/
theorem ofText_accepts_wellFormed_and_cuts (text : String) :
    ((∃ path, ofText text = .ok path) ↔ IsWellFormed text) ∧
    (ofText text = .error (.invalidPath text) ↔ IsEmptyOrRooted text) ∧
    (ofText text = .error (.invalidComponent text) ↔
      ¬IsEmptyOrRooted text ∧ ¬IsWellFormed text) ∧
    ∀ path, ofText text = .ok path → path.text = text ∧ path.IsCut := by
  rw [← isPath_iff]
  refine ⟨exists_ofText_iff, ofText_eq_invalidPath_iff, ofText_eq_invalidComponent_iff, ?_⟩
  intro path accepted
  exact ⟨text_of_ofText accepted, path.isCut⟩

theorem ofText_accepts_wellFormed_and_cuts_dotted : ∃ path,
    ofText "META-INF/services/com.acme..Odd" = .ok path ∧
      path.text = "META-INF/services/com.acme..Odd" ∧ path.IsCut ∧
        path.parent? = some "META-INF/services" ∧ path.fileName = "com.acme..Odd" := by
  have accepted : ∃ path, ofText "META-INF/services/com.acme..Odd" = .ok path := ⟨⟨_, rfl⟩, rfl⟩
  obtain ⟨path, isPath⟩ := accepted
  obtain ⟨isText, isCut⟩ := (ofText_accepts_wellFormed_and_cuts _).2.2.2 path isPath
  have isParent : path.parent? = some "META-INF/services" := by
    rw [parent?, isText]
    decide
  have isName : path.fileName = "com.acme..Odd" := by
    rw [fileName, isText]
    decide
  exact ⟨path, isPath, isText, isCut, isParent, isName⟩

end Path

end ServiceBindings.Artifact
