import ServiceBindings.Java.Name
import ServiceBindings.Proofs.Path
import ServiceBindings.Proofs.Text.Segments

/-!
# Which Java names and places coincide

Two services share the name of a contract if they have one name, or if one of the names is
that of the other after `Async`.  Source files are told apart by the directory of their
namespace and the name of their class, registrations by what stands before the name of the
contract and by that name.
-/

namespace ServiceBindings.Java

/-- Whether contracts of services with two names have a name in common. -/
def ShareContract (left right : String) : Prop :=
  left = right ∨ left = "Async" ++ right ∨ right = "Async" ++ left

instance (left right : String) : Decidable (ShareContract left right) :=
  inferInstanceAs (Decidable (_ ∨ _ ∨ _))

theorem exists_contractName_eq_iff (left right : String) :
    (∃ leftMode rightMode, contractName left leftMode = contractName right rightMode) ↔
      ShareContract left right := by
  constructor
  · intro given
    rcases given with ⟨leftMode, rightMode, same⟩
    cases leftMode with
    | sync =>
        cases rightMode with
        | sync => exact .inl (String.append_left_inj "Service" |>.mp same)
        | async => exact .inr (.inl (String.append_left_inj "Service" |>.mp same))
    | async =>
        cases rightMode with
        | sync => exact .inr (.inr (String.append_left_inj "Service" |>.mp same).symm)
        | async =>
            have sameStart := String.append_left_inj "Service" |>.mp same
            exact .inl (String.append_right_inj "Async" |>.mp sameStart)
  · intro given
    rcases given with rfl | rfl | rfl
    · exact ⟨.sync, .sync, rfl⟩
    · exact ⟨.sync, .async, rfl⟩
    · exact ⟨.async, .sync, rfl⟩

theorem contractName_sync_ne_async (service : String) :
    contractName service .sync ≠ contractName service .async := by
  intro same
  have lengths := congrArg String.length same
  simp [contractName] at lengths

theorem exists_contractName_eq_append (name : String) (mode : CallMode) :
    ∃ front, contractName name mode = front ++ "Service" := by
  cases mode with
  | sync => exact ⟨name, rfl⟩
  | async => exact ⟨"Async" ++ name, rfl⟩

theorem exists_implementationName_eq_append (name : String) (mode : CallMode) :
    ∃ front, implementationName name mode = front ++ "Impl" := by
  cases mode with
  | sync => exact ⟨name ++ "DefaultBlocking", by simp [implementationName, ← String.toList_inj]⟩
  | async => exact ⟨name ++ "DefaultAsync", by simp [implementationName, ← String.toList_inj]⟩

theorem blockingImpl_ne_asyncImpl (left right : String) :
    left ++ "DefaultBlockingImpl" ≠ right ++ "DefaultAsyncImpl" := by
  intro same
  have sameEnd := congrArg (fun text => text.toList.reverse[4]?) same
  simp at sameEnd

theorem implementationName_eq_iff (left right : String) (leftMode rightMode : CallMode) :
    implementationName left leftMode = implementationName right rightMode ↔
      left = right ∧ leftMode = rightMode := by
  cases leftMode with
  | sync =>
      cases rightMode with
      | sync => simp [implementationName]
      | async => simp [implementationName, blockingImpl_ne_asyncImpl]
  | async =>
      cases rightMode with
      | sync => simp [implementationName, (blockingImpl_ne_asyncImpl right left).symm]
      | async => simp [implementationName]

theorem exists_implementationName_eq_iff (left right : String) :
    (∃ leftMode rightMode,
      implementationName left leftMode = implementationName right rightMode) ↔ left = right := by
  constructor
  · intro given
    rcases given with ⟨leftMode, rightMode, same⟩
    exact ((implementationName_eq_iff left right leftMode rightMode).mp same).1
  · intro same
    subst same
    exact ⟨.sync, .sync, rfl⟩

theorem notMem_contractName {separator : Char} {name : String}
    (absent : separator ∉ name.toList) (notInAsync : separator ∉ "Async".toList)
    (notInService : separator ∉ "Service".toList) (mode : CallMode) :
    separator ∉ (contractName name mode).toList := by
  cases mode with
  | sync =>
      rw [contractName, String.toList_append, List.mem_append, not_or]
      exact ⟨absent, notInService⟩
  | async =>
      rw [contractName, String.toList_append, String.toList_append, List.mem_append,
        List.mem_append, not_or, not_or]
      exact ⟨⟨notInAsync, absent⟩, notInService⟩

theorem slash_notMem_contractName {name : String} (absent : '/' ∉ name.toList)
    (mode : CallMode) : '/' ∉ (contractName name mode).toList :=
  notMem_contractName absent (by decide) (by decide) mode

theorem dot_notMem_contractName {name : String} (absent : '.' ∉ name.toList)
    (mode : CallMode) : '.' ∉ (contractName name mode).toList :=
  notMem_contractName absent (by decide) (by decide) mode

theorem contractName_ne_empty (name : String) (mode : CallMode) : contractName name mode ≠ "" := by
  cases mode <;> simp [contractName]

theorem slash_notMem_implementationName {name : String} (absent : '/' ∉ name.toList)
    (mode : CallMode) : '/' ∉ (implementationName name mode).toList := by
  cases mode <;> simp [implementationName, absent]

theorem dot_notMem_implementationName {name : String} (absent : '.' ∉ name.toList)
    (mode : CallMode) : '.' ∉ (implementationName name mode).toList := by
  cases mode <;> simp [implementationName, absent]

/-! ## Source files -/

/-- The directory of the source files of a namespace. -/
def sourceDirectory (space : String) : String :=
  Text.trimBoth '/' (Text.replaceChar '.' '/' space)

theorem sourcePath_eq_iff (root : Option String) (leftSpace rightSpace : String)
    {left right : String} (leftAbsent : '/' ∉ left.toList) (rightAbsent : '/' ∉ right.toList) :
    sourcePath root leftSpace left = sourcePath root rightSpace right ↔
      sourceDirectory leftSpace = sourceDirectory rightSpace ∧ left = right := by
  have fileAbsent : ∀ {name : String}, '/' ∉ name.toList → '/' ∉ (name ++ ".java").toList := by
    intro name absent
    simp [absent]
  have sameDirectory := Path.join_concat_left_inj [root.getD ""]
    (Text.replaceChar '.' '/' leftSpace) (Text.replaceChar '.' '/' rightSpace)
  have samePath : Path.join ([root.getD "", Text.replaceChar '.' '/' leftSpace] ++
        [left ++ ".java"]) =
      Path.join ([root.getD "", Text.replaceChar '.' '/' rightSpace] ++ [right ++ ".java"]) ↔ _ :=
    Path.join_concat_inj (by simp) (fileAbsent leftAbsent) (by simp) (fileAbsent rightAbsent)
  exact samePath.trans (and_congr sameDirectory (String.append_left_inj ".java"))

/-- The source file of a class lies where its full name says. -/
theorem sourcePath_of_parts {parts : List String} (named : ∀ part ∈ parts, part ≠ "")
    (slash : ∀ part ∈ parts, '/' ∉ part.toList) (dot : ∀ part ∈ parts, '.' ∉ part.toList)
    {name : String} (nameSlash : '/' ∉ name.toList) (nameDot : '.' ∉ name.toList) :
    sourcePath none (String.intercalate "." parts) name =
      Text.replaceChar '.' '/' (Identifier.qualify (String.intercalate "." parts) name) ++
        ".java" := by
  have directory : Text.replaceChar '.' '/' (String.intercalate "." parts) = Path.join parts :=
    (Text.replaceChar_intercalate dot).trans (Path.join_of_absent named slash).symm
  have fileAbsent : '/' ∉ (name ++ ".java").toList := by simp [nameSlash]
  have replaced : Text.replaceChar '.' '/' name = name := Text.replaceChar_of_absent nameDot
  have separator : Text.replaceChar '.' '/' "." = "/" := by decide
  calc sourcePath none (String.intercalate "." parts) name
      = Path.join ([Path.join parts] ++ [name ++ ".java"]) := by
        rw [sourcePath, directory, Option.getD_none, Path.join_empty_cons, List.singleton_append]
    _ = Path.directoryPrefix (Path.join parts) ++ (name ++ ".java") := by
        rw [Path.join_concat_of_absent _ (by simp) fileAbsent, Path.join_singleton_join]
    _ = Text.replaceChar '.' '/' (Identifier.qualify (String.intercalate "." parts) name) ++
          ".java" := by
        rw [← directory, Path.directoryPrefix, Identifier.qualify]
        by_cases isEmpty : String.intercalate "." parts = ""
        · simp [isEmpty, replaced]
        · rw [if_neg (by simpa using isEmpty), if_neg (by simpa using isEmpty)]
          simp only [Text.replaceChar_append, separator, replaced, String.append_assoc]

/-! ## Registrations -/

/-- What stands before the names of registered contracts of a namespace. -/
def registrationPrefix (space : String) : String :=
  Text.trimStart '/' (if space.isEmpty then "" else space ++ ".")

theorem qualify_append (space front back : String) :
    Identifier.qualify space (front ++ back) = Identifier.qualify space front ++ back := by
  rw [Identifier.qualify, Identifier.qualify]
  split
  · rfl
  · rw [String.append_assoc, String.append_assoc, String.append_assoc]

theorem trimBoth_qualify (space : String) {name : String} (nonempty : name ≠ "")
    (absent : '/' ∉ name.toList) :
    Text.trimBoth '/' (Identifier.qualify space name) = registrationPrefix space ++ name := by
  rw [registrationPrefix, ← Text.trimBoth_append _ nonempty absent, Identifier.qualify]
  split
  · rw [String.empty_append]
  · rfl

theorem isPrefixTo_registrationPrefix (space : String) :
    Text.IsPrefixTo '.' (registrationPrefix space) := by
  rw [registrationPrefix]
  split
  · exact .inl rfl
  · have trimmed : Text.trimStart '/' (space ++ ".") = Text.trimStart '/' space ++ "." :=
      Text.trimStart_append space (by simp) (by simp)
    exact .inr ⟨Text.trimStart '/' space, trimmed⟩

/-- The path of a registration, with its root. -/
def registrationPath (root : Option String) (space name : String) : String :=
  Path.join [root.getD "", "META-INF/services", Identifier.qualify space name]

theorem registrationPath_eq_iff (root : Option String) (leftSpace rightSpace : String)
    {left right : String} (leftNonempty : left ≠ "") (leftAbsent : '/' ∉ left.toList)
    (rightNonempty : right ≠ "") (rightAbsent : '/' ∉ right.toList) :
    registrationPath root leftSpace left = registrationPath root rightSpace right ↔
      registrationPrefix leftSpace ++ left = registrationPrefix rightSpace ++ right := by
  have sameEnd := Path.join_concat_left_inj [root.getD "", "META-INF/services"]
    (Identifier.qualify leftSpace left) (Identifier.qualify rightSpace right)
  rw [trimBoth_qualify leftSpace leftNonempty leftAbsent,
    trimBoth_qualify rightSpace rightNonempty rightAbsent] at sameEnd
  exact sameEnd

theorem registrationPrefix_append_inj (leftSpace rightSpace : String) {left right : String}
    (leftAbsent : '.' ∉ left.toList) (rightAbsent : '.' ∉ right.toList) :
    registrationPrefix leftSpace ++ left = registrationPrefix rightSpace ++ right ↔
      registrationPrefix leftSpace = registrationPrefix rightSpace ∧ left = right := by
  constructor
  · intro same
    exact Text.append_inj_of_isPrefixTo (isPrefixTo_registrationPrefix leftSpace)
      (isPrefixTo_registrationPrefix rightSpace) leftAbsent rightAbsent same
  · intro given
    rcases given with ⟨samePrefix, rfl⟩
    rw [samePrefix]

end ServiceBindings.Java
