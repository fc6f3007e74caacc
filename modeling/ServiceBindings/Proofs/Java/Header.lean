import ServiceBindings.Proofs.Java.Agreement

/-!
# Headers of Java files

What a Java file declares is read back from its text: packages from the lines before the first
type, and the type word by word from its own line.  The headers of contracts and default
implementations can be read as long as namespaces and services are single words.
-/

namespace ServiceBindings

/-- Whether a text is a single word, with nothing inside that ends a word or a line. -/
structure Text.IsWord (text : String) : Prop where
  blank : ' ' ∉ text.toList
  line : IsLine text

@[simp] theorem Text.isWord_append (first second : String) :
    IsWord (first ++ second) ↔ IsWord first ∧ IsWord second := by
  constructor
  · intro whole
    have blank : ' ' ∉ first.toList ∧ ' ' ∉ second.toList := by simpa using whole.blank
    have line := (isLine_append first second).mp whole.line
    exact ⟨⟨blank.1, line.1⟩, ⟨blank.2, line.2⟩⟩
  · intro parts
    obtain ⟨isFirst, isSecond⟩ := parts
    exact ⟨by simp [isFirst.blank, isSecond.blank], by simp [isFirst.line, isSecond.line]⟩

instance (text : String) : Decidable (Text.IsWord text) :=
  decidable_of_iff (' ' ∉ text.toList ∧ Text.IsLine text)
    ⟨fun given => ⟨given.1, given.2⟩, fun given => ⟨given.blank, given.line⟩⟩

theorem Identifier.isWord_qualify {space name : String} (spaceIsWord : Text.IsWord space)
    (nameIsWord : Text.IsWord name) : Text.IsWord (qualify space name) :=
  ⟨notMem_qualify (by decide) spaceIsWord.blank nameIsWord.blank,
    isLine_qualify spaceIsWord.line nameIsWord.line⟩

theorem Text.isWord_intercalate {separator : String} (separatorIsWord : IsWord separator)
    {parts : List String} (areWords : ∀ part ∈ parts, IsWord part) :
    IsWord (String.intercalate separator parts) :=
  ⟨notMem_intercalate separatorIsWord.blank fun part member => (areWords part member).blank,
    isLine_intercalate separatorIsWord.line fun part member => (areWords part member).line⟩

namespace Java

open Text (IsLine IsWord)

/-! ## Reading a header -/

/-- The package that a line declares. -/
def packageOf? (line : String) : Option String := enclosed? "package " ";" line

/-- The interface that a line declares. -/
def interfaceOf? (line : String) : Option String :=
  match Text.segments ' ' line with
  | [access, kind, name, brace] =>
      if [access, kind, brace] = ["public", "interface", "\x7b"] then some name else none
  | _ => none

/-- A class and the interface that it implements, as they are written. -/
structure DeclaredClass where
  name : String
  interface : String
deriving DecidableEq, Repr

/-- The class that a line declares. -/
def classOf? (line : String) : Option DeclaredClass :=
  match Text.segments ' ' line with
  | [access, kind, name, inherits, _, fulfils, interface, brace] =>
      if [access, kind, inherits, fulfils, brace] =
          ["public", "class", "extends", "implements", "\x7b"] then some ⟨name, interface⟩
      else none
  | _ => none

/-- Whether a line declares a type. -/
def declaresType (line : String) : Bool := (interfaceOf? line).isSome || (classOf? line).isSome

/-- The packages that the lines of a source text declare. -/
def packagesIn (source : String) : List String := (Text.lines source).filterMap packageOf?

/-- The packages that are declared before the first type of a source text. -/
def declaredPackages (source : String) : List String :=
  ((Text.lines source).takeWhile (!declaresType ·)).filterMap packageOf?

/-- The full name of a type that a source text declares. -/
def declaredAs (source name : String) : String :=
  Identifier.qualify ((declaredPackages source).headD "") name

/-- The full name of the first interface that a source text declares. -/
def declaredInterface? (source : String) : Option String :=
  ((Text.lines source).findSome? interfaceOf?).map (declaredAs source)

/-- The full name of the first class that a source text declares. -/
def declaredClass? (source : String) : Option String :=
  ((Text.lines source).findSome? classOf?).map fun declared => declaredAs source declared.name

/-- The interface that the first class of a source text implements. -/
def implementedInterface? (source : String) : Option String :=
  ((Text.lines source).findSome? classOf?).map (·.interface)

/-! ## Lines of a header -/

theorem interfaceOf?_interfaceLine {name : String} (isWord : IsWord name) :
    interfaceOf? (interfaceLine name) = some name := by
  have words : Text.segments ' ' (interfaceLine name) = ["public", "interface", name, "\x7b"] := by
    have joined : interfaceLine name =
        String.intercalate (String.singleton ' ') ["public", "interface", name, "\x7b"] := by
      unfold interfaceLine
      simp [← String.toList_inj]
    rw [joined]
    apply Text.segments_intercalate (by simp)
    simp [isWord.blank]
  simp [interfaceOf?, words]

theorem isLine_interfaceLine {name : String} (isWord : IsWord name) :
    IsLine (interfaceLine name) := by
  unfold interfaceLine
  simp +decide [isWord.line]

/-- The line before the members of a default implementation. -/
def classLine (space service : String) (mode : CallMode) : String :=
  "public class " ++ implementationName service mode ++ " extends " ++ runtimePackage ++
    ".AbstractGrpcService<" ++ stubClass space service mode ++ "> implements " ++
      Identifier.qualify space (contractName service mode) ++ " \x7b"

theorem classLines_eq_cons (space service : String) (mode : CallMode) :
    classLines space service mode =
      classLine space service mode :: (classLines space service mode).tail := by
  unfold classLine classLines
  rfl

theorem filterMap_packageOf?_packageLines (space : String) :
    (packageLines space).filterMap packageOf? = (Text.nonempty? space).toList := by
  have isPackage : packageOf? ("package " ++ space ++ ";") = some space :=
    (enclosed?_eq_some_iff _ _ _ _).mpr rfl
  have blank : packageOf? "" = none := by decide
  rw [packageLines, Text.nonempty?]
  split
  · rfl
  · simp [isPackage, blank]

/-- The second letter tells other lines of generated texts from those of packages. -/
theorem packageOf?_eq_none {line : String} (second : line.toList[1]? ≠ some 'a') :
    packageOf? line = none := by
  rw [Option.eq_none_iff_forall_ne_some]
  intro space isPackage
  rw [packageOf?, enclosed?_eq_some_iff] at isPackage
  subst isPackage
  simp at second

theorem no_type_of_words {line first : String} {others : List String}
    (words : Text.segments ' ' line = first :: others) (notPublic : first ≠ "public") :
    interfaceOf? line = none ∧ classOf? line = none := by
  constructor
  · rw [interfaceOf?, words]
    split
    · rename_i isHeader
      rw [List.cons.injEq] at isHeader
      simp [← isHeader.1, notPublic]
    · rfl
  · rw [classOf?, words]
    split
    · rename_i isHeader
      rw [List.cons.injEq] at isHeader
      simp [← isHeader.1, notPublic]
    · rfl

/-- No line before a type declares one itself. -/
theorem no_type_of_mem_packageLines {space line : String}
    (member : line ∈ packageLines space) : interfaceOf? line = none ∧ classOf? line = none := by
  rw [packageLines] at member
  split at member
  · cases member
  · rw [List.mem_cons, List.mem_singleton] at member
    cases member with
    | inl isPackage =>
        have notInside : ' ' ∉ "package".toList := by decide
        have words := Text.segments_append_separator ' ' notInside (space ++ ";")
        rw [← String.append_assoc, ← String.append_assoc] at words
        rw [isPackage]
        exact no_type_of_words words (by decide)
    | inr isBlank =>
        have words : Text.segments ' ' "" = [""] := by decide
        rw [isBlank]
        exact no_type_of_words words (by decide)

section Words

variable {space name : String} (spaceIsWord : IsWord space) (nameIsWord : IsWord name)

include nameIsWord

theorem isWord_contractName (mode : CallMode) : IsWord (contractName name mode) := by
  cases mode <;> simp +decide [contractName, nameIsWord]

theorem isWord_implementationName (mode : CallMode) : IsWord (implementationName name mode) := by
  cases mode <;> simp +decide [implementationName, nameIsWord]

include spaceIsWord

theorem isWord_stubClass (mode : CallMode) : IsWord (stubClass space name mode) := by
  have transport : IsWord (transportClass space name) := by
    apply Identifier.isWord_qualify spaceIsWord
    simp +decide [nameIsWord]
  cases mode <;> simp +decide [stubClass, transport, nameIsWord]

theorem classOf?_classLine (mode : CallMode) :
    classOf? (classLine space name mode) =
      some ⟨implementationName name mode, Identifier.qualify space (contractName name mode)⟩ := by
  have className := isWord_implementationName nameIsWord mode
  have stub := isWord_stubClass spaceIsWord nameIsWord mode
  have contract := Identifier.isWord_qualify spaceIsWord (isWord_contractName nameIsWord mode)
  have words : Text.segments ' ' (classLine space name mode) =
      ["public", "class", implementationName name mode, "extends",
        runtimePackage ++ ".AbstractGrpcService<" ++ stubClass space name mode ++ ">",
        "implements", Identifier.qualify space (contractName name mode), "\x7b"] := by
    have joined : classLine space name mode = String.intercalate (String.singleton ' ')
        ["public", "class", implementationName name mode, "extends",
          runtimePackage ++ ".AbstractGrpcService<" ++ stubClass space name mode ++ ">",
          "implements", Identifier.qualify space (contractName name mode), "\x7b"] := by
      unfold classLine
      simp [← String.toList_inj]
    rw [joined]
    apply Text.segments_intercalate (by simp)
    simp +decide [className.blank, stub.blank, contract.blank]
  simp [classOf?, words]

theorem isLine_classLine (mode : CallMode) : IsLine (classLine space name mode) := by
  have className := isWord_implementationName nameIsWord mode
  have stub := isWord_stubClass spaceIsWord nameIsWord mode
  have contract := Identifier.isWord_qualify spaceIsWord (isWord_contractName nameIsWord mode)
  unfold classLine
  simp +decide [className.line, stub.line, contract.line]

end Words

/-! ## Texts with a header -/

section Texts

variable {space header : String} (spaceIsLine : IsLine space) (headerIsLine : IsLine header)
  (rest : List String)

include spaceIsLine headerIsLine

theorem lines_ofLines_header :
    Text.lines (Text.ofLines (packageLines space ++ header :: rest)) =
      packageLines space ++ header :: Text.lines (Text.ofLines rest) := by
  have areLines : ∀ line ∈ packageLines space ++ [header], IsLine line := by
    intro line member
    cases List.mem_append.mp member with
    | inl inPackage => exact isLine_of_mem_packageLines spaceIsLine line inPackage
    | inr isHeader => rwa [List.mem_singleton.mp isHeader]
  have cut := Text.lines_ofLines_append areLines (Text.ofLines rest)
  rwa [← Text.ofLines_append, List.append_assoc, List.append_assoc] at cut

theorem declaredPackages_ofLines_header (declares : declaresType header = true) :
    declaredPackages (Text.ofLines (packageLines space ++ header :: rest)) =
      (Text.nonempty? space).toList := by
  have before : ∀ line ∈ packageLines space, (!declaresType line) = true := by
    intro line member
    have noType := no_type_of_mem_packageLines member
    simp [declaresType, noType]
  rw [declaredPackages, lines_ofLines_header spaceIsLine headerIsLine,
    List.takeWhile_append_of_pos before, List.takeWhile_cons_of_neg (by simp [declares]),
    List.append_nil, filterMap_packageOf?_packageLines]

theorem findSome?_lines_ofLines_header {α : Type} {read : String → Option α} {result : α}
    (skips : ∀ line ∈ packageLines space, read line = none) (reads : read header = some result) :
    (Text.lines (Text.ofLines (packageLines space ++ header :: rest))).findSome? read =
      some result := by
  have before : (packageLines space).findSome? read = none := List.findSome?_eq_none_iff.mpr skips
  rw [lines_ofLines_header spaceIsLine headerIsLine, List.findSome?_append, before, Option.none_or,
    List.findSome?_cons, reads]

end Texts

section Files

variable {table : NamespaceTable} {space : String} {service : Schema.Service} {mode : CallMode}

theorem contractLines_eq_header (table : NamespaceTable) (space : String)
    (service : Schema.Service) (mode : CallMode) :
    contractLines table space service mode =
      packageLines space ++ interfaceLine (contractName service.name mode) ::
        ((declarations table mode service.methods).flatMap (["", declarationLine ·]) ++
          ["\x7d"]) := by
  rw [contractLines, List.singleton_append]

theorem implementationLines_eq_header (table : NamespaceTable) (space : String)
    (service : Schema.Service) (mode : CallMode) :
    implementationLines table space service mode =
      packageLines space ++ classLine space service.name mode ::
        ((classLines space service.name mode).tail ++
          ((writtenMethods table space service mode).flatMap WrittenMethod.lines ++
            stubLines space service.name mode)) := by
  rw [implementationLines, classLines_eq_cons, List.cons_append, List.tail_cons]

theorem headD_toList_nonempty? (text : String) : (Text.nonempty? text).toList.headD "" = text := by
  rw [Text.nonempty?]
  split
  · rename_i isEmpty
    exact (String.isEmpty_iff.mp isEmpty).symm
  · rfl

section Headers

variable (spaceIsWord : IsWord space) (serviceIsWord : IsWord service.name)

include spaceIsWord serviceIsWord

theorem declaredPackages_contractLines :
    declaredPackages (Text.ofLines (contractLines table space service mode)) =
      (Text.nonempty? space).toList := by
  have contract := isWord_contractName serviceIsWord mode
  rw [contractLines_eq_header]
  apply declaredPackages_ofLines_header spaceIsWord.line (isLine_interfaceLine contract)
  rw [declaresType, interfaceOf?_interfaceLine contract, Option.isSome_some, Bool.true_or]

theorem declaredInterface?_contractLines :
    declaredInterface? (Text.ofLines (contractLines table space service mode)) =
      some (Identifier.qualify space (contractName service.name mode)) := by
  have contract := isWord_contractName serviceIsWord mode
  have found : (Text.lines (Text.ofLines (contractLines table space service mode))).findSome?
      interfaceOf? = some (contractName service.name mode) := by
    rw [contractLines_eq_header]
    apply findSome?_lines_ofLines_header spaceIsWord.line (isLine_interfaceLine contract)
    · intro line member
      exact (no_type_of_mem_packageLines member).1
    · exact interfaceOf?_interfaceLine contract
  rw [declaredInterface?, found, Option.map_some, declaredAs,
    declaredPackages_contractLines spaceIsWord serviceIsWord, headD_toList_nonempty?]

theorem declaredPackages_implementationLines :
    declaredPackages (Text.ofLines (implementationLines table space service mode)) =
      (Text.nonempty? space).toList := by
  rw [implementationLines_eq_header]
  apply declaredPackages_ofLines_header spaceIsWord.line
    (isLine_classLine spaceIsWord serviceIsWord mode)
  rw [declaresType, classOf?_classLine spaceIsWord serviceIsWord, Option.isSome_some, Bool.or_true]

theorem findSome?_classOf?_implementationLines :
    (Text.lines (Text.ofLines (implementationLines table space service mode))).findSome? classOf? =
      some ⟨implementationName service.name mode,
        Identifier.qualify space (contractName service.name mode)⟩ := by
  rw [implementationLines_eq_header]
  apply findSome?_lines_ofLines_header spaceIsWord.line
    (isLine_classLine spaceIsWord serviceIsWord mode)
  · intro line member
    exact (no_type_of_mem_packageLines member).2
  · exact classOf?_classLine spaceIsWord serviceIsWord mode

theorem declaredClass?_implementationLines :
    declaredClass? (Text.ofLines (implementationLines table space service mode)) =
      some (Identifier.qualify space (implementationName service.name mode)) := by
  rw [declaredClass?, findSome?_classOf?_implementationLines spaceIsWord serviceIsWord,
    Option.map_some, declaredAs, declaredPackages_implementationLines spaceIsWord serviceIsWord,
    headD_toList_nonempty?]

theorem implementedInterface?_implementationLines :
    implementedInterface? (Text.ofLines (implementationLines table space service mode)) =
      some (Identifier.qualify space (contractName service.name mode)) := by
  rw [implementedInterface?, findSome?_classOf?_implementationLines spaceIsWord serviceIsWord,
    Option.map_some]

end Headers

/-! ## No package after the header -/

theorem second_append {front : String} {c : Char} (second : front.toList[1]? = some c)
    (differs : c ≠ 'a') (rest : String) : (front ++ rest).toList[1]? ≠ some 'a' := by
  rw [String.toList_append, List.getElem?_append_left (List.getElem?_eq_some_iff.mp second).1,
    second]
  simpa using differs

theorem packagesIn_ofLines {lines body : List String} (areLines : ∀ line ∈ lines, IsLine line)
    (isHeaded : lines = packageLines space ++ body)
    (others : ∀ line ∈ body, line.toList[1]? ≠ some 'a') :
    packagesIn (Text.ofLines lines) = (Text.nonempty? space).toList := by
  have noneInBody : body.filterMap packageOf? = [] := by
    rw [List.filterMap_eq_nil_iff]
    intro line member
    exact packageOf?_eq_none (others line member)
  have blank : [""].filterMap packageOf? = [] := by decide
  rw [packagesIn, Text.lines_ofLines areLines, isHeaded, List.filterMap_append,
    List.filterMap_append, noneInBody, blank, List.append_nil, List.append_nil,
    filterMap_packageOf?_packageLines]

theorem packagesIn_contractLines
    (areLines : ∀ line ∈ contractLines table space service mode, IsLine line) :
    packagesIn (Text.ofLines (contractLines table space service mode)) =
      (Text.nonempty? space).toList := by
  apply packagesIn_ofLines areLines (contractLines_eq_header table space service mode)
  intro line member
  cases List.mem_cons.mp member with
  | inl isHeader =>
      rw [isHeader]
      unfold interfaceLine
      rw [String.append_assoc]
      exact second_append rfl (by decide) _
  | inr inBody =>
      cases List.mem_append.mp inBody with
      | inl inDeclarations =>
          obtain ⟨text, _, inPair⟩ := List.mem_flatMap.mp inDeclarations
          rw [List.mem_cons, List.mem_singleton] at inPair
          rcases inPair with rfl | rfl
          · decide
          · unfold declarationLine
            rw [String.append_assoc]
            exact second_append rfl (by decide) _
      | inr isEnd =>
          rw [List.mem_singleton.mp isEnd]
          decide

theorem second_of_mem_methodLines {method : WrittenMethod} {line : String}
    (member : line ∈ method.lines) : line.toList[1]? ≠ some 'a' := by
  cases List.mem_append.mp member with
  | inl inHead =>
      simp only [List.mem_cons, List.not_mem_nil, or_false] at inHead
      rcases inHead with rfl | rfl | rfl
      · decide
      · decide
      · rw [String.append_assoc]
        exact second_append rfl (by decide) _
  | inr inRest =>
      cases List.mem_append.mp inRest with
      | inl inBody =>
          obtain ⟨text, _, rfl⟩ := List.mem_map.mp inBody
          exact second_append rfl (by decide) _
      | inr isEnd =>
          rw [List.mem_singleton.mp isEnd]
          decide

theorem packagesIn_implementationLines
    (areLines : ∀ line ∈ implementationLines table space service mode, IsLine line) :
    packagesIn (Text.ofLines (implementationLines table space service mode)) =
      (Text.nonempty? space).toList := by
  apply packagesIn_ofLines areLines rfl
  intro line member
  cases List.mem_append.mp member with
  | inl inClass =>
      simp only [classLines, String.append_assoc, List.mem_cons, List.not_mem_nil, or_false]
        at inClass
      rcases inClass with rfl | rfl | rfl | rfl | rfl
      · exact second_append rfl (by decide) _
      · decide
      · exact second_append rfl (by decide) _
      · decide
      · decide
  | inr inRest =>
      cases List.mem_append.mp inRest with
      | inl inMethods =>
          obtain ⟨method, _, inLines⟩ := List.mem_flatMap.mp inMethods
          exact second_of_mem_methodLines inLines
      | inr inStub =>
          simp only [stubLines, String.append_assoc, List.mem_cons, List.not_mem_nil, or_false]
            at inStub
          rcases inStub with rfl | rfl | rfl | rfl | rfl | rfl
          · decide
          · decide
          · exact second_append rfl (by decide) _
          · exact second_append rfl (by decide) _
          · decide
          · decide

end Files

end Java

end ServiceBindings
