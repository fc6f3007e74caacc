import ServiceBindings.Proofs.Java.SourceText
import ServiceBindings.Proofs.NamespaceTable
import ServiceBindings.Proofs.Text.Letter
import ServiceBindings.Proofs.Text.Segments

/-!
# Lines of Java files

What is put together from names without line breaks has no line breaks either, so the lines
of which a Java file consists can be read back from its text.
-/

namespace ServiceBindings

open Text (IsLine)

theorem Text.isLine_intercalate {separator : String} (separatorIsLine : IsLine separator)
    {parts : List String} (areLines : ∀ part ∈ parts, IsLine part) :
    IsLine (String.intercalate separator parts) :=
  Text.notMem_intercalate separatorIsLine areLines

theorem Identifier.notMem_qualify {c : Char} (notDot : c ≠ '.') {space name : String}
    (notInSpace : c ∉ space.toList) (notInName : c ∉ name.toList) :
    c ∉ (Identifier.qualify space name).toList := by
  rw [Identifier.qualify]
  split
  · exact notInName
  · simp [notInSpace, notInName, notDot]

theorem Identifier.isLine_qualify {space name : String} (spaceIsLine : IsLine space)
    (nameIsLine : IsLine name) : IsLine (Identifier.qualify space name) :=
  notMem_qualify (by decide) spaceIsLine nameIsLine

theorem Identifier.isLine_lowerFirst {name : String} (nameIsLine : IsLine name) :
    IsLine (Identifier.lowerFirst name) := by
  rw [IsLine] at nameIsLine
  rw [Identifier.lowerFirst]
  cases characters : name.toList with
  | nil => decide
  | cons first rest =>
      rw [characters, List.mem_cons, not_or] at nameIsLine
      have notInFirst : '\n' ∉ [first].flatMap Text.lowercaseOf :=
        Text.notMem_flatMap_lowercaseOf (by decide) (by simpa using nameIsLine.1)
      rw [List.flatMap_singleton] at notInFirst
      simp [IsLine, notInFirst, nameIsLine.2]

theorem Schema.TypeName.isLine_simpleName {type : Schema.TypeName}
    (typeIsLine : IsLine type.fullName) : IsLine type.simpleName := by
  rw [Schema.TypeName.simpleName, Text.cutLast?]
  cases type.fullName.toList.reverse.dropWhile (· != '.') with
  | nil => exact typeIsLine
  | cons separator before =>
      simp only [IsLine, String.toList_ofList, List.mem_reverse]
      intro member
      exact typeIsLine (List.mem_reverse.mp (List.takeWhile_subset _ member))

/-- Whether a table holds only namespaces without line breaks. -/
def NamespaceTable.HoldsLines (table : NamespaceTable) : Prop :=
  ∀ fullName space, table.spaceOf? fullName = some space → IsLine space

theorem NamespaceTable.holdsLines_ofDeclarations {declarations : List Declaration}
    (areLines : ∀ declaration ∈ declarations, IsLine declaration.space) :
    (ofDeclarations declarations).HoldsLines := by
  intro fullName space found
  rw [spaceOf?_ofDeclarations, Option.map_eq_some_iff] at found
  obtain ⟨declaration, isFound, rfl⟩ := found
  exact areLines declaration (List.mem_of_find?_eq_some isFound)

theorem NamespaceTable.isLine_resolve {table : NamespaceTable} (holdsLines : table.HoldsLines)
    {type : Schema.TypeName} (typeIsLine : IsLine type.fullName) :
    IsLine (table.resolve type).text := by
  apply Identifier.isLine_qualify _ (Schema.TypeName.isLine_simpleName typeIsLine)
  rw [NamespaceTable.resolve]
  cases found : table.spaceOf? type.fullName with
  | none => simp [IsLine]
  | some space => exact holdsLines type.fullName space found

/-- Whether a method is made of names without line breaks. -/
structure Schema.Method.IsOfLines (method : Schema.Method) : Prop where
  name : IsLine method.name
  input : IsLine method.inputType.fullName
  output : IsLine method.outputType.fullName

/-- Whether a service is made of names without line breaks. -/
structure Schema.Service.IsOfLines (service : Schema.Service) : Prop where
  name : IsLine service.name
  methods : ∀ method ∈ service.methods, method.IsOfLines

namespace Java

variable {table : NamespaceTable} {space : String} {service : Schema.Service} {mode : CallMode}

section Names

variable (spaceIsLine : IsLine space) {name : String} (nameIsLine : IsLine name)

include nameIsLine

theorem isLine_contractName : IsLine (contractName name mode) := by
  cases mode <;> simp +decide [contractName, nameIsLine]

theorem isLine_implementationName : IsLine (implementationName name mode) := by
  cases mode <;> simp +decide [implementationName, nameIsLine]

include spaceIsLine

theorem isLine_transportClass : IsLine (transportClass space name) := by
  apply Identifier.isLine_qualify spaceIsLine
  simp +decide [nameIsLine]

theorem isLine_stubClass : IsLine (stubClass space name mode) := by
  have transport := isLine_transportClass spaceIsLine nameIsLine
  cases mode <;> simp +decide [stubClass, transport, nameIsLine]

end Names

section Declarations

variable {input output : String} (inputIsLine : IsLine input) (outputIsLine : IsLine output)

include inputIsLine outputIsLine

theorem isLine_returnType (shape : CallShape) : IsLine (returnType shape input output) := by
  unfold returnType iteratorType observerType
  cases shape.mode with
  | sync => cases shape.serverStreaming <;> simp +decide [outputIsLine]
  | async => cases shape.clientStreaming <;> simp +decide [inputIsLine]

theorem isLine_argumentType (argument : Argument) :
    IsLine (argumentType input output argument) := by
  unfold argumentType propertiesType observerType
  cases argument <;> simp +decide [inputIsLine, outputIsLine]

theorem isLine_parameterText (argument : Argument) :
    IsLine (Parameter.text ⟨argumentType input output argument, argument⟩) := by
  have type := isLine_argumentType inputIsLine outputIsLine argument
  cases argument <;> simp +decide [Parameter.text, Argument.name, type]

end Declarations

theorem isLine_declaration (holdsLines : table.HoldsLines) {method : Schema.Method}
    (methodIsOfLines : method.IsOfLines) (shape : CallShape) (routed : Bool) :
    IsLine (declaration table shape method routed).text := by
  have name := Identifier.isLine_lowerFirst methodIsOfLines.name
  have input := NamespaceTable.isLine_resolve holdsLines methodIsOfLines.input
  have output := NamespaceTable.isLine_resolve holdsLines methodIsOfLines.output
  have returned := isLine_returnType input output shape
  have parameters : IsLine (declaration table shape method routed).parameterList := by
    apply Text.isLine_intercalate (by decide)
    intro part member
    simp only [declaration, List.map_map, List.mem_map, Function.comp_apply] at member
    rcases member with ⟨argument, _, rfl⟩
    exact isLine_parameterText input output argument
  simp +decide only [Signature.text, Text.isLine_append, parameters, and_true]
  exact ⟨returned, name⟩

theorem isLine_operandText (operand : Operand) : IsLine operand.text := by
  cases operand with
  | argument argument => cases argument <;> decide
  | noProperties => decide
  | noMessage => decide

theorem isLine_acquireStubText {stub : String} (stubIsLine : IsLine stub) (request : Operand) :
    IsLine (Statement.acquireStub stub request).text := by
  rw [Statement.text_acquireStub]
  simp +decide [stubIsLine, isLine_operandText]

theorem isLine_requestText {name : String} (nameIsLine : IsLine name) (wiring : Wiring) :
    IsLine (Statement.request wiring name).text := by
  rw [Statement.text_request]
  cases wiring <;> simp +decide [nameIsLine]

theorem isLine_forwardText {name : String} (nameIsLine : IsLine name) (returnsValue : Bool)
    (operands : List Operand) :
    IsLine (Statement.forward returnsValue name operands).text := by
  have operandsAreLine : IsLine (String.intercalate ", " (operands.map Operand.text)) := by
    apply Text.isLine_intercalate (by decide)
    intro part member
    rcases List.mem_map.mp member with ⟨operand, _, rfl⟩
    exact isLine_operandText operand
  rw [Statement.text_forward]
  cases returnsValue <;> simp +decide [nameIsLine, operandsAreLine]

theorem isLine_statementText {statement : Statement} {method : Schema.Method}
    (spaceIsLine : IsLine space) (serviceIsLine : IsLine service.name)
    (methodIsOfLines : method.IsOfLines) {shape : CallShape} {routed : Bool}
    (member : statement ∈ body shape space service.name method routed) :
    IsLine statement.text := by
  have name := Identifier.isLine_lowerFirst methodIsOfLines.name
  have stub : IsLine (stubClass space service.name shape.mode) :=
    isLine_stubClass spaceIsLine serviceIsLine
  cases routed with
  | true =>
      rw [body, if_pos rfl, routedBody, List.mem_cons, List.mem_singleton] at member
      rcases member with rfl | rfl
      · exact isLine_acquireStubText stub _
      · exact isLine_requestText name _
  | false =>
      rw [body, if_neg (by simp), forwardingBody, List.mem_singleton] at member
      subst member
      exact isLine_forwardText name _ _

section Files

variable (holdsLines : table.HoldsLines) (spaceIsLine : IsLine space)
  (serviceIsOfLines : service.IsOfLines)

omit table service mode in
theorem isLine_of_mem_packageLines (spaceIsLine : IsLine space) :
    ∀ line ∈ packageLines space, IsLine line := by
  rw [packageLines]
  split
  · simp
  · simp +decide [spaceIsLine]

include holdsLines serviceIsOfLines

theorem isLine_of_mem_declarations {methods : List Schema.Method}
    (subset : ∀ method ∈ methods, method ∈ service.methods) :
    ∀ text ∈ declarations table mode methods, IsLine text := by
  intro text member
  rcases List.mem_flatMap.mp member with ⟨method, methodMember, inVariants⟩
  rcases List.mem_map.mp inVariants with ⟨routed, _, rfl⟩
  exact isLine_declaration holdsLines (serviceIsOfLines.methods method (subset method methodMember))
    _ routed

include spaceIsLine

theorem isLine_of_mem_contractLines :
    ∀ line ∈ contractLines table space service mode, IsLine line := by
  have name : IsLine (contractName service.name mode) := isLine_contractName serviceIsOfLines.name
  intro line member
  unfold contractLines interfaceLine declarationLine at member
  rcases List.mem_append.mp member with inPackage | inContract
  · exact isLine_of_mem_packageLines spaceIsLine line inPackage
  · rcases List.mem_append.mp inContract with isHeader | inBody
    · rw [List.mem_singleton] at isHeader
      simp +decide [isHeader, name]
    · rcases List.mem_append.mp inBody with inDeclarations | isEnd
      · rcases List.mem_flatMap.mp inDeclarations with ⟨text, textMember, inPair⟩
        have textIsLine : IsLine text :=
          isLine_of_mem_declarations holdsLines serviceIsOfLines (by simp) text textMember
        rw [List.mem_cons, List.mem_singleton] at inPair
        rcases inPair with rfl | rfl
        · decide
        · simp +decide [textIsLine]
      · rw [List.mem_singleton] at isEnd
        subst isEnd
        decide

theorem isLine_of_mem_writtenMethods {method : WrittenMethod}
    (member : method ∈ writtenMethods table space service mode) :
    ∀ line ∈ method.lines, IsLine line := by
  rcases List.mem_flatMap.mp member with ⟨source, sourceMember, inVariants⟩
  rcases List.mem_map.mp inVariants with ⟨routed, _, rfl⟩
  have sourceIsOfLines := serviceIsOfLines.methods source (List.mem_filter.mp sourceMember).1
  have declared := isLine_declaration holdsLines sourceIsOfLines (CallShape.ofMethod source mode)
    routed
  intro line inLines
  rcases List.mem_append.mp inLines with inHead | inRest
  · simp only [List.mem_cons, List.not_mem_nil, or_false] at inHead
    rcases inHead with rfl | rfl | rfl
    · decide
    · decide
    · simp +decide only [writtenMethod, Text.isLine_append, declared]
  · rcases List.mem_append.mp inRest with inBody | isEnd
    · rcases List.mem_map.mp inBody with ⟨text, textMember, rfl⟩
      rcases List.mem_map.mp textMember with ⟨statement, statementMember, rfl⟩
      have textIsLine := isLine_statementText spaceIsLine serviceIsOfLines.name sourceIsOfLines
        statementMember
      simp +decide [textIsLine]
    · rw [List.mem_singleton] at isEnd
      subst isEnd
      decide

theorem isLine_of_mem_implementationLines :
    ∀ line ∈ implementationLines table space service mode, IsLine line := by
  have name : IsLine (implementationName service.name mode) :=
    isLine_implementationName serviceIsOfLines.name
  have contract : IsLine (Identifier.qualify space (contractName service.name mode)) :=
    Identifier.isLine_qualify spaceIsLine (isLine_contractName serviceIsOfLines.name)
  have stub : IsLine (stubClass space service.name mode) :=
    isLine_stubClass spaceIsLine serviceIsOfLines.name
  have transport : IsLine (transportClass space service.name) :=
    isLine_transportClass spaceIsLine serviceIsOfLines.name
  have factory : IsLine (stubFactory mode) := by cases mode <;> decide
  intro line member
  rcases List.mem_append.mp member with inPackage | inClass
  · exact isLine_of_mem_packageLines spaceIsLine line inPackage
  · rcases List.mem_append.mp inClass with inHead | inRest
    · simp only [classLines, List.mem_cons, List.not_mem_nil, or_false] at inHead
      rcases inHead with rfl | rfl | rfl | rfl | rfl <;> simp +decide [name, contract, stub]
    · rcases List.mem_append.mp inRest with inMethods | inStub
      · rcases List.mem_flatMap.mp inMethods with ⟨method, methodMember, inLines⟩
        exact isLine_of_mem_writtenMethods holdsLines spaceIsLine serviceIsOfLines methodMember
          line inLines
      · simp only [stubLines, List.mem_cons, List.not_mem_nil, or_false] at inStub
        rcases inStub with rfl | rfl | rfl | rfl | rfl | rfl <;>
          simp +decide [stub, transport, factory]

end Files

end Java

end ServiceBindings
