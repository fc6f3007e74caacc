import Mathlib.Data.List.Basic
import ServiceBindings.Proofs.Java.Lines
import ServiceBindings.Proofs.NamespaceTable

/-!
# Agreement of contract and default implementation

The declarations are read back from the generated texts: from a contract the lines between
its header and the closing brace, and from a default implementation what follows an override
marker.  Every method is declared twice, under its name, first without and then with routing
properties.  An implementation of callbacks overrides all of these declarations, a blocking one all
but those of methods with streamed requests.
-/

namespace ServiceBindings.Java

open Text (IsLine)

/-- The lines between a header and the next closing brace in which something stands. -/
def declaredLines (header text : String) : List String :=
  ((((Text.lines text).dropWhile (· != header)).drop 1).takeWhile (· != "\x7d")).filter
    (!Text.isBlankLine ·)

/-- What stands between an opening and a closing in a line. -/
def enclosed? (opening closing line : String) : Option String :=
  ((line.toList.dropPrefix? opening.toList).bind (·.dropSuffix? closing.toList)).map String.ofList

/-- The line that says that the next one overrides a method. -/
def overrideLine : String := "    @java.lang.Override"

/-- The declaration of a public method in the first of some lines. -/
def declarationAtHead? (lines : List String) : Option String :=
  lines.head?.bind (enclosed? "    public " " \x7b")

/-- The declarations of public methods that follow an override marker. -/
def overriddenIn : List String → List String
  | [] => []
  | line :: rest =>
      if line = overrideLine then (declarationAtHead? rest).toList ++ overriddenIn rest
      else overriddenIn rest

/-- The declarations of public methods in a text that follow an override marker. -/
def overriddenDeclarations (text : String) : List String := overriddenIn (Text.lines text)

/-! ## Reading a contract -/

theorem isBlankLine_declarationLine (text : String) :
    Text.isBlankLine (declarationLine text) = false :=
  Text.isBlankLine_eq_false (c := ';') (by simp [declarationLine]) (by decide)

theorem declarationLine_ne_brace (text : String) : declarationLine text ≠ "\x7d" := by
  rw [← String.toList_inj.ne]
  simp [declarationLine]

theorem interfaceLine_notMem_packageLines (space name : String) :
    interfaceLine name ∉ packageLines space := by
  have notPackage : interfaceLine name ≠ "package " ++ space ++ ";" := by
    rw [← String.toList_inj.ne]
    unfold interfaceLine
    simp
  have notBlank : interfaceLine name ≠ "" := by
    rw [← String.toList_inj.ne]
    unfold interfaceLine
    simp
  rw [packageLines]
  split
  · simp
  · simp [notPackage, notBlank]

theorem filter_flatMap_declarationLine (texts : List String) :
    (texts.flatMap (["", declarationLine ·])).filter (!Text.isBlankLine ·) =
      texts.map declarationLine := by
  induction texts with
  | nil => rfl
  | cons text rest ih =>
      have blank : Text.isBlankLine "" = true := by decide
      rw [List.flatMap_cons, List.filter_append, ih]
      simp [blank, isBlankLine_declarationLine]

theorem takeWhile_declarationLines (texts : List String) :
    (texts.flatMap (["", declarationLine ·]) ++ ["\x7d", ""]).takeWhile (· != "\x7d") =
      texts.flatMap (["", declarationLine ·]) := by
  have inside : ∀ line ∈ texts.flatMap (["", declarationLine ·]), (line != "\x7d") = true := by
    intro line member
    rcases List.mem_flatMap.mp member with ⟨text, _, inPair⟩
    rw [List.mem_cons, List.mem_singleton] at inPair
    rcases inPair with rfl | rfl
    · decide
    · simpa using declarationLine_ne_brace text
  rw [List.takeWhile_append_of_pos inside]
  simp

theorem declaredLines_contractLines {table : NamespaceTable} {space : String}
    {service : Schema.Service} {mode : CallMode}
    (areLines : ∀ line ∈ contractLines table space service mode, IsLine line) :
    declaredLines (interfaceLine (contractName service.name mode))
        (Text.ofLines (contractLines table space service mode)) =
      (declarations table mode service.methods).map declarationLine := by
  have beforeHeader : ∀ line ∈ packageLines space,
      (line != interfaceLine (contractName service.name mode)) = true := by
    intro line member
    rw [bne_iff_ne]
    intro same
    subst same
    exact interfaceLine_notMem_packageLines space _ member
  rw [declaredLines, Text.lines_ofLines areLines, contractLines, List.append_assoc,
    List.dropWhile_append_of_pos beforeHeader]
  simp only [List.nil_append, List.cons_append, List.dropWhile_cons, bne_self_eq_false,
    Bool.false_eq_true, if_false, List.drop_succ_cons, List.drop_zero, List.append_assoc]
  rw [takeWhile_declarationLines, filter_flatMap_declarationLine]

/-! ## Reading a default implementation -/

theorem enclosed?_eq_some_iff (opening closing line text : String) :
    enclosed? opening closing line = some text ↔ line = opening ++ text ++ closing := by
  simp only [enclosed?, Option.map_eq_some_iff, Option.bind_eq_some_iff,
    List.dropPrefix?_eq_some_iff, List.dropSuffix?_eq_some_iff, beq_iff_eq]
  constructor
  · intro given
    rcases given with ⟨inside, ⟨rest, ⟨front, lineIs, rfl⟩, back, rfl, rfl⟩, rfl⟩
    rw [← String.toList_inj, lineIs]
    simp
  · intro same
    subst same
    refine ⟨text.toList, ⟨text.toList ++ closing.toList, ⟨opening.toList, ?_, rfl⟩,
      closing.toList, rfl, rfl⟩, String.ofList_toList⟩
    simp

theorem overriddenIn_append {front : List String} (noMarker : overrideLine ∉ front)
    (rest : List String) : overriddenIn (front ++ rest) = overriddenIn rest := by
  induction front with
  | nil => rfl
  | cons line others ih =>
      rw [List.mem_cons, not_or] at noMarker
      rw [List.cons_append, overriddenIn, if_neg (Ne.symm noMarker.1)]
      exact ih noMarker.2

theorem overriddenIn_methodLines (method : WrittenMethod) (rest : List String) :
    overriddenIn (method.lines ++ rest) = method.declaration :: overriddenIn rest := by
  have noMarker : overrideLine ∉
      ("    public " ++ method.declaration ++ " \x7b") ::
        (method.statements.map ("        " ++ ·) ++ ["    \x7d"]) := by
    simp only [List.mem_cons, List.mem_append, List.mem_map, List.not_mem_nil, or_false, not_or,
      not_exists, not_and]
    refine ⟨?_, ?_, by decide⟩
    · rw [← String.toList_inj]
      simp [overrideLine]
    · intro text _
      rw [← String.toList_inj]
      simp [overrideLine]
  have declared : declarationAtHead?
      (("    public " ++ method.declaration ++ " \x7b") ::
        (method.statements.map ("        " ++ ·) ++ ["    \x7d"]) ++ rest) =
          some method.declaration := by
    exact (enclosed?_eq_some_iff _ _ _ _).mpr rfl
  have skipped := overriddenIn_append noMarker rest
  have blank : "" ≠ overrideLine := by decide
  change overriddenIn ("" :: overrideLine :: (("    public " ++ method.declaration ++ " \x7b") ::
    (method.statements.map ("        " ++ ·) ++ ["    \x7d"]) ++ rest)) = _
  rw [overriddenIn, if_neg blank, overriddenIn, if_pos rfl, declared, skipped]
  rfl

theorem overriddenIn_methods (methods : List WrittenMethod) (rest : List String) :
    overriddenIn (methods.flatMap WrittenMethod.lines ++ rest) =
      methods.map WrittenMethod.declaration ++ overriddenIn rest := by
  induction methods with
  | nil => rfl
  | cons method others ih =>
      rw [List.flatMap_cons, List.append_assoc, overriddenIn_methodLines, ih]
      rfl

theorem overriddenIn_stubLines (space service : String) (mode : CallMode) (rest : List String) :
    overriddenIn (stubLines space service mode ++ rest) = overriddenIn rest := by
  have factoryMember : ∀ line, enclosed? "    public " " \x7b" ("    protected " ++ line) = none := by
    intro line
    rw [Option.eq_none_iff_forall_ne_some]
    intro text isDeclaration
    rw [enclosed?_eq_some_iff, ← String.toList_inj] at isDeclaration
    simp at isDeclaration
  have noMarker : overrideLine ∉ (stubLines space service mode).drop 2 := by
    simp only [stubLines, List.drop_succ_cons, List.drop_zero, List.mem_cons, List.not_mem_nil,
      or_false, not_or]
    refine ⟨?_, ?_, by decide, by decide⟩
    · rw [← String.toList_inj]
      simp [overrideLine]
    · rw [← String.toList_inj]
      simp [overrideLine]
  have skipped := overriddenIn_append noMarker rest
  have blank : "" ≠ overrideLine := by decide
  have notDeclared : declarationAtHead? ((stubLines space service mode).drop 2 ++ rest) = none := by
    simp only [stubLines, List.drop_succ_cons, List.drop_zero, List.cons_append,
      declarationAtHead?, List.head?_cons, Option.bind_some, String.append_assoc]
    exact factoryMember _
  change overriddenIn ("" :: overrideLine :: ((stubLines space service mode).drop 2 ++ rest)) = _
  rw [overriddenIn, if_neg blank, overriddenIn, if_pos rfl, notDeclared, skipped]
  rfl

theorem overrideLine_notMem_packageLines (space : String) :
    overrideLine ∉ packageLines space := by
  have notPackage : overrideLine ≠ "package " ++ space ++ ";" := by
    rw [← String.toList_inj.ne]
    simp [overrideLine]
  rw [packageLines]
  split
  · simp
  · simp +decide [notPackage]

theorem overrideLine_notMem_classLines (space service : String) (mode : CallMode) :
    overrideLine ∉ classLines space service mode := by
  simp only [classLines, List.mem_cons, List.not_mem_nil, or_false, not_or]
  refine ⟨?_, by decide, ?_, by decide, by decide⟩
  · rw [← String.toList_inj]
    simp [overrideLine]
  · rw [← String.toList_inj]
    simp [overrideLine]

theorem overriddenIn_implementationLines (table : NamespaceTable) (space : String)
    (service : Schema.Service) (mode : CallMode) (rest : List String) :
    overriddenIn (implementationLines table space service mode ++ rest) =
      declarations table mode (implementedMethods mode service.methods) ++ overriddenIn rest := by
  rw [implementationLines]
  simp only [List.append_assoc]
  rw [overriddenIn_append (overrideLine_notMem_packageLines space),
    overriddenIn_append (overrideLine_notMem_classLines space service.name mode),
    overriddenIn_methods, overriddenIn_stubLines, map_declaration_writtenMethods]

theorem overriddenDeclarations_implementationLines {table : NamespaceTable} {space : String}
    {service : Schema.Service} {mode : CallMode}
    (areLines : ∀ line ∈ implementationLines table space service mode, IsLine line) :
    overriddenDeclarations (Text.ofLines (implementationLines table space service mode)) =
      declarations table mode (implementedMethods mode service.methods) := by
  have atEnd : overriddenIn [""] = [] := by decide
  rw [overriddenDeclarations, Text.lines_ofLines areLines, overriddenIn_implementationLines, atEnd,
    List.append_nil]

/-! ## Variants of methods -/

/-- Routing properties as a parameter. -/
def propertiesParameter : String := propertiesType ++ " properties"

/-- The declaration of a method: a type, its name and parameters. -/
def methodText (type name : String) (parameters : List String) : String :=
  type ++ " " ++ name ++ "(" ++ String.intercalate ", " parameters ++ ")"

/-- Texts that declare methods in order, two for each method: the first one without routing
properties, and the second one the same with routing properties among the parameters. -/
inductive DeclareVariants : List Schema.Method → List String → Prop where
  | nil : DeclareVariants [] []
  | cons {method : Schema.Method} {methods : List Schema.Method} {texts : List String}
      (type : String) {front back : List String} :
      propertiesParameter ∉ front ++ back → DeclareVariants methods texts →
      DeclareVariants (method :: methods)
        (methodText type (Identifier.lowerFirst method.name) (front ++ back) ::
          methodText type (Identifier.lowerFirst method.name)
            (front ++ propertiesParameter :: back) :: texts)

theorem eq_properties_of_text {type : String} {argument : Argument}
    (same : Parameter.text ⟨type, argument⟩ = propertiesParameter) : argument = .properties := by
  have lastLetter := congrArg (·.toList.getLast?) same
  cases argument with
  | properties => rfl
  | input | observer => simp [Parameter.text, Argument.name, propertiesParameter] at lastLetter

theorem exists_arguments_eq (shape : CallShape) : ∃ front back,
    arguments shape false = front ++ back ∧ arguments shape true = front ++ .properties :: back ∧
      Argument.properties ∉ front ++ back := by
  refine ⟨if shape.takesInput then [.input] else [],
    if shape.mode = .async then [.observer] else [], rfl, rfl, ?_⟩
  split <;> split <;> decide

/-- What a method takes, as it is declared. -/
def argumentText (table : NamespaceTable) (method : Schema.Method) (argument : Argument) : String :=
  Parameter.text ⟨argumentType (table.resolve method.inputType).text
    (table.resolve method.outputType).text argument, argument⟩

theorem text_declaration (table : NamespaceTable) (shape : CallShape) (method : Schema.Method)
    (routed : Bool) : (declaration table shape method routed).text =
      methodText (returnType shape (table.resolve method.inputType).text
        (table.resolve method.outputType).text) (Identifier.lowerFirst method.name)
        ((arguments shape routed).map (argumentText table method)) := by
  rw [Signature.text, Signature.parameterList, declaration, List.map_map]
  rfl

/-- The two declarations of a method differ only in the routing properties. -/
theorem exists_text_declaration_eq (table : NamespaceTable) (shape : CallShape)
    (method : Schema.Method) : ∃ type front back, propertiesParameter ∉ front ++ back ∧
      (declaration table shape method false).text =
        methodText type (Identifier.lowerFirst method.name) (front ++ back) ∧
      (declaration table shape method true).text =
        methodText type (Identifier.lowerFirst method.name)
          (front ++ propertiesParameter :: back) := by
  obtain ⟨front, back, plain, routed, absent⟩ := exists_arguments_eq shape
  have plainText := text_declaration table shape method false
  have routedText := text_declaration table shape method true
  rw [plain, List.map_append] at plainText
  rw [routed, List.map_append, List.map_cons] at routedText
  have textAbsent : propertiesParameter ∉
      front.map (argumentText table method) ++ back.map (argumentText table method) := by
    intro member
    rw [← List.map_append] at member
    rcases List.mem_map.mp member with ⟨argument, isArgument, isText⟩
    rw [eq_properties_of_text isText] at isArgument
    exact absent isArgument
  exact ⟨_, _, _, textAbsent, plainText, routedText⟩

/-- The declarations of methods are the two variants of each of them. -/
theorem declareVariants_declarations (table : NamespaceTable) (mode : CallMode)
    (methods : List Schema.Method) :
    DeclareVariants methods (declarations table mode methods) := by
  induction methods with
  | nil => exact .nil
  | cons method rest ih =>
      rcases exists_text_declaration_eq table (CallShape.ofMethod method mode) method with
        ⟨type, front, back, absent, plain, routed⟩
      have same : declarations table mode (method :: rest) =
          methodText type (Identifier.lowerFirst method.name) (front ++ back) ::
            methodText type (Identifier.lowerFirst method.name)
              (front ++ propertiesParameter :: back) :: declarations table mode rest := by
        rw [← plain, ← routed]
        rfl
      rw [same]
      exact .cons type absent ih

/-! ## Agreement -/

theorem implementedMethods_sync (methods : List Schema.Method) :
    implementedMethods .sync methods = methods.filter (!·.clientStreaming) := rfl

theorem implementedMethods_async (methods : List Schema.Method) :
    implementedMethods .async methods = methods :=
  List.filter_eq_self.mpr fun _ _ => rfl

/-- The contract and the default implementation of a service can both be generated.  The
contract declares both variants of every method in order, and the implementation overrides exactly
these declarations in the same order, in a blocking implementation without those of the
methods with streamed requests. -/
theorem contract_implementation_agree {table : NamespaceTable} (holdsLines : table.HoldsLines)
    {space : String} (spaceIsLine : IsLine space) {service : Schema.Service}
    (serviceIsOfLines : service.IsOfLines) (mode : CallMode)
    (contractRoot implementationRoot : Option String) :
    ∃ library contractFile implementationFile,
      Template.Library.standard = .ok library ∧
      contract library contractRoot table space service mode = .ok contractFile ∧
      implementation library implementationRoot table space service mode =
        .ok implementationFile ∧
      declaredLines (interfaceLine (contractName service.name mode)) contractFile.content =
        (declarations table mode service.methods).map declarationLine ∧
      DeclareVariants service.methods (declarations table mode service.methods) ∧
      overriddenDeclarations implementationFile.content =
        match mode with
        | .async => declarations table .async service.methods
        | .sync => declarations table .sync (service.methods.filter (!·.clientStreaming)) := by
  have declared : declaredLines (interfaceLine (contractName service.name mode))
      (contractFile table space service mode contractRoot).content =
        (declarations table mode service.methods).map declarationLine :=
    declaredLines_contractLines
      (isLine_of_mem_contractLines holdsLines spaceIsLine serviceIsOfLines)
  have overridden : overriddenDeclarations
      (implementationFile table space service mode implementationRoot).content =
        declarations table mode (implementedMethods mode service.methods) :=
    overriddenDeclarations_implementationLines
      (isLine_of_mem_implementationLines holdsLines spaceIsLine serviceIsOfLines)
  refine ⟨Template.standardLibrary, _, _, Template.standard_eq,
    contract_standard table space service mode contractRoot,
    implementation_standard table space service mode implementationRoot, declared,
    declareVariants_declarations table mode service.methods, ?_⟩
  cases mode with
  | sync => rw [overridden, implementedMethods_sync]
  | async => rw [overridden, implementedMethods_async]

theorem contract_implementation_agree_chat :
    let join : Schema.Method := ⟨"Join", ⟨"chat.Room.Key"⟩, ⟨"chat.Unknown"⟩, false, false⟩
    let send : Schema.Method := ⟨"Send", ⟨"chat.Text"⟩, ⟨"chat.Room.Key"⟩, true, false⟩
    let listen : Schema.Method := ⟨"Listen", ⟨"chat.Room.Key"⟩, ⟨"chat.Text"⟩, false, true⟩
    let talk : Schema.Method := ⟨"Talk", ⟨"chat.Text"⟩, ⟨"chat.Text"⟩, true, true⟩
    let table := NamespaceTable.ofDeclarations
      [⟨"chat.Text", "com.chat"⟩, ⟨"chat.Room.Key", "com.chat.Room"⟩]
    let properties := "java.util.Map<java.lang.String, java.lang.String> properties"
    ∃ library contractFile implementationFile,
      Template.Library.standard = .ok library ∧
      contract library none table "com.chat" ⟨"Chat", [join, send, listen, talk]⟩ .sync =
        .ok contractFile ∧
      implementation library none table "com.chat" ⟨"Chat", [join, send, listen, talk]⟩ .sync =
        .ok implementationFile ∧
      declaredLines (interfaceLine "ChatService") contractFile.content =
        ["    Unknown join(com.chat.Room.Key input);",
          "    Unknown join(com.chat.Room.Key input, " ++ properties ++ ");",
          "    com.chat.Room.Key send();",
          "    com.chat.Room.Key send(" ++ properties ++ ");",
          "    java.util.Iterator<com.chat.Text> listen(com.chat.Room.Key input);",
          "    java.util.Iterator<com.chat.Text> listen(com.chat.Room.Key input, " ++
            properties ++ ");",
          "    java.util.Iterator<com.chat.Text> talk();",
          "    java.util.Iterator<com.chat.Text> talk(" ++ properties ++ ");"] ∧
      overriddenDeclarations implementationFile.content =
        ["Unknown join(com.chat.Room.Key input)",
          "Unknown join(com.chat.Room.Key input, " ++ properties ++ ")",
          "java.util.Iterator<com.chat.Text> listen(com.chat.Room.Key input)",
          "java.util.Iterator<com.chat.Text> listen(com.chat.Room.Key input, " ++
            properties ++ ")"] := by
  intro join send listen talk table properties
  have holdsLines : table.HoldsLines := by
    intro fullName space found
    rw [NamespaceTable.spaceOf?_ofDeclarations, Option.map_eq_some_iff] at found
    rcases found with ⟨declaration, found, rfl⟩
    have member := List.mem_of_find?_eq_some found
    simp only [List.mem_cons, List.not_mem_nil, or_false] at member
    rcases member with rfl | rfl <;> decide
  have methodsAreOfLines : ∀ method ∈ [join, send, listen, talk], method.IsOfLines := by
    simp only [List.forall_mem_cons]
    refine ⟨⟨?_, ?_, ?_⟩, ⟨?_, ?_, ?_⟩, ⟨?_, ?_, ?_⟩, ⟨?_, ?_, ?_⟩, by simp⟩ <;> decide
  have spaceIsLine : IsLine "com.chat" := by decide
  have serviceIsOfLines : (⟨"Chat", [join, send, listen, talk]⟩ : Schema.Service).IsOfLines :=
    ⟨by decide, methodsAreOfLines⟩
  rcases contract_implementation_agree holdsLines spaceIsLine serviceIsOfLines .sync none none with
    ⟨library, contractFile, implementationFile, isStandard, isContract, isImplementation, declared, _,
      overridden⟩
  exact ⟨library, contractFile, implementationFile, isStandard, isContract, isImplementation,
    declared.trans (by decide), overridden.trans (by decide)⟩

end ServiceBindings.Java
