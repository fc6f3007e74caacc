import ServiceBindings.Proofs.Java.Variable

/-!
# Bodies that fit their declarations

The bodies of a default implementation are made apart from the declarations.  Still, a body uses
nothing but the parameters of its own declaration, and it returns a value if and only if there
is one to return.  This is so for the shapes that are implemented, and for no others: a blocking
body passes on a request message, which is no parameter if requests are streamed.
-/

namespace ServiceBindings.Java

/-! ## Shapes -/

/-- What the bodies of a wiring use, in order. -/
def Wiring.uses (routed : Bool) (wiring : Wiring) : List Argument :=
  if routed then
    match wiring with
    | .blocking => [.input, .properties, .input]
    | .callback => [.input, .properties, .observer, .input]
    | .stream => [.properties, .observer]
  else wiring.arguments.filter (· ≠ .properties)

section Shapes

variable (shape : CallShape)

/-- What a body uses depends on no names. -/
theorem flatMap_uses_body (space service : String) (method : Schema.Method) (routed : Bool) :
    (body shape space service method routed).flatMap Statement.uses =
      (Wiring.ofShape shape).uses routed := by
  cases routed with
  | true =>
      rw [body, if_pos rfl, routedBody]
      cases Wiring.ofShape shape <;> rfl
  | false =>
      rw [body, if_neg Bool.false_ne_true, forwardingBody]
      cases Wiring.ofShape shape <;> rfl

/-- A routed variant takes what it is called with if it is implemented. -/
theorem arguments_ofShape_eq_iff :
    (Wiring.ofShape shape).arguments = arguments shape true ↔ shape.isImplemented = true := by
  obtain ⟨mode, clientStreaming, serverStreaming⟩ := shape
  cases mode <;> cases clientStreaming <;> cases serverStreaming <;> decide

/-- Bodies use nothing but the parameters of their variants if and only if a default
implementation has a place for them. -/
theorem uses_subset_arguments_iff :
    (∀ routed, (Wiring.ofShape shape).uses routed ⊆ arguments shape routed) ↔
      shape.isImplemented = true := by
  obtain ⟨mode, clientStreaming, serverStreaming⟩ := shape
  cases mode <;> cases clientStreaming <;> cases serverStreaming <;> decide

theorem ne_void_of_mem {text : String} {c : Char} (member : c ∈ text.toList)
    (notInVoid : c ∉ "void".toList) : text ≠ "void" := by
  intro same
  exact notInVoid (same ▸ member)

theorem iteratorType_ne_void (message : String) : iteratorType message ≠ "void" := by
  unfold iteratorType
  exact @ne_void_of_mem _ '<' (by simp) (by decide)

theorem observerType_ne_void (message : String) : observerType message ≠ "void" := by
  unfold observerType
  exact @ne_void_of_mem _ '<' (by simp) (by decide)

theorem returnsValue_ofShape_iff {input output : String} (notVoid : output ≠ "void") :
    (Wiring.ofShape shape).returnsValue = true ↔ returnType shape input output ≠ "void" := by
  obtain ⟨mode, clientStreaming, serverStreaming⟩ := shape
  cases mode with
  | sync =>
      refine iff_of_true rfl ?_
      cases serverStreaming with
      | false => exact notVoid
      | true => exact iteratorType_ne_void output
  | async =>
      cases clientStreaming with
      | false => exact iff_of_false Bool.false_ne_true (not_not.mpr rfl)
      | true => exact iff_of_true rfl (observerType_ne_void input)

end Shapes

theorem text_resolve_ne_void (table : NamespaceTable) {type : Schema.TypeName}
    (notVoid : type.simpleName ≠ "void") : (table.resolve type).text ≠ "void" := by
  rw [NamespaceTable.resolve, ClassName.text]
  simp only [Identifier.qualify]
  split
  · exact notVoid
  · exact @ne_void_of_mem _ '.' (by simp) (by decide)

/-! ## Variants -/

/-- One variant of a method of a default implementation. -/
structure Variant where
  declaration : Signature
  body : List Statement

namespace Variant

/-- What a variant takes. -/
def arguments (variant : Variant) : List Argument :=
  variant.declaration.parameters.map (·.argument)

/-- The lines of a variant in a source file. -/
def lines (variant : Variant) : List String :=
  WrittenMethod.lines ⟨variant.declaration.text, variant.body.map Statement.text⟩

/-- Whether the body of a variant fits its declaration: it uses no parameters but its own, and
its last statement returns a value if and only if the declared type is not void.  If the method
has the name of a Java identifier, so much can be read from the text of the body. -/
structure Fits (variant : Variant) : Prop where
  uses : variant.body.flatMap Statement.uses ⊆ variant.arguments
  returns : ∃ front last, variant.body = front ++ [last] ∧
    (last.returnsValue = true ↔ variant.declaration.returnType ≠ "void")
  usesAsText : IsIdentifier variant.declaration.methodName →
    (variant.body.map Statement.text).flatMap usedArguments ⊆ variant.arguments
  returnsAsText : IsIdentifier variant.declaration.methodName →
    ∃ front last, variant.body.map Statement.text = front ++ [last] ∧
      ((returned? last).isSome = true ↔ variant.declaration.returnType ≠ "void")

/-- What is passed for a parameter by a variant that is called without properties. -/
def passed (parameter : Parameter) : String :=
  if parameter.argument = .properties then "java.util.Collections.emptyMap()"
  else parameter.argument.name

/-- Whether a variant is a single call of another one of its own name, which is passed the
parameters in their order, and no properties. -/
def Forwards (variant target : Variant) : Prop :=
  target.declaration.methodName = variant.declaration.methodName ∧
    ∃ keyword ∈ ["", "return "], variant.body.map Statement.text =
      [keyword ++ target.declaration.methodName ++ "(" ++
        String.intercalate ", " (target.declaration.parameters.map passed) ++ ");"]

/-- The type of the stub that a variant acquires in the first line of its body. -/
def acquiredStub? (variant : Variant) : Option String :=
  (variant.body.head?.map Statement.text).bind stubType?

end Variant

section Methods

variable (table : NamespaceTable) (space service : String) (mode : CallMode)
  {method : Schema.Method}

/-- One variant of a method in a mode. -/
def variant (method : Schema.Method) (routed : Bool) : Variant where
  declaration := declaration table (CallShape.ofMethod method mode) method routed
  body := body (CallShape.ofMethod method mode) space service method routed

@[simp] theorem arguments_variant (routed : Bool) :
    (variant table space service mode method routed).arguments =
      arguments (CallShape.ofMethod method mode) routed := by
  simp [Variant.arguments, variant, declaration, Function.comp_def]

theorem method?_of_mem_body {shape : CallShape} {routed : Bool} {statement : Statement}
    (member : statement ∈ body shape space service method routed) {name : String}
    (isMethod : statement.method? = some name) : name = Identifier.lowerFirst method.name := by
  cases routed with
  | true =>
      rw [body, if_pos rfl, routedBody, List.mem_cons, List.mem_singleton] at member
      cases member with
      | inl isFirst =>
          rw [isFirst] at isMethod
          cases isMethod
      | inr isLast =>
          rw [isLast] at isMethod
          exact (Option.some.inj isMethod).symm
  | false =>
      rw [body, if_neg Bool.false_ne_true, forwardingBody, List.mem_singleton] at member
      rw [member] at isMethod
      exact (Option.some.inj isMethod).symm

/-- The last statement of a body calls the method, and returns what its wiring returns. -/
theorem exists_body_eq_concat (shape : CallShape) (routed : Bool) :
    ∃ front last, body shape space service method routed = front ++ [last] ∧
      last.method?.isSome = true ∧ last.returnsValue = (Wiring.ofShape shape).returnsValue := by
  cases routed with
  | true => exact ⟨[_], _, rfl, rfl, rfl⟩
  | false => exact ⟨[], _, rfl, rfl, rfl⟩

variable (isImplemented : (CallShape.ofMethod method mode).isImplemented = true)

include isImplemented

theorem fits_variant (notVoid : method.outputType.simpleName ≠ "void") (routed : Bool) :
    (variant table space service mode method routed).Fits := by
  have uses := (uses_subset_arguments_iff _).mpr isImplemented routed
  rw [← flatMap_uses_body _ space service method, ← arguments_variant table space service] at uses
  have returns := @returnsValue_ofShape_iff (CallShape.ofMethod method mode)
    (table.resolve method.inputType).text _ (text_resolve_ne_void table notVoid)
  obtain ⟨front, last, isBody, isCall, sameValue⟩ :=
    @exists_body_eq_concat space service method (CallShape.ofMethod method mode) routed
  rw [← sameValue] at returns
  have named : IsIdentifier (Identifier.lowerFirst method.name) →
      ∀ statement ∈ body (CallShape.ofMethod method mode) space service method routed,
        ∀ name ∈ statement.method?, IsIdentifier name := by
    intro isIdentifier statement member name isMethod
    rw [method?_of_mem_body space service member isMethod]
    exact isIdentifier
  constructor
  · exact uses
  · exact ⟨front, last, isBody, returns⟩
  · intro isIdentifier
    have asText := List.flatMap_congr fun statement member =>
      Statement.usedArguments_text (named isIdentifier statement member)
    rw [List.flatMap_map]
    exact asText ▸ uses
  · intro isIdentifier
    have lastMember : last ∈ body (CallShape.ofMethod method mode) space service method routed := by
      simp [isBody]
    refine ⟨front.map Statement.text, last.text, ?_, ?_⟩
    · simp [variant, isBody]
    · rw [Statement.isSome_returned?_text (named isIdentifier last lastMember) isCall]
      exact returns

theorem forwards_variant : (variant table space service mode method false).Forwards
    (variant table space service mode method true) := by
  have taken := (arguments_ofShape_eq_iff _).mpr isImplemented
  have operands : ∀ argument : Argument,
      (if argument = .properties then Operand.noProperties else .argument argument).text =
        if argument = .properties then "java.util.Collections.emptyMap()" else argument.name := by
    intro argument
    cases argument <;> rfl
  refine ⟨rfl, if (Wiring.ofShape (CallShape.ofMethod method mode)).returnsValue then "return "
    else "", ?_, ?_⟩
  · cases (Wiring.ofShape (CallShape.ofMethod method mode)).returnsValue <;> decide
  · simp only [variant, body, Bool.false_eq_true, if_false, forwardingBody, List.map_cons,
      List.map_nil, Statement.text_forward, declaration, List.map_map, taken, Function.comp_def,
      Variant.passed, operands]

omit isImplemented in
theorem acquiredStub?_variant :
    (variant table space service mode method true).acquiredStub? =
      some (stubClass space service mode) := by
  obtain ⟨operand, isFirst⟩ : ∃ operand, (variant table space service mode method true).body.head? =
      some (.acquireStub (stubClass space service mode) operand) := ⟨_, rfl⟩
  rw [Variant.acquiredStub?, isFirst, Option.map_some, Option.bind_some,
    Statement.stubType?_text_acquireStub]

end Methods

/-! ## Default implementations -/

/-- The type of stubs that the class line of a default implementation hands to its base class. -/
def baseArgument? (space service : String) (mode : CallMode) (line : String) : Option String :=
  enclosed? ("public class " ++ implementationName service mode ++ " extends " ++ runtimePackage ++
      ".AbstractGrpcService<")
    ("> implements " ++ Identifier.qualify space (contractName service mode) ++ " \x7b") line

/-- The type of what is made by the method that makes stubs. -/
def createdType? (line : String) : Option String :=
  enclosed? "    protected "
    " createStub(io.grpc.Channel channel, io.grpc.CallOptions callOptions) \x7b" line

/-- The variants in a default implementation in order. -/
def variants (table : NamespaceTable) (space : String) (service : Schema.Service)
    (mode : CallMode) : List Variant :=
  (implementedMethods mode service.methods).flatMap fun method =>
    [false, true].map (variant table space service.name mode method)

theorem implementationLines_eq (table : NamespaceTable) (space : String)
    (service : Schema.Service) (mode : CallMode) :
    implementationLines table space service mode =
      packageLines space ++ (classLines space service.name mode ++
        ((variants table space service mode).flatMap Variant.lines ++
          stubLines space service.name mode)) := by
  simp [implementationLines, variants, writtenMethods, List.flatMap_assoc, Variant.lines, variant,
    writtenMethod]

/-- Every default implementation can be generated, and its bodies fit its declarations.

* Both variants of each method use their own parameters only, and return a value if and only if
  the declared type is not void.
* The variant without properties does nothing but call the other one.
* The stub that the other one acquires has the type that the base class is given and that stubs
  are made of. -/
theorem implementation_bodies_fit (table : NamespaceTable) (space : String)
    (service : Schema.Service) (mode : CallMode) (root : Option String)
    (noVoid : ∀ method ∈ service.methods, method.outputType.simpleName ≠ "void") :
    ∃ library file stub, Template.Library.standard = .ok library ∧
      implementation library root table space service mode = .ok file ∧
      file.content = Text.ofLines (packageLines space ++ (classLines space service.name mode ++
        ((variants table space service mode).flatMap Variant.lines ++
          stubLines space service.name mode))) ∧
      (classLines space service.name mode)[0]?.bind (baseArgument? space service.name mode) =
        some stub ∧
      (stubLines space service.name mode)[2]?.bind createdType? = some stub ∧
      ∀ method ∈ implementedMethods mode service.methods,
        let unrouted := variant table space service.name mode method false
        let routed := variant table space service.name mode method true
        unrouted.Fits ∧ routed.Fits ∧ unrouted.Forwards routed ∧
          routed.acquiredStub? = some stub := by
  refine ⟨Template.standardLibrary, _, stubClass space service.name mode, Template.standard_eq,
    implementation_standard table space service mode root, ?_, ?_, ?_, ?_⟩
  · rw [content_implementationFile, implementationLines_eq]
  · rw [classLines, List.getElem?_cons_zero, Option.bind_some, baseArgument?,
      enclosed?_eq_some_iff]
    simp only [String.append_assoc]
  · rw [stubLines, List.getElem?_cons_succ, List.getElem?_cons_succ, List.getElem?_cons_zero,
      Option.bind_some, createdType?, enclosed?_eq_some_iff]
  · intro method member
    obtain ⟨methodMember, isImplemented⟩ := List.mem_filter.mp member
    have notVoid := noVoid method methodMember
    exact ⟨fits_variant table space service.name mode isImplemented notVoid false,
      fits_variant table space service.name mode isImplemented notVoid true,
      forwards_variant table space service.name mode isImplemented,
      acquiredStub?_variant table space service.name mode⟩

/-- One of the methods has the name of a parameter, and there are requests that are streamed. -/
theorem implementation_bodies_fit_input :
    let input : Schema.Method := ⟨"Input", ⟨"chat.Key"⟩, ⟨"chat.Text"⟩, false, true⟩
    let talk : Schema.Method := ⟨"Talk", ⟨"chat.Text"⟩, ⟨"chat.Text"⟩, true, true⟩
    let table := NamespaceTable.ofDeclarations [⟨"chat.Text", "com.chat"⟩]
    let service : Schema.Service := ⟨"Chat", [input, talk]⟩
    IsIdentifier (Identifier.lowerFirst input.name) ∧
      (∀ method ∈ service.methods, method.outputType.simpleName ≠ "void") ∧
      ∃ library file stub, Template.Library.standard = .ok library ∧
        implementation library none table "com.chat" service .async = .ok file ∧
        file.content = Text.ofLines (packageLines "com.chat" ++
          (classLines "com.chat" "Chat" .async ++
            ((variants table "com.chat" service .async).flatMap Variant.lines ++
              stubLines "com.chat" "Chat" .async))) ∧
        (classLines "com.chat" "Chat" .async)[0]?.bind (baseArgument? "com.chat" "Chat" .async) =
          some stub ∧
        (stubLines "com.chat" "Chat" .async)[2]?.bind createdType? = some stub ∧
        ∀ method ∈ implementedMethods .async service.methods,
          let unrouted := variant table "com.chat" "Chat" .async method false
          let routed := variant table "com.chat" "Chat" .async method true
          unrouted.Fits ∧ routed.Fits ∧ unrouted.Forwards routed ∧
            routed.acquiredStub? = some stub := by
  intro input talk table service
  have isIdentifier : IsIdentifier (Identifier.lowerFirst "Input") := by decide
  have notVoid : (⟨"chat.Text"⟩ : Schema.TypeName).simpleName ≠ "void" := by decide
  have noVoid : ∀ method ∈ service.methods, method.outputType.simpleName ≠ "void" :=
    List.forall_mem_cons.mpr ⟨notVoid, List.forall_mem_singleton.mpr notVoid⟩
  exact ⟨isIdentifier, noVoid,
    implementation_bodies_fit table "com.chat" service .async none noVoid⟩

end ServiceBindings.Java
