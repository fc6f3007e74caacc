import ServiceBindings.Template.Rendering
import ServiceBindings.Proofs.Template.Standard
import ServiceBindings.Proofs.Traversal

/-!
# Rendering of fields and loops

What the elements of the standard templates become: a field that holds a text becomes that
text, the element of the package depends on whether there is a namespace, and a loop becomes
the texts of its items one after the other.
-/

namespace ServiceBindings.Template

open Json (Value)

/-- A scope that has no names besides the fields of its value. -/
def plainScope (value : Value) (loopVariables : List (String × Value)) : Scope :=
  ⟨value, loopVariables, []⟩

/-- Whether no scope has names besides the fields of its value. -/
def ArePlain (scopes : List Scope) : Prop := ∀ scope ∈ scopes, scope.names = []

@[simp] theorem arePlain_nil : ArePlain [] := by simp [ArePlain]

@[simp] theorem arePlain_plainScope_cons (value : Value) (loopVariables : List (String × Value))
    (outer : List Scope) : ArePlain (plainScope value loopVariables :: outer) ↔ ArePlain outer := by
  simp [ArePlain, plainScope]

theorem named?_eq_none {scopes : List Scope} (plain : ArePlain scopes) (name : String) :
    named? name scopes = none := by
  rw [named?, List.findSome?_eq_none_iff]
  intro scope member
  rw [plain scope member]
  rfl

section Scopes

variable {outer : List Scope} (plain : ArePlain outer) {fields : List (String × Value)}
  {loopVariables : List (String × Value)}

include plain

theorem argument_field {name : String} {value : Value}
    (found : Dictionary.findIn? name fields = some value) :
    (field name).argument (plainScope (.object fields) loopVariables) outer =
      .ok ⟨some value, some name⟩ := by
  have notNamed : named? name (plainScope (.object fields) loopVariables :: outer) = none :=
    named?_eq_none (by simpa using plain) name
  simp only [field, Parameter.argument, Reference.find, List.head?_cons, Option.bind_some,
    notNamed]
  simp [valueAt, plainScope, follow, found, Except.map, Reference.written]

theorem renderElement_field {name text : String} (position : Position)
    (found : Dictionary.findIn? name fields = some (.text text)) :
    renderElement (plainScope (.object fields) loopVariables) outer
      (.value (field name) position) = .ok text := by
  rw [renderElement, argument_field plain found]
  rfl

omit plain in
theorem renderElement_itself (text : String) (position : Position) :
    renderElement (plainScope (.text text) loopVariables) outer
      (.value itself position) = .ok text := by
  rw [renderElement, itself, Parameter.argument]
  rfl

omit plain in
theorem renderElements_cons {current : Scope} {element : Element} {rest : List Element}
    {text later : String} (rendered : renderElement current outer element = .ok text)
    (restRendered : renderElements current outer rest = .ok later) :
    renderElements current outer (element :: rest) = .ok (text ++ later) := by
  rw [renderElements, rendered, restRendered]
  rfl

theorem renderElement_package {space : String}
    (found : Dictionary.findIn? "namespace" fields = some (.text space)) :
    renderElement (plainScope (.object fields) loopVariables) outer packageElement =
      .ok (if space.isEmpty then "" else "package " ++ space ++ ";\n\n") := by
  have body : renderElements (plainScope (.object fields) loopVariables) outer
      [.text "package ", .value (field "namespace") ⟨2, 9⟩, .text ";\n\n"] =
        .ok ("package " ++ (space ++ (";\n\n" ++ ""))) :=
    renderElements_cons rfl (renderElements_cons (renderElement_field plain _ found)
      (renderElements_cons rfl rfl))
  have called : Call.outcome (plainScope (.object fields) loopVariables) outer true
      ⟨.choice true, [field "namespace"], []⟩ =
        .ok (if space.isEmpty then .otherwise else .body) := by
    rw [Call.outcome, parameterArguments, argument_field plain found]
    cases isEmpty : space.isEmpty with
    | true =>
        simp [parameterArguments, optionArguments, Helper.outcome, Helper.argument,
          Helper.choiceOutcome, Dictionary.findIn?, Argument.value, holds, isEmpty,
          bind, Except.bind, pure, Except.pure]
    | false =>
        simp [parameterArguments, optionArguments, Helper.outcome, Helper.argument,
          Helper.choiceOutcome, Dictionary.findIn?, Argument.value, holds, isEmpty,
          bind, Except.bind, pure, Except.pure]
  rw [packageElement, renderElement, called]
  cases isEmpty : space.isEmpty with
  | true => rfl
  | false =>
      simp only [Bool.false_eq_true, if_false, atPosition]
      refine Eq.trans body ?_
      simp [String.append_assoc]

end Scopes

/-! ## Loops -/

theorem loopOutcome_array {α : Type} (items : List α) (nonempty : items ≠ [])
    (dataOf : α → Value) (written? : Option String) :
    ∃ bindings : Nat → List (String × Value),
      Helper.loopOutcome ⟨some (.array (items.map dataOf)), written?⟩ =
        .bodyFor (items.zipIdx.map fun entry =>
          plainScope (dataOf entry.1) (bindings entry.2)) := by
  refine ⟨fun index => [("index", .ofNat index), ("first", .bool (index == 0)),
    ("last", .bool (index + 1 == items.length))], ?_⟩
  rcases List.exists_cons_of_ne_nil nonempty with ⟨first, rest, rfl⟩
  simp [Helper.loopOutcome, itemScopes?, itemScope, plainScope, List.zipIdx_map,
    Function.comp_def]

theorem outcome_loopOver {outer : List Scope} (plain : ArePlain outer)
    {fields loopVariables : List (String × Value)} {name : String} {value : Value}
    (found : Dictionary.findIn? name fields = some value) :
    Call.outcome (plainScope (.object fields) loopVariables) outer true (loopOver name) =
      .ok (Helper.loopOutcome ⟨some value, some name⟩) := by
  rw [loopOver, Call.outcome, parameterArguments, argument_field plain found]
  rfl

/-- A loop becomes the texts of its items, if each of them can be rendered. -/
theorem renderElement_loop {α : Type} {outer : List Scope} (plain : ArePlain outer)
    {fields loopVariables : List (String × Value)} {name : String} {position : Position}
    {body : List Element} {items : List α} {dataOf : α → Value} {textOf : α → String}
    (found : Dictionary.findIn? name fields = some (.array (items.map dataOf)))
    (rendered : ∀ item ∈ items, ∀ bindings,
      renderElements (plainScope (dataOf item) bindings)
        (plainScope (.object fields) loopVariables :: outer) body = .ok (textOf item)) :
    renderElement (plainScope (.object fields) loopVariables) outer
        (.block (loopOver name) [] position body none) =
      .ok (String.join (items.map textOf)) := by
  rw [renderElement, outcome_loopOver plain found]
  by_cases isEmpty : items = []
  · subst isEmpty
    rfl
  · rcases loopOutcome_array items isEmpty dataOf (some name) with ⟨bindings, outcome⟩
    have texts : (items.zipIdx.map fun entry =>
        plainScope (dataOf entry.1) (bindings entry.2)).mapM (fun item =>
          renderElements (item.namingItem [])
            (plainScope (.object fields) loopVariables :: outer) body) =
        .ok (items.map textOf) := by
      rw [List.mapM_map, mapM_eq_ok fun entry => textOf entry.1]
      · have projected : (items.zipIdx.map Prod.fst).map textOf = items.map textOf := by
          rw [List.zipIdx_map_fst]
        rw [← projected, List.map_map]
        rfl
      · intro entry member
        exact rendered entry.1 (List.fst_mem_of_mem_zipIdx member) _
    rw [outcome]
    simp only [atPosition, bind, Except.bind]
    rw [texts]
    rfl

end ServiceBindings.Template
