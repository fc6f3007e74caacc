import ServiceBindings.Template.Evaluation

/-!
# Filling templates

A template is filled from a JSON value.  Filling is strict: a value tag that refers to
nothing, or a loop over something that has no items and no other body, makes the whole
rendering fail.
-/

namespace ServiceBindings.Template

/-- Why a rendering failed, and at which tag. -/
structure Failure where
  position : Position
  cause : Cause
deriving DecidableEq, Repr

/-- Attributes a cause to a tag. -/
def atPosition {α : Type} (position : Position) : Except Cause α → Except Failure α
  | .ok value => .ok value
  | .error cause => .error ⟨position, cause⟩

mutual

/-- The text of an element in a scope inside others. -/
def renderElement (current : Scope) (outer : List Scope) : Element → Except Failure String
  | .text text => .ok text
  | .value source position => do
    let argument ← atPosition position (source.argument current outer)
    match argument.value? with
    | some value => pure (valueText value)
    | none => .error ⟨position, .missing argument.written?⟩
  | .block call names position body otherwise => do
    let outcome ← atPosition position (call.outcome current outer true)
    match outcome with
    | .value value => pure (valueText value)
    | .truth true | .body => renderElements current outer body
    | .bodyFor items =>
      let texts ← items.mapM fun item =>
        renderElements (item.namingItem names) (current :: outer) body
      pure (String.join texts)
    | .bodyWithin value => renderElements (current.within value names) (current :: outer) body
    | .truth false | .otherwise => renderOther current outer (.ok "") otherwise
    | .otherwiseOrMissing written? =>
      renderOther current outer (.error ⟨position, .missing written?⟩) otherwise
termination_by structural element => element

/-- The text of the other body of a block in a scope inside others, or what stands for it if
there is none. -/
def renderOther (current : Scope) (outer : List Scope) (absent : Except Failure String) :
    Option (List Element) → Except Failure String
  | none => absent
  | some elements => renderElements current outer elements
termination_by structural otherwise => otherwise

/-- The text of elements in a scope inside others. -/
def renderElements (current : Scope) (outer : List Scope) :
    List Element → Except Failure String
  | [] => .ok ""
  | element :: rest => do
    let text ← renderElement current outer element
    let later ← renderElements current outer rest
    pure (text ++ later)
termination_by structural elements => elements

end

end ServiceBindings.Template

namespace ServiceBindings

/-- The text of a template filled from a value. -/
def Template.render (template : Template) (data : Json.Value) :
    Except Template.Failure String :=
  Template.renderElements ⟨data, [], []⟩ [] template

end ServiceBindings
