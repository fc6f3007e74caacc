import ServiceBindings.Template.Basic
import ServiceBindings.Template.Value
import ServiceBindings.Text.Quoted

/-!
# Evaluation in templates

What references mean where a tag stands, and what helpers make of their arguments.  A tag
stands in a scope inside others; the outermost one is that of the data that fill the template,
and the blocks around the tag may open further ones.
-/

namespace ServiceBindings.Template

open Json

/-! ## Scopes -/

/-- What can be referred to: a value, the variables of the loop of which it is an item, and
what the block that opens the scope gives names. -/
structure Scope where
  value : Value
  loopVariables : List (String × Value)
  names : List (String × Value)

/-- The scope of the item at an index of a loop. -/
def itemScope (count index : Nat) (key : List (String × Value)) (item : Value) : Scope :=
  ⟨item, key ++ [("index", .ofNat index), ("first", .bool (index == 0)),
    ("last", .bool (index + 1 == count))], []⟩

/-- The scopes of the items of a value.  Items are those of an array or the field values of
an object, which have keys besides; other values have none. -/
def itemScopes? : Value → Option (List Scope)
  | .array items =>
    some (items.zipIdx.map fun (item, index) => itemScope items.length index [] item)
  | .object fields =>
    some (fields.zipIdx.map fun ((key, item), index) =>
      itemScope fields.length index [("key", .text key)] item)
  | _ => none

namespace Scope

/-- The key of the item of a loop, or else its index. -/
def itemKey (scope : Scope) : Value :=
  ((Dictionary.findIn? "key" scope.loopVariables).or
    (Dictionary.findIn? "index" scope.loopVariables)).getD .null

/-- The scope of an item in which the item has the first of some names, and its key or index
has the second one. -/
def namingItem (scope : Scope) : List String → Scope
  | [item] => { scope with names := [(item, scope.value)] }
  | [item, key] => { scope with names := [(key, scope.itemKey), (item, scope.value)] }
  | _ => scope

/-- The scope of another value in the same loop, with a name for it if that is the only one. -/
def within (scope : Scope) (value : Value) : List String → Scope
  | [name] => ⟨value, scope.loopVariables, [(name, value)]⟩
  | _ => ⟨value, scope.loopVariables, []⟩

end Scope

/-! ## Causes of failure -/

/-- Why a tag cannot be filled. -/
inductive Cause where
  /-- Nothing is there, where a reference is written or without one. -/
  | missing (written? : Option String)
  /-- A name is looked up in an array. -/
  | nameInArray (name : String)
  /-- A helper is called without one of its parameters, or with nothing in its place. -/
  | missingParameter (helper : Helper) (index : Nat)
  /-- A helper whose parameters have names is called without one of them, or with nothing in
  its place. -/
  | missingNamedParameter (helper : Helper) (name : String)
  /-- No helper has the name. -/
  | unknownHelper (name : String)
  /-- Nothing is logged at the level. -/
  | unknownLevel (level : String)
deriving DecidableEq, Repr

/-- The text of a cause. -/
def Cause.message : Cause → String
  | missing none => "Failed to access variable in strict mode None"
  | missing (some written) =>
    "Failed to access variable in strict mode Some(" ++ Text.quoted written ++ ")"
  | nameInArray name => "Cannot access array/vector with string index, " ++ name
  | missingParameter helper index =>
    "Helper/Decorator " ++ helper.reportedName ++ " param at index " ++ toString index ++
      " required but not found"
  | missingNamedParameter helper name =>
    "Helper/Decorator " ++ helper.reportedName ++ " param with name " ++ name ++
      " required but not found"
  | unknownHelper name => "Helper not found " ++ name
  | unknownLevel level => "Invalid logging level: " ++ level

/-! ## References -/

/-- The index that a name is, if it is a number of 64 bits. -/
def indexOf? (name : String) : Option Nat :=
  let digits :=
    match name.toList with
    | '+' :: digits => digits
    | digits => digits
  if !digits.isEmpty && digits.all Char.isDigit then
    let index := Numeral.digitsNumber digits
    if index < 0x10000000000000000 then some index else none
  else none

/-- The value at the end of a path of names, if there is one. -/
def follow : List String → Value → Except Cause (Option Value)
  | [], value => .ok (some value)
  | name :: rest, .array items =>
    match indexOf? name with
    | none => .error (.nameInArray name)
    | some index =>
      match items[index]? with
      | none => .ok none
      | some item => follow rest item
  | name :: rest, .object fields =>
    match Dictionary.findIn? name fields with
    | none => .ok none
    | some value => follow rest value
  | _ :: _, _ => .ok none

/-- What the innermost of some scopes that knows a name gives that name to. -/
def named? (name : String) (scopes : List Scope) : Option Value :=
  scopes.findSome? fun scope => Dictionary.findIn? name scope.names

/-- The value that lies so many scopes further out.  A path that leads further out than the
outermost scope starts at the innermost one. -/
def valueAt (current : Scope) (outer : List Scope) (up : Nat) : Value :=
  (((current :: outer)[up]?).getD current).value

/-- The value of a reference in a scope inside others.  A name that a block has given goes
before every field of that name. -/
def Reference.find (current : Scope) (outer : List Scope) :
    Reference → Except Cause (Option Value)
  | path .data names _ => follow names (outer.getLast?.getD current).value
  | path (.scope up) names _ =>
    match names.head?.bind (named? · (current :: outer)) with
    | some value => follow names.tail value
    | none => follow names (valueAt current outer up)
  | loopVariable up name _ =>
    .ok ((current :: outer)[up]?.bind fun scope => Dictionary.findIn? name scope.loopVariables)

/-! ## Helpers -/

/-- A parameter where it is evaluated: its value, if there is one, and how it is written, if
it is a reference. -/
structure Argument where
  value? : Option Value
  written? : Option String

namespace Argument

/-- The value of an argument, which is null where there is none. -/
def value (argument : Argument) : Value := argument.value?.getD .null

/-- Whether the value of an argument holds. -/
def holds (argument : Argument) : Bool := Template.holds argument.value

end Argument

/-- What a helper makes of its arguments. -/
inductive Outcome where
  /-- A value stands in the place of the tag. -/
  | value (value : Value)
  /-- A truth value chooses the body or the other body of a block, and otherwise stands in the
  place of the tag. -/
  | truth (value : Bool)
  /-- The body is rendered in the scope of the tag. -/
  | body
  /-- The body is rendered in the scopes of items, one after the other. -/
  | bodyFor (items : List Scope)
  /-- The body is rendered in the scope of a value. -/
  | bodyWithin (value : Value)
  /-- The other body is rendered in the scope of the tag.  Without one there is nothing to
  render. -/
  | otherwise
  /-- The other body is rendered in the scope of the tag.  Without one the reference with the
  given text is missing. -/
  | otherwiseOrMissing (written? : Option String)

/-- The value of an outcome where there are no bodies. -/
def Outcome.plainValue : Outcome → Except Cause Value
  | value result => .ok result
  | truth result => .ok (.bool result)
  | otherwiseOrMissing written? => .error (.missing written?)
  | _ => .ok (.text "")

namespace Helper

/-- The argument at an index. -/
def argument (helper : Helper) (arguments : List Argument) (index : Nat) :
    Except Cause Argument :=
  match arguments[index]? with
  | some argument => .ok argument
  | none => .error (.missingParameter helper index)

/-- The value of the argument at an index, which has to be there. -/
def presentValue (helper : Helper) (arguments : List Argument) (index : Nat) :
    Except Cause Value :=
  match arguments[index]? with
  | some ⟨some value, _⟩ => .ok value
  | _ => .error (.missingParameter helper index)

/-- What a choice makes of the value that it tests. -/
def choiceOutcome (wanted : Bool) (options : List (String × Argument)) (test : Value) :
    Outcome :=
  let includesZero :=
    match (Dictionary.findIn? "includeZero" options).map Argument.value with
    | some (.bool value) => value
    | _ => false
  let result := if includesZero then holdsOrIsNumber test else holds test
  if result = wanted then .body else .otherwise

/-- What a loop makes of its items.  Only a loop over no items can do without other body. -/
def loopOutcome (items : Argument) : Outcome :=
  match items.value?.bind itemScopes? with
  | some [] => .otherwise
  | some scopes => .bodyFor scopes
  | none => .otherwiseOrMissing items.written?

/-- What a change of scope makes of the value of the new scope. -/
def scopeOutcome (argument : Argument) : Outcome :=
  if argument.holds then .bodyWithin argument.value
  else .otherwiseOrMissing argument.written?

/-- The levels at which something can be logged. -/
def levels : List String := ["error", "warn", "info", "debug", "trace"]

/-- What a log makes of its options. -/
def logOutcome (options : List (String × Argument)) : Except Cause Outcome :=
  match (Dictionary.findIn? "level" options).map Argument.value with
  | some (.text level) =>
    if levels.contains (level.map Char.toLower) then .ok (.value (.text ""))
    else .error (.unknownLevel level)
  | _ => .ok (.value (.text ""))

/-- The item or field that one value names of another. -/
def lookupValue? : Value → Value → Option Value
  | .array items, .number (.integer index) => if 0 ≤ index then items[index.toNat]? else none
  | .object fields, .text name => Dictionary.findIn? name fields
  | _, _ => none

/-- What a helper makes of its arguments.  Outside of a block there is no body that a loop
could repeat. -/
def outcome (helper : Helper) (isBlock : Bool) (arguments : List Argument)
    (options : List (String × Argument)) : Except Cause Outcome :=
  match helper with
  | choice wanted => do
    let test ← helper.argument arguments 0
    pure (choiceOutcome wanted options test.value)
  | loop => do
    let items ← helper.argument arguments 0
    pure (if isBlock then loopOutcome items else .value (.text ""))
  | scope => (helper.argument arguments 0).map scopeOutcome
  | body => .ok .body
  | log => logOutcome options
  | lookup => do
    let container ← helper.argument arguments 0
    let name ← helper.argument arguments 1
    match lookupValue? container.value name.value with
    | some value => pure (.value value)
    | none => .error (.missing none)
  | comparison kind => do
    let left ← helper.presentValue arguments 0
    let right ← helper.presentValue arguments 1
    pure (.truth (kind.accepts left right))
  | all => .ok (.truth (arguments.all Argument.holds))
  | any => .ok (.truth (arguments.any Argument.holds))
  | negation => (helper.presentValue arguments 0).map fun value => .truth !holds value
  | length =>
    match arguments with
    | ⟨some value, _⟩ :: _ => .ok (.value (.ofNat (valueLength value)))
    | _ => .error (.missingNamedParameter helper "x")
  | unknown name => .error (.unknownHelper name)

end Helper

/-! ## Calls -/

mutual

/-- The argument that a parameter is in a scope inside others. -/
def Parameter.argument (current : Scope) (outer : List Scope) :
    Parameter → Except Cause Argument
  | .literal value => .ok ⟨some value, none⟩
  | .reference source =>
    (source.find current outer).map fun value? => ⟨value?, some source.written⟩
  | .call call => do
    let outcome ← call.outcome current outer false
    let value ← outcome.plainValue
    pure ⟨some value, none⟩
termination_by structural parameter => parameter

/-- What the helper of a call makes of its parameters in a scope inside others. -/
def Call.outcome (current : Scope) (outer : List Scope) (isBlock : Bool) :
    Call → Except Cause Outcome
  | ⟨helper, parameters, options⟩ => do
    let arguments ← parameterArguments current outer parameters
    let named ← optionArguments current outer options
    helper.outcome isBlock arguments named
termination_by structural call => call

/-- The arguments that parameters are. -/
def parameterArguments (current : Scope) (outer : List Scope) :
    List Parameter → Except Cause (List Argument)
  | [] => .ok []
  | parameter :: rest => do
    let argument ← parameter.argument current outer
    let later ← parameterArguments current outer rest
    pure (argument :: later)
termination_by structural parameters => parameters

/-- The arguments that options are, with their names. -/
def optionArguments (current : Scope) (outer : List Scope) :
    List (String × Parameter) → Except Cause (List (String × Argument))
  | [] => .ok []
  | (name, parameter) :: rest => do
    let argument ← parameter.argument current outer
    let later ← optionArguments current outer rest
    pure ((name, argument) :: later)
termination_by structural options => options

end

end ServiceBindings.Template
