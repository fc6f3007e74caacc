import ServiceBindings.Json.Value
import ServiceBindings.Template.Helper

/-!
# Templates

A template is text with tags in double braces.  A value tag stands for a value: a literal, one
of the data that fill the template, or one that a helper makes of its parameters.  A block is
a call whose helper decides how the bodies of the block are rendered.  Tags remember where
they stand, because a template that cannot be filled is reported by the position of a tag.
-/

namespace ServiceBindings.Template

/-- A line and a column, both counted from one. -/
structure Position where
  line : Nat
  column : Nat
deriving DecidableEq, Repr

/-- Where a path of names starts. -/
inductive Origin where
  /-- At the value of the scope that lies so many scopes further out. -/
  | scope (up : Nat)
  /-- At the data that fills the template. -/
  | data
deriving DecidableEq, Repr

/-- What a tag refers to. -/
inductive Reference where
  /-- The value at the end of a path of names. -/
  | path (origin : Origin) (names : List String) (written : String)
  /-- A variable of the loop that lies so many scopes further out, such as the index of its
  item. -/
  | loopVariable (up : Nat) (name : String) (written : String)
deriving DecidableEq, Repr

/-- The reference as it is written in a template. -/
def Reference.written : Reference → String
  | path _ _ written | loopVariable _ _ written => written

mutual

/-- What a helper is called with. -/
inductive Parameter where
  | literal (value : Json.Value)
  | reference (reference : Reference)
  /-- What another helper makes of its own parameters. -/
  | call (call : Call)

/-- A helper and what it is called with. -/
structure Call where
  helper : Helper
  parameters : List Parameter
  /-- Parameters with names, in ascending order of these. -/
  options : List (String × Parameter)

end

deriving instance BEq, Repr for Parameter, Call

/-- A part of a template. -/
inductive Element where
  | text (text : String)
  | value (source : Parameter) (position : Position)
  /-- A block, with the names that its body has for what the helper renders it for. -/
  | block (call : Call) (names : List String) (position : Position) (body : List Element)
      (otherwise : Option (List Element))
deriving BEq, Repr, Inhabited

end ServiceBindings.Template

namespace ServiceBindings

/-- The parts of a template in order. -/
abbrev Template := List Template.Element

end ServiceBindings
