import ServiceBindings.Dictionary

/-!
# Template helpers

A helper is what a tag calls by name.  Some helpers decide how the bodies of a block are
rendered, others stand for a value; a truth value that a helper tells chooses between the
bodies of a block.  A name of no helper is still a helper, which fails as soon as it is called,
so that a body that is not rendered may call it.
-/

namespace ServiceBindings.Template

/-- How two values are compared. -/
inductive Comparison where
  | equal
  | different
  | greater
  | greaterOrEqual
  | less
  | lessOrEqual
deriving DecidableEq, Repr

/-- What a tag can call. -/
inductive Helper where
  /-- Renders one of two bodies: the first if the parameter holds exactly when `wanted`. -/
  | choice (wanted : Bool)
  /-- Renders the body for every item, or the other body if there are no items. -/
  | loop
  /-- Renders the body in the scope of a value that holds, otherwise the other body. -/
  | scope
  /-- Renders the body as it is. -/
  | body
  /-- Logs its parameters at a level, and renders nothing. -/
  | log
  /-- Stands for the item or field of one value that another value names. -/
  | lookup
  /-- Tells whether two values compare in some way. -/
  | comparison (comparison : Comparison)
  /-- Tells whether all values hold. -/
  | all
  /-- Tells whether some value holds. -/
  | any
  /-- Tells whether a value does not hold. -/
  | negation
  /-- Stands for the number of octets, items or fields of a value. -/
  | length
  /-- Cannot be called. -/
  | unknown (name : String)
deriving DecidableEq, Repr

namespace Helper

/-- The helpers that can be called, by their names. -/
def named : List (String × Helper) :=
  [("if", choice true), ("unless", choice false), ("each", loop), ("with", scope),
    ("raw", body), ("log", log), ("lookup", lookup), ("eq", comparison .equal),
    ("ne", comparison .different), ("gt", comparison .greater),
    ("gte", comparison .greaterOrEqual), ("lt", comparison .less),
    ("lte", comparison .lessOrEqual), ("and", all), ("or", any), ("not", negation),
    ("len", length)]

/-- The helper of a name, if it can be called. -/
def ofName? (name : String) : Option Helper := Dictionary.findIn? name named

/-- The helper of a name. -/
def ofName (name : String) : Helper := (ofName? name).getD (unknown name)

/-- The name under which a missing parameter is reported.  It is the helper's own, but both
kinds of choice go by the name of the positive one. -/
def reportedName : Helper → String
  | choice _ => "if"
  | loop => "each"
  | scope => "with"
  | body => "raw"
  | log => "log"
  | lookup => "lookup"
  | comparison .equal => "eq"
  | comparison .different => "ne"
  | comparison .greater => "gt"
  | comparison .greaterOrEqual => "gte"
  | comparison .less => "lt"
  | comparison .lessOrEqual => "lte"
  | all => "and"
  | any => "or"
  | negation => "not"
  | length => "len"
  | unknown name => name

end Helper

end ServiceBindings.Template
