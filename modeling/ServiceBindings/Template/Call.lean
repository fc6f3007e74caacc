import ServiceBindings.Template.Literal
import ServiceBindings.Template.Reference

/-!
# Calls in tags

A call is the name of a helper with parameters and options behind it, in any order.  A
parameter is a literal, a reference, or a call in parentheses, which has at least one
parameter or option unless it is the name alone.
-/

namespace ServiceBindings.Template

open Text (Reader)

/-- Whether characters start with a word that cannot be a parameter: `else` or `as`, with no
name after it. -/
def isReserved (characters : List Char) : Bool :=
  ["else".toList, "as".toList].any fun word =>
    word.isPrefixOf characters &&
      !((characters.drop word.length).dropWhile isTagBlank).head?.any isNameCharacter

/-- Takes nothing, and fails if a reserved word comes next. -/
def notBeforeReserved : Reader Unit := fun input =>
  if isReserved input then none else some ((), input)

/-- What may stand behind the name of a helper. -/
inductive Given where
  | parameter (parameter : Parameter)
  | option (name : String) (parameter : Parameter)

/-- A call with one more parameter or option.  Of the options of one name the last one
counts. -/
def Call.add (call : Call) : Given → Call
  | .parameter parameter => { call with parameters := call.parameters ++ [parameter] }
  | .option name parameter =>
    { call with options := Dictionary.insertEntry name parameter call.options }

/-- The call of a helper with parameters and options. -/
def Call.ofGiven (helper : Helper) (given : List Given) : Call :=
  given.foldl Call.add ⟨helper, [], []⟩

/-- Reads a name, an equals sign and a parameter. -/
def readOption (parameter : Reader Parameter) : Reader Given := do
  let name ← readName
  takeBlanks
  Reader.exactly ['=']
  takeBlanks
  let value ← parameter
  pure (.option name value)

/-- Reads a parameter or an option, and the blanks before it. -/
def readGiven (parameter : Reader Parameter) : Reader Given := do
  takeBlanks
  readOption parameter <|> Given.parameter <$> parameter

/-- Reads the name of a helper with at least one parameter or option. -/
def readFullCall (parameter : Reader Parameter) : Reader Call := do
  let name ← readName
  let first ← readGiven parameter
  let others ← Reader.many (readGiven parameter)
  pure (Call.ofGiven (Helper.ofName name) (first :: others))

/-- Reads a call in parentheses.  A reference that stands there alone is the name of a
helper. -/
def readEnclosedCall (parameter : Reader Parameter) : Reader Call := do
  Reader.exactly ['(']
  takeBlanks
  let call ← readFullCall parameter <|>
    (fun name => Call.ofGiven (Helper.ofName name.written) []) <$> Reference.read
  takeBlanks
  Reader.exactly [')']
  pure call

namespace Parameter

/-- Reads a parameter with calls in parentheses up to a depth. -/
def readWithin : Nat → Reader Parameter
  | 0 => failure
  | depth + 1 => do
    notBeforeReserved
    match ← optional Literal.read with
    | some (some value) => pure (literal value)
    | some none => failure
    | none => reference <$> Reference.read <|> call <$> readEnclosedCall (readWithin depth)

/-- Reads a parameter.  Every call inside another one takes up a parenthesis, so the number
of characters is enough depth. -/
def read : Reader Parameter := fun input => readWithin (input.length + 1) input

/-- Reads what stands for a value on its own: a call in parentheses, or a reference, which is
a call if it is the name of a helper. -/
def readAlone : Reader Parameter :=
  call <$> readEnclosedCall read <|> do
    let source ← Reference.read
    match Helper.ofName? source.written with
    | some helper => pure (call (Call.ofGiven helper []))
    | none => pure (reference source)

/-- Reads what stands for a value: a call, or what stands for a value on its own. -/
def readValue : Reader Parameter := call <$> readFullCall read <|> readAlone

end Parameter

/-- Reads the name of a helper with any number of parameters and options. -/
def Call.read : Reader Call := do
  let name ← readName
  let given ← Reader.many (readGiven Parameter.read)
  pure (Call.ofGiven (Helper.ofName name) given)

/-- Reads one or two names between bars after the word `as`. -/
def readNames : Reader (List String) := do
  Reader.exactly "as".toList
  takeBlanks
  Reader.exactly ['|']
  takeBlanks
  let first ← readName
  takeBlanks
  let second? ← optional readName
  takeBlanks
  Reader.exactly ['|']
  pure (first :: second?.toList)

/-- Reads a call and the names that the body of its block has for what it is rendered for. -/
def readHeading : Reader (Call × List String) := do
  let call ← Call.read
  let names? ← optional (takeBlanks *> readNames)
  pure (call, names?.getD [])

end ServiceBindings.Template
