import ServiceBindings.Json.WrittenNumber
import ServiceBindings.Template.Word

/-!
# Literals in tags

A parameter may be written as a JSON value.  A literal is found by its outline, which admits
a little more than JSON does: a number may have a zero too many at its start or no digit
after its point, and a text inside another value may stand between single quotes.  Such a
literal has no value, and it spoils its template; it is not taken for something else.
-/

namespace ServiceBindings.Template.Literal

open Json (Value WrittenNumber)
open Json.Numeral (digitsNumber)
open Text (Reader)

/-- The value of a hexadecimal digit. -/
def hexValue? (c : Char) : Option Nat :=
  if c.isDigit then some (c.toNat - 0x30)
  else if 'a' ≤ c ∧ c ≤ 'f' then some (c.toNat - 0x57)
  else if 'A' ≤ c ∧ c ≤ 'F' then some (c.toNat - 0x37)
  else none

/-- The number that hexadecimal digits form after a value that has been read. -/
def hexNumber? (value : Nat) : List Char → Option Nat
  | [] => some value
  | digit :: rest => (hexValue? digit).bind fun last => hexNumber? (value * 16 + last) rest

/-- The characters that an escape of one letter can stand for. -/
def escapes : List (Char × Char) :=
  [('\\', '\\'), ('/', '/'), ('b', '\x08'), ('f', '\x0c'), ('n', '\n'), ('r', '\r'),
    ('t', '\t')]

/-- The code units of a text up to the quote that ends it, and the characters after that
quote.  A unit is a code point or one half of a surrogate pair. -/
def units? (quote : Char) : List Char → Option (List Nat × List Char)
  | [] => none
  | '\\' :: 'u' :: first :: second :: third :: fourth :: rest => do
    let unit ← hexNumber? 0 [first, second, third, fourth]
    let (units, after) ← units? quote rest
    pure (unit :: units, after)
  | '\\' :: letter :: rest => do
    let meant ← ((quote, quote) :: escapes).lookup letter
    let (units, after) ← units? quote rest
    pure (meant.toNat :: units, after)
  | c :: rest =>
    if c = quote then some ([], rest)
    else (units? quote rest).map fun (units, after) => (c.toNat :: units, after)

/-- The characters of code units, in which surrogates come in pairs. -/
def characters? : List Nat → Option (List Char)
  | [] => some []
  | [unit] => if 0xD800 ≤ unit ∧ unit < 0xE000 then none else some [Char.ofNat unit]
  | unit :: next :: rest =>
    if 0xD800 ≤ unit ∧ unit < 0xE000 then
      if unit < 0xDC00 ∧ 0xDC00 ≤ next ∧ next < 0xE000 then
        (characters? rest).map
          (Char.ofNat (0x10000 + (unit - 0xD800) * 0x400 + (next - 0xDC00)) :: ·)
      else none
    else (characters? (next :: rest)).map (Char.ofNat unit :: ·)

/-- Reads a text between two quotes.  It has a value unless a surrogate stands alone or a
control character is not escaped. -/
def readText (quote : Char) : Reader (Option String) := do
  Reader.exactly [quote]
  let (units, written) ← Reader.withCharacters fun input => units? quote input
  if written.any (·.toNat < 0x20) then pure none
  else pure ((characters? units).map String.ofList)

/-- Reads a text between single quotes as a part of another value, where it has no value of its
own. -/
def readSpoilt {α : Type} : Reader (Option α) := do
  discard (readText '\'')
  pure none

/-- Reads the exponent of a number. -/
def readExponent : Reader Int := do
  Reader.exactly ['E']
  let negative ← Reader.accept '-'
  let digits ← Reader.span1 Char.isDigit
  pure (if negative then -(digitsNumber digits : Int) else digitsNumber digits)

/-- Reads a number, which no character of a name may follow. -/
def readNumber : Reader (Option Value) := do
  let negative ← Reader.accept '-'
  let whole ← Reader.span1 Char.isDigit
  let hasPoint ← Reader.accept '.'
  let fraction ← Reader.span fun c => hasPoint && c.isDigit
  let exponent? ← optional readExponent
  Reader.notBefore isNameCharacter
  let written : WrittenNumber :=
    ⟨negative, whole, if hasPoint then some fraction else none, exponent?⟩
  pure (written.number?.map .number)

/-- Reads a word that stands for a value. -/
def readWord (word : String) (value : Value) : Reader (Option Value) := do
  Reader.exactly word.toList
  Reader.notBefore isNameCharacter
  pure (some value)

/-- Reads members between brackets, with commas between them.  There are no values if a
comma comes before the first member. -/
def readMembers {α : Type} (opening closing : Char) (member : Reader (Option α)) :
    Reader (Option (List α)) := do
  Reader.exactly [opening]
  takeBlanks
  let first? ← optional member
  let others ← Reader.many do
    takeBlanks
    Reader.exactly [',']
    takeBlanks
    member
  takeBlanks
  Reader.exactly [closing]
  match first? with
  | some first => pure ((first :: others).mapM id)
  | none => pure (if others.isEmpty then some [] else none)

/-- Reads a field of an object. -/
def readField (value : Reader (Option Value)) : Reader (Option (String × Value)) := do
  let key? ← readText '"' <|> readSpoilt
  takeBlanks
  Reader.exactly [':']
  takeBlanks
  let value? ← value
  pure (key?.bind fun key => value?.map (key, ·))

/-- Reads a literal with arrays and objects up to a depth. -/
def readWithin : Nat → Reader (Option Value)
  | 0 => failure
  | depth + 1 =>
    (Option.map Value.text <$> readText '"') <|>
    readSpoilt <|>
    (Option.map Value.array <$> readMembers '[' ']' (readWithin depth)) <|>
    (Option.map Value.object <$> readMembers '{' '}' (readField (readWithin depth))) <|>
    readNumber <|> readWord "null" .null <|> readWord "true" (.bool true) <|>
    readWord "false" (.bool false)

mutual

/-- How deep arrays and objects are nested in a value. -/
def nesting : Value → Nat
  | .array items => itemsNesting items + 1
  | .object fields => fieldsNesting fields + 1
  | _ => 0
termination_by structural value => value

/-- How deep arrays and objects are nested in items. -/
def itemsNesting : List Value → Nat
  | [] => 0
  | item :: rest => max (nesting item) (itemsNesting rest)
termination_by structural items => items

/-- How deep arrays and objects are nested in fields. -/
def fieldsNesting : List (String × Value) → Nat
  | [] => 0
  | (_, value) :: rest => max (nesting value) (fieldsNesting rest)
termination_by structural fields => fields

end

/-- Reads a literal.  A text that is not part of another value may also stand between single
quotes.  Arrays and objects that are nested too deep have no value. -/
def read : Reader (Option Value) := fun input =>
  ((Option.map Value.text <$> readText '\'') <|>
    ((fun value? => (value?.filter (nesting · < 128)).map Value.sorted) <$>
      readWithin (input.length + 1))) input

end ServiceBindings.Template.Literal
