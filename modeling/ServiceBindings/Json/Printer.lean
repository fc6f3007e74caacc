import ServiceBindings.Json.Value

/-!
# JSON text

Values as JSON text: compact, or with one field or item on a line.
-/

namespace ServiceBindings.Json

/-- A hexadecimal digit in lowercase. -/
def hexDigit (value : Nat) : Char :=
  if value < 10 then Char.ofNat (0x30 + value) else Char.ofNat (0x57 + value)

/-- A character as it stands in a quoted text.  Only the quote, the backslash and control
characters below U+0020 are escaped. -/
def escaped (c : Char) : List Char :=
  if c = '"' then ['\\', '"']
  else if c = '\\' then ['\\', '\\']
  else if c = '\x08' then ['\\', 'b']
  else if c = '\x0c' then ['\\', 'f']
  else if c = '\n' then ['\\', 'n']
  else if c = '\r' then ['\\', 'r']
  else if c = '\t' then ['\\', 't']
  else if c.toNat < 0x20 then
    ['\\', 'u', '0', '0', hexDigit (c.toNat / 16), hexDigit (c.toNat % 16)]
  else [c]

/-- A text in quotes. -/
def quoted (text : String) : String :=
  String.ofList ('"' :: (text.toList.flatMap escaped ++ ['"']))

namespace Value

mutual

/-- A value on one line, without spaces between its tokens. -/
def compact : Value → String
  | null => "null"
  | bool value => if value then "true" else "false"
  | number value => value.text
  | text value => quoted value
  | array items => "[" ++ String.intercalate "," (compactItems items) ++ "]"
  | object fields => "\x7b" ++ String.intercalate "," (compactFields fields) ++ "\x7d"
termination_by structural value => value

/-- The items of an array, each on one line. -/
def compactItems : List Value → List String
  | [] => []
  | item :: rest => item.compact :: compactItems rest
termination_by structural items => items

/-- The fields of an object, each on one line. -/
def compactFields : List (String × Value) → List String
  | [] => []
  | (key, value) :: rest => (quoted key ++ ":" ++ value.compact) :: compactFields rest
termination_by structural fields => fields

end

/-- Two spaces for every level of nesting. -/
def indentation (depth : Nat) : String :=
  String.ofList (List.replicate (2 * depth) ' ')

/-- Members of an array or object at a depth, one on a line, between two brackets. -/
def block (depth : Nat) (opening closing : String) (members : List String) : String :=
  if members.isEmpty then opening ++ closing
  else
    opening ++ "\n" ++
      String.intercalate ",\n" (members.map (indentation (depth + 1) ++ ·)) ++ "\n" ++
      indentation depth ++ closing

mutual

/-- A value over several lines, of which all but the first are indented to a depth. -/
def pretty (depth : Nat) : Value → String
  | null => "null"
  | bool value => if value then "true" else "false"
  | number value => value.text
  | text value => quoted value
  | array items => block depth "[" "]" (prettyItems (depth + 1) items)
  | object fields => block depth "\x7b" "\x7d" (prettyFields (depth + 1) fields)
termination_by structural value => value

/-- The items of an array over several lines. -/
def prettyItems (depth : Nat) : List Value → List String
  | [] => []
  | item :: rest => item.pretty depth :: prettyItems depth rest
termination_by structural items => items

/-- The fields of an object over several lines. -/
def prettyFields (depth : Nat) : List (String × Value) → List String
  | [] => []
  | (key, value) :: rest => (quoted key ++ ": " ++ value.pretty depth) :: prettyFields depth rest
termination_by structural fields => fields

end

end Value

end ServiceBindings.Json
