import ServiceBindings.Text.Letter

/-!
# Identifiers

The spellings that one name takes in generated code: with a lowercase first letter, in
snake_case, in UpperCamelCase, and qualified by a namespace.
-/

namespace ServiceBindings.Identifier

/-- A name in a namespace; names in the empty namespace stand alone. -/
def qualify (space name : String) : String :=
  if space.isEmpty then name else space ++ "." ++ name

/-- A name with its first character in lowercase. -/
def lowerFirst (name : String) : String :=
  match name.toList with
  | [] => ""
  | first :: rest => String.ofList (Text.lowercaseOf first ++ rest)

/-- Whether a word of snake_case starts at a character that follows another: at an uppercase
letter after a lowercase letter or a digit, and at the last of several uppercase letters if
a lowercase letter follows it.  Acronyms stay one word. -/
def startsWord (previous : Option Char) (c : Char) (next : Option Char) : Bool :=
  match previous with
  | none => false
  | some before =>
    Text.isUppercase c &&
      (Text.isLowercase before || before.isDigit ||
        (Text.isUppercase before && next.any Text.isLowercase))

/-- The characters of a name in snake_case, after the character that precedes them. -/
def snakeCaseFrom (previous : Option Char) : List Char → List Char
  | [] => []
  | c :: rest =>
    (if startsWord previous c rest.head? then ['_'] else []) ++
      (Text.lowercaseOf c ++ snakeCaseFrom (some c) rest)

/-- A name in snake_case. -/
def snakeCase (name : String) : String :=
  String.ofList (snakeCaseFrom none name.toList)

/-- The characters of a name in UpperCamelCase, where `atStart` says that a letter here
starts a word.  Of the characters only ASCII letters and digits are kept, and a word starts
after every digit and every character left out. -/
def upperCamelFrom (atStart : Bool) : List Char → List Char
  | [] => []
  | c :: rest =>
    if c.isLower then (if atStart then c.toUpper else c) :: upperCamelFrom false rest
    else if c.isUpper then c :: upperCamelFrom false rest
    else if c.isDigit then c :: upperCamelFrom true rest
    else upperCamelFrom true rest

/-- A name in UpperCamelCase. -/
def upperCamel (name : String) : String :=
  String.ofList (upperCamelFrom true name.toList)

end ServiceBindings.Identifier
