import ServiceBindings.Text.Blank

/-!
# Texts in segments

Cutting a text at a separator character and trimming one off its ends.  All operations are
given by their action on the list of characters.
-/

namespace ServiceBindings.Text

/-- The segments between the separators; a text without separator is one segment. -/
def segments (separator : Char) (text : String) : List String :=
  (text.toList.splitOn separator).map String.ofList

/-- A text cut at its first separator, which belongs to neither part. -/
def cutFirst? (separator : Char) (text : String) : Option (String × String) :=
  match text.toList.dropWhile (· != separator) with
  | [] => none
  | _ :: after =>
    some (String.ofList (text.toList.takeWhile (· != separator)), String.ofList after)

/-- A text cut at its last separator, which belongs to neither part. -/
def cutLast? (separator : Char) (text : String) : Option (String × String) :=
  match text.toList.reverse.dropWhile (· != separator) with
  | [] => none
  | _ :: before =>
    some (String.ofList before.reverse,
      String.ofList (text.toList.reverse.takeWhile (· != separator)).reverse)

/-- A text without the leading occurrences of a character. -/
def trimStart (unwanted : Char) (text : String) : String :=
  String.ofList (text.toList.dropWhile (· == unwanted))

/-- A text without the leading and trailing occurrences of a character. -/
def trimBoth (unwanted : Char) (text : String) : String :=
  String.ofList (stripEnds (· == unwanted) text.toList)

/-- A text with one character replaced by another throughout. -/
def replaceChar (old new : Char) (text : String) : String :=
  String.ofList (text.toList.map fun c => if c == old then new else c)

/-- The text, if it is not empty. -/
def nonempty? (text : String) : Option String :=
  if text.isEmpty then none else some text

end ServiceBindings.Text
