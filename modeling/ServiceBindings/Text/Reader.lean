/-!
# Reading texts

A reader takes a part of a text away from its start and returns what that part means, or
fails without having taken anything.  Of two readers the second one is tried only if the
first one fails.
-/

namespace ServiceBindings.Text

/-- Takes a part of a text away from its start, if the text starts with such a part. -/
abbrev Reader := StateT (List Char) Option

namespace Reader

variable {α : Type}

/-- Takes the given characters. -/
def exactly (expected : List Char) : Reader Unit := fun input =>
  if expected.isPrefixOf input then some ((), input.drop expected.length) else none

/-- Takes a character if it comes next, and tells whether it does. -/
def accept (expected : Char) : Reader Bool := fun input =>
  match input with
  | c :: rest => if c = expected then some (true, rest) else some (false, input)
  | [] => some (false, [])

/-- Takes all characters up to the first one that fails a test. -/
def span (test : Char → Bool) : Reader (List Char) := fun input =>
  some (input.takeWhile test, input.dropWhile test)

/-- Takes all characters up to the first one that fails a test, but at least one. -/
def span1 (test : Char → Bool) : Reader (List Char) := do
  let characters ← span test
  guard !characters.isEmpty
  pure characters

/-- Takes nothing, and fails if a character with a property comes next. -/
def notBefore (test : Char → Bool) : Reader Unit := fun input =>
  if input.head?.any test then none else some ((), input)

/-- Reads parts of one kind as long as there are any, but no more than a number of them. -/
def atMost (read : Reader α) : Nat → Reader (List α)
  | 0 => pure []
  | count + 1 =>
    (do
      let part ← read
      let others ← atMost read count
      pure (part :: others)) <|> pure []

/-- Reads parts of one kind as long as there are any.  No part is empty, so there are no
more of them than characters. -/
def many (read : Reader α) : Reader (List α) := fun input =>
  atMost read input.length input

/-- Reads a part, and returns the characters that belong to it as well. -/
def withCharacters (read : Reader α) : Reader (α × List Char) := fun input =>
  (read input).map fun (part, rest) => ((part, input.take (input.length - rest.length)), rest)

end Reader

end ServiceBindings.Text
