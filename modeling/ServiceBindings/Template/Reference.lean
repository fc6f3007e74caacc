import ServiceBindings.Template.Basic
import ServiceBindings.Template.Word

/-!
# References in tags

A reference is a path of names from a value that some scope has, or the variable of a loop.  It
keeps the text in which it is written, because a reference to nothing is reported by that
text.
-/

namespace ServiceBindings.Template.Reference

open Text (Reader)

/-- Takes the mark between two names of a path. -/
def takeSeparator : Reader Unit := Reader.exactly ['.'] <|> Reader.exactly ['/']

/-- Reads a name in a path.  Between square brackets it may have any characters. -/
def readPathName : Reader String :=
  readName <|> do
    Reader.exactly ['[']
    let characters ← Reader.span (· ≠ ']')
    Reader.exactly [']']
    pure (String.ofList characters)

/-- The reference of the parts of a path.  The name `this` stands for the value that has been
reached.  A loop variable has one name only, and whatever follows that is ignored. -/
def ofParts (fromData isVariable : Bool) (up : Nat) (names : List String)
    (written : String) : Reference :=
  match fromData, isVariable, names.filter (· ≠ "this") with
  | true, _, names => path .data names written
  | false, true, name :: _ => loopVariable up name written
  | false, true, [] => path (.scope 0) [] written
  | false, false, names => path (.scope up) names written

/-- Reads a reference, which contains no blanks outside of brackets. -/
def read : Reader Reference := do
  let (reference, written) ← Reader.withCharacters do
    discard (optional ((Reader.exactly "this".toList *> takeSeparator) <|>
      Reader.exactly "./".toList))
    let fromData ← optional (Reader.exactly "@root".toList *> takeSeparator)
    let isVariable ← Reader.accept '@'
    let outward ← Reader.many (Reader.exactly "..".toList *> takeSeparator)
    let first ← readPathName
    let others ← Reader.many (takeSeparator *> readPathName)
    pure (ofParts fromData.isSome isVariable outward.length (first :: others))
  pure (reference (String.ofList written))

end ServiceBindings.Template.Reference
