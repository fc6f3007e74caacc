import ServiceBindings.Text.Reader

/-!
# Words in tags

Tags consist of names, literals and marks, with blanks between them where that is wanted.
-/

namespace ServiceBindings.Template

open Text (Reader)

/-- The blanks that may stand between the parts of a tag. -/
def isTagBlank (c : Char) : Bool := c = ' ' || c = '\t' || c = '\n' || c = '\r'

/-- Takes blanks, if there are any. -/
def takeBlanks : Reader Unit := discard (Reader.span isTagBlank)

/-- The characters of names: ASCII letters, digits, `$`, `-`, `:`, `_`, and everything
beyond ASCII. -/
def isNameCharacter (c : Char) : Bool :=
  c.isAlphanum || c = '$' || c = '-' || c = ':' || c = '_' || 0x80 ≤ c.toNat

/-- Reads a name. -/
def readName : Reader String := String.ofList <$> Reader.span1 isNameCharacter

end ServiceBindings.Template
