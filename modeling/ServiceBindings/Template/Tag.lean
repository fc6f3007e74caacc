import ServiceBindings.Template.Call

/-!
# Tags

What may stand between double braces: a comment, a value, or a tag of a block.  A tilde beside
the braces trims the text on that side.
-/

namespace ServiceBindings.Template

open Text (Reader)

/-- What stands between double braces. -/
inductive Content where
  | comment
  | value (source : Parameter)
  | opening (call : Call) (names : List String)
  | otherwise
  /-- Starts the other body of a block, which consists of a block of its own. -/
  | chained (call : Call) (names : List String)
  | closing (helper : Helper)
deriving BEq, Repr

namespace Content

/-- Whether a tag without anything else on its line takes the line with it. -/
def takesLine : Content → Bool
  | value _ => false
  | _ => true

/-- Takes the word that starts the other body of a block. -/
def takeElse : Reader Unit := Reader.exactly "else".toList <|> Reader.exactly ['^']

/-- Reads the mark and the heading of a tag that opens a block. -/
def readOpening : Reader Content := do
  Reader.exactly ['#']
  takeBlanks
  let (call, names) ← readHeading
  pure (opening call names)

/-- Reads the mark and the helper of a tag that closes a block. -/
def readClosing : Reader Content := do
  Reader.exactly ['/']
  takeBlanks
  let name ← readName
  pure (closing (Helper.ofName name))

/-- Reads the word of a tag that starts the other body of a block. -/
def readOtherwise : Reader Content := do
  takeElse
  pure otherwise

/-- Reads the word and the heading of a tag that starts the other body of a block and at the
same time opens the block of which that body consists. -/
def readChained : Reader Content := do
  takeElse
  takeBlanks
  let (call, names) ← readHeading
  pure (chained call names)

/-- Reads the mark of a value that stands alone. -/
def readMarked : Reader Content := do
  Reader.exactly ['&']
  takeBlanks
  value <$> Parameter.readAlone

end Content

/-- A tag, and whether it trims the texts before and after it. -/
structure Tag where
  content : Content
  trimsBefore : Bool
  trimsAfter : Bool
deriving BEq, Repr

namespace Tag

/-- Cuts characters at the first occurrence of a nonempty pattern, which belongs to neither
part. -/
def cutAt (pattern : List Char) : List Char → Option (List Char × List Char)
  | [] => none
  | c :: rest =>
    if pattern.isPrefixOf (c :: rest) then some ([], (c :: rest).drop pattern.length)
    else (cutAt pattern rest).map fun (before, after) => (c :: before, after)

/-- Reads a comment.  One that starts with two dashes ends with two dashes, if there are any
before braces further on. -/
def readComment : Reader Tag := do
  Reader.exactly ['!']
  (do
    takeBlanks
    Reader.exactly ['-', '-']
    discard fun input => cutAt ['-', '-', '}', '}'] input) <|>
    (discard fun input => cutAt ['}', '}'] input)
  pure ⟨.comment, false, false⟩

/-- Takes the end of a tag, and tells whether the text after it is trimmed. -/
def takeEnd : Reader Bool := do
  takeBlanks
  let trims ← Reader.accept '~'
  takeBlanks
  Reader.exactly ['}', '}']
  pure trims

/-- Reads a tag up to its end. -/
def readPlain (trimsBefore : Bool) (content : Reader Content) : Reader Tag := do
  let content ← content
  let trimsAfter ← takeEnd
  pure ⟨content, trimsBefore, trimsAfter⟩

/-- Reads a value between triple braces, of which the first two have been taken.  A tilde
stands inside of them. -/
def readTriple : Reader Tag := do
  Reader.exactly ['{']
  takeBlanks
  let trimsBefore ← Reader.accept '~'
  takeBlanks
  let source ← Parameter.readValue
  takeBlanks
  let trimsAfter ← Reader.accept '~'
  takeBlanks
  Reader.exactly ['}', '}', '}']
  pure ⟨.value source, trimsBefore, trimsAfter⟩

/-- Reads a value between single braces inside of double ones. -/
def readBraced : Reader Content := do
  Reader.exactly ['{']
  takeBlanks
  let source ← Parameter.readValue
  takeBlanks
  Reader.exactly ['}']
  pure (.value source)

/-- Reads the rest of a tag after its two opening braces. -/
def read : Reader Tag :=
  readComment <|> readTriple <|> do
    takeBlanks
    let trimsBefore ← Reader.accept '~'
    takeBlanks
    readPlain trimsBefore Content.readOpening <|>
      readPlain trimsBefore Content.readClosing <|>
      readPlain trimsBefore Content.readOtherwise <|>
      readPlain trimsBefore Content.readChained <|>
      readPlain trimsBefore readBraced <|>
      readPlain trimsBefore Content.readMarked <|>
      readPlain trimsBefore (Content.value <$> Parameter.readValue)

end Tag

end ServiceBindings.Template
