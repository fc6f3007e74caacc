import ServiceBindings.Template.Token
import ServiceBindings.Text.Blank

/-!
# Layout of templates

Comments and the tags of blocks take their lines with them if nothing else stands there, so
that blocks can be laid out without leaving blank lines in what is rendered.  Tags with a
tilde take all white space on that side with them.
-/

namespace ServiceBindings.Template

/-- The blanks that may stand beside a tag that is alone on its line. -/
def isIndent (c : Char) : Bool := c = ' ' || c = '\t'

/-- Whether a character starts a new line. -/
def isLineBreak (c : Char) : Bool := c = '\n' || c = '\r'

/-- A text without the characters of a class at its end. -/
def dropFromEnd (drop : Char → Bool) (characters : List Char) : List Char :=
  (characters.reverse.dropWhile drop).reverse

/-- A text without the blanks at its start and the line break after them. -/
def dropLine (characters : List Char) : List Char :=
  match characters.dropWhile isIndent with
  | '\r' :: '\n' :: rest => rest
  | '\n' :: rest => rest
  | rest => rest

/-- Whether nothing but blanks stands in the line before the end of a text. -/
def endsInBlankLine (isFirst : Bool) (characters : List Char) : Bool :=
  match characters.reverse.dropWhile isIndent with
  | [] => isFirst
  | c :: _ => isLineBreak c

/-- Whether nothing but blanks stands in the line before the next token. -/
def startsInBlankLine : List Token → Bool
  | [] => true
  | .text characters :: _ => (characters.dropWhile isIndent).head?.any isLineBreak
  | .tag _ _ :: _ => false

/-- What the tags before a text take away from its start. -/
structure Taking where
  /-- Whether it is all white space. -/
  space : Bool
  /-- Whether it is the rest of the line. -/
  line : Bool

namespace Taking

/-- What is left of a text. -/
def rest (taking : Taking) (characters : List Char) : List Char :=
  if taking.space then characters.dropWhile Text.isBlank
  else if taking.line then dropLine characters
  else characters

/-- What is still to be taken away after a text.  The rest of a line is left to the next text
if this one was blank and has been trimmed away. -/
def after (taking : Taking) (characters : List Char) : Taking :=
  { taking with line := taking.line && taking.space && characters.all isTagBlank }

/-- What is to be taken away after a tag, which may be alone on its line. -/
def afterTag (taking : Taking) (tag : Tag) (isAlone : Bool) : Taking where
  space :=
    match tag.content with
    | .comment => taking.space
    | _ => tag.trimsAfter
  line := if tag.content.takesLine then isAlone else taking.line

end Taking

/-- What the tag after a text leaves of its end. -/
def Tag.textBefore (tag : Tag) (isAlone : Bool) (characters : List Char) : List Char :=
  if tag.trimsBefore then dropFromEnd Text.isBlank characters
  else if isAlone then dropFromEnd isIndent characters
  else characters

/-- Takes away what tags take with them.  `isFirst` holds at the start of the template. -/
def layOut (isFirst : Bool) (taking : Taking) : List Token → List Token
  | [] => []
  | .text characters :: .tag tag position :: later =>
    let isAlone :=
      tag.content.takesLine && endsInBlankLine isFirst characters && startsInBlankLine later
    .text (tag.textBefore isAlone (taking.rest characters)) :: .tag tag position ::
      layOut false ((taking.after characters).afterTag tag isAlone) later
  | .text characters :: later =>
    .text (taking.rest characters) :: layOut false (taking.after characters) later
  | .tag tag position :: later =>
    let isAlone := tag.content.takesLine && isFirst && startsInBlankLine later
    .tag tag position :: layOut false (taking.afterTag tag isAlone) later

/-- The tokens of a template without what tags take with them. -/
def layout (tokens : List Token) : List Token := layOut true ⟨false, false⟩ tokens

end ServiceBindings.Template
