import ServiceBindings.Template.Tag

/-!
# Template tokens

A template text is a sequence of plain texts and tags.  A backslash before two braces makes
them plain text.
-/

namespace ServiceBindings.Template

/-- A plain text or a tag. -/
inductive Token where
  | text (characters : List Char)
  | tag (tag : Tag) (position : Position)
deriving BEq, Repr

/-- The position after some characters. -/
def Position.after (position : Position) : List Char → Position
  | [] => position
  | c :: rest =>
    if c = '\n' then Position.after ⟨position.line + 1, 1⟩ rest
    else Position.after ⟨position.line, position.column + 1⟩ rest

/-- The plain text at the start of characters, and the characters from the next tag on.  A
single backslash before two or four braces is left out and keeps them from starting a tag;
of several backslashes before a tag the first one is left out. -/
def plainText : List Char → List Char × List Char
  | [] => ([], [])
  | '{' :: '{' :: rest => ([], '{' :: '{' :: rest)
  | '\\' :: '{' :: '{' :: '{' :: '{' :: rest =>
    let (text, after) := plainText rest
    ('{' :: '{' :: '{' :: '{' :: text, after)
  | '\\' :: '{' :: '{' :: rest =>
    let (text, after) := plainText rest
    ('{' :: '{' :: text, after)
  | c :: rest =>
    let backslashes := rest.takeWhile (· = '\\')
    let next := rest.dropWhile (· = '\\')
    if c = '\\' ∧ backslashes ≠ [] ∧ ['{', '{'].isPrefixOf next then (backslashes, next)
    else
      let (text, after) := plainText rest
      (c :: text, after)

/-- A plain text, unless it is empty. -/
def textTokens (characters : List Char) : List Token :=
  if characters.isEmpty then [] else [.text characters]

/-- The tokens of characters that start at a position, if every pair of opening braces is
that of a tag.  Every tag takes up at least two characters, so their number is enough
fuel. -/
def tokensFrom? : Nat → Position → List Char → Option (List Token)
  | 0, _, _ => none
  | fuel + 1, position, characters =>
    let (text, rest) := plainText characters
    match rest with
    | '{' :: '{' :: content => do
      let start := position.after (characters.take (characters.length - rest.length))
      let (tag, after) ← Tag.read content
      let next := start.after (rest.take (rest.length - after.length))
      let later ← tokensFrom? fuel next after
      pure (textTokens text ++ .tag tag start :: later)
    | _ => some (textTokens text)

/-- The tokens of a template text. -/
def tokens? (characters : List Char) : Option (List Token) :=
  tokensFrom? (characters.length + 1) ⟨1, 1⟩ characters

end ServiceBindings.Template
