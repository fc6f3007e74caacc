import ServiceBindings.Template.Layout

/-!
# Nesting of blocks

A template text is a template if its blocks are properly nested.  A block has at most one
other body; that body may consist of a further block which shares the closing tag of the
first one.
-/

namespace ServiceBindings.Template

/-- A block whose closing tag is still to come. -/
structure OpenBlock where
  call : Call
  names : List String
  position : Position
  /-- Whether the block is the whole other body of the block around it, with which it shares
  its closing tag and its position. -/
  isChained : Bool
  /-- The elements before the block, last one first. -/
  before : List Element
  /-- The first body, once its end has come. -/
  body? : Option (List Element)

/-- The element that a block is, given the elements since its last tag. -/
def OpenBlock.element (block : OpenBlock) (last : List Element) : Element :=
  match block.body? with
  | none => .block block.call block.names block.position last none
  | some body => .block block.call block.names block.position body (some last)

/-- What has been read of a template: the elements since the last block tag, last one first,
and the open blocks, innermost first. -/
structure Nesting where
  current : List Element
  blocks : List OpenBlock

namespace Nesting

/-- What has been read at the start. -/
def start : Nesting := ⟨[], []⟩

/-- Reads an element. -/
def add (nesting : Nesting) (element : Element) : Nesting :=
  { nesting with current := element :: nesting.current }

/-- Opens a block. -/
def enter (nesting : Nesting) (call : Call) (names : List String) (position : Position) :
    Nesting :=
  ⟨[], ⟨call, names, position, false, nesting.current, none⟩ :: nesting.blocks⟩

/-- Ends the first body of the innermost block, if it is the body that is being read. -/
def turn? (nesting : Nesting) : Option Nesting :=
  match nesting.blocks with
  | [] => none
  | block :: outer =>
    if block.body?.isSome then none
    else some ⟨[], { block with body? := some nesting.current.reverse } :: outer⟩

/-- Opens a block that is the other body of the innermost one. -/
def chain? (nesting : Nesting) (call : Call) (names : List String) : Option Nesting :=
  match nesting.turn? with
  | some ⟨_, block :: outer⟩ =>
    some ⟨[], ⟨call, names, block.position, true, [], none⟩ :: block :: outer⟩
  | _ => none

/-- Closes the innermost block of a list, given the elements since its last tag, and with it
the blocks whose other body it is.  The outermost of these has the name of the tag. -/
def closeBlocks? (helper : Helper) : List OpenBlock → List Element → Option Nesting
  | [], _ => none
  | block :: outer, last =>
    if block.isChained then closeBlocks? helper outer [block.element last]
    else if block.call.helper = helper then some ⟨block.element last :: block.before, outer⟩
    else none

/-- Reads one token. -/
def read? (nesting : Nesting) : Token → Option Nesting
  | .text characters => some (nesting.add (.text (String.ofList characters)))
  | .tag tag position =>
    match tag.content with
    | .comment => some nesting
    | .value source => some (nesting.add (.value source position))
    | .opening call names => some (nesting.enter call names position)
    | .otherwise => nesting.turn?
    | .chained call names => nesting.chain? call names
    | .closing helper => closeBlocks? helper nesting.blocks nesting.current.reverse

/-- Reads tokens in order. -/
def readAll? (nesting : Nesting) : List Token → Option Nesting
  | [] => some nesting
  | token :: rest => (nesting.read? token).bind (readAll? · rest)

/-- The template that has been read, if no block is open. -/
def finish? (nesting : Nesting) : Option Template :=
  if nesting.blocks.isEmpty then some nesting.current.reverse else none

end Nesting

end ServiceBindings.Template

namespace ServiceBindings

/-- The template with the given characters, if they are well-formed. -/
def Template.ofCharacters? (characters : List Char) : Option Template := do
  let tokens ← Template.tokens? characters
  let nesting ← Template.Nesting.start.readAll? (Template.layout tokens)
  nesting.finish?

/-- The template with the given text, if the text is well-formed. -/
def Template.parse? (text : String) : Option Template :=
  Template.ofCharacters? text.toList

end ServiceBindings
