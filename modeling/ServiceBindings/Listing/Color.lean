/-!
# Colors

Text in color as a terminal shows it: between a sequence that switches a color on and the
sequence that switches all colors off.
-/

namespace ServiceBindings.Listing

/-- How a text stands out. -/
inductive Color where
  /-- Bold and blue. -/
  | key
  /-- Dimmed. -/
  | absent
  /-- Yellow. -/
  | switch
  /-- Cyan. -/
  | number
  /-- Green. -/
  | text
deriving DecidableEq, Repr

namespace Color

/-- The codes of a color, separated by semicolons. -/
def codes : Color → String
  | key => "1;34"
  | absent => "2"
  | switch => "33"
  | number => "36"
  | text => "32"

/-- The characters of the sequence that switches on the given codes. -/
def sequence (codes : String) : List Char :=
  '\x1b' :: '[' :: (codes.toList ++ ['m'])

/-- The sequence that switches all colors off. -/
def reset : List Char := sequence "0"

/-- The characters of a text, where a color is switched on again wherever the text switches
all colors off. -/
def sustained (opening : List Char) : List Char → List Char
  | [] => []
  | '\x1b' :: '[' :: '0' :: 'm' :: rest => reset ++ (opening ++ sustained opening rest)
  | c :: rest => c :: sustained opening rest

/-- A text in a color. -/
def paint (color : Color) (text : String) : String :=
  let opening := sequence color.codes
  String.ofList (opening ++ (sustained opening text.toList ++ reset))

end Color

end ServiceBindings.Listing
