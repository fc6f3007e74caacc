/-!
# White space

The Unicode property White_Space, and texts without white space at their ends.
Zero-width characters, such as U+200B and U+FEFF, are not white space.
-/

namespace ServiceBindings.Text

/-- The property White_Space. -/
def isBlank (c : Char) : Bool :=
  let code := c.toNat
  (9 ≤ code && code ≤ 13) || code == 0x20 || code == 0x85 || code == 0xA0 || code == 0x1680
    || (0x2000 ≤ code && code ≤ 0x200A) || code == 0x2028 || code == 0x2029 || code == 0x202F
    || code == 0x205F || code == 0x3000

/-- A list without the elements of its two ends that satisfy a test. -/
def stripEnds {α : Type} (drop : α → Bool) (items : List α) : List α :=
  ((items.dropWhile drop).reverse.dropWhile drop).reverse

/-- A text without white space at its ends. -/
def trim (text : String) : String :=
  String.ofList (stripEnds isBlank text.toList)

end ServiceBindings.Text
