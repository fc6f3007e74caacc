import ServiceBindings.Json.Value
import ServiceBindings.Text.Reader

/-!
# Numerals

A text is a numeral if it spells out a number: digits with or without a point and an exponent,
or the word for infinity, after a sign or without one.  There are no blanks in a numeral.  It
stands for the double nearest to its number, and for infinity if that lies beyond all doubles.
-/

namespace ServiceBindings.Json

open Text (Reader)

/-- What a numeral stands for. -/
inductive Numeral where
  | finite (value : Double)
  | infinity (negative : Bool)
deriving DecidableEq, Repr

namespace Numeral

/-- The rational that a numeral is.  Infinity counts as the least power of two that is no
double, because it is only ever compared with doubles. -/
def toRat : Numeral → Rat
  | finite value => (Number.double value).toRat
  | infinity negative => if negative then -(2 : Rat) ^ (1024 : Nat) else (2 : Rat) ^ (1024 : Nat)

/-- The numeral of a sign and a decimal. -/
def ofDecimal (negative : Bool) (decimal : Decimal) : Numeral :=
  match Double.ofDecimal? negative decimal with
  | some value => finite value
  | none => infinity negative

/-- The numeral of the double nearest to an integer. -/
def ofInt (value : Int) : Numeral := ofDecimal (value < 0) ⟨value.natAbs, 0⟩

/-- The number that decimal digits form. -/
def digitsNumber (digits : List Char) : Nat :=
  digits.foldl (fun value digit => value * 10 + (digit.toNat - 0x30)) 0

/-- Reads a sign, if there is one, and tells whether it is that of a negative number. -/
def readSign : Reader Bool := do
  let negative ← Reader.accept '-'
  if negative then pure true
  else
    discard (Reader.accept '+')
    pure false

/-- Reads an exponent: a letter, a sign if there is one, and digits. -/
def readExponent : Reader Int := do
  Reader.exactly ['e'] <|> Reader.exactly ['E']
  let negative ← readSign
  let digits ← Reader.span1 Char.isDigit
  pure (if negative then -(digitsNumber digits : Int) else digitsNumber digits)

/-- Reads digits with or without a point, of which one at least is needed, and an exponent, if
there is one. -/
def readDecimal : Reader Decimal := do
  let whole ← Reader.span Char.isDigit
  let hasPoint ← Reader.accept '.'
  let fraction ← Reader.span fun c => hasPoint && c.isDigit
  guard !(whole ++ fraction).isEmpty
  let exponent? ← optional readExponent
  pure ⟨digitsNumber (whole ++ fraction), exponent?.getD 0 - fraction.length⟩

/-- Whether a word is that for infinity, in letters of either case. -/
def isInfinity (word : List Char) : Bool :=
  let lower := word.map Char.toLower
  lower = "inf".toList ∨ lower = "infinity".toList

/-- The numeral that a text is. -/
def ofText? (text : String) : Option Numeral := do
  let (negative, unsigned) ← readSign text.toList
  if isInfinity unsigned then some (infinity negative)
  else
    match readDecimal unsigned with
    | some (decimal, []) => some (ofDecimal negative decimal)
    | _ => none

end Numeral

end ServiceBindings.Json
