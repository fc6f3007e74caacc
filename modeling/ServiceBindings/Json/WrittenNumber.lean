import ServiceBindings.Json.Numeral

/-!
# Written numbers

A number in JSON text has digits, perhaps a sign before them, and perhaps a point with further
digits and an exponent behind them.  Without point and exponent it is an integer if 64 bits
hold it; otherwise it is a double.

A double is read quickly rather than exactly.  Only the first digits count, as many as 64 bits
hold; the number that they form is rounded to a double, and so is the power of ten by which it
is then multiplied or divided, and the result is rounded once more.  The double may therefore
be a neighbour of the one that is nearest to the written number.
-/

namespace ServiceBindings.Json

/-- The parts of a number as it is written. -/
structure WrittenNumber where
  negative : Bool
  whole : List Char
  /-- The digits behind the point, if there is a point. -/
  fraction? : Option (List Char)
  exponent? : Option Int
deriving DecidableEq, Repr

namespace WrittenNumber

/-- The number that digits behind a value form with it, up to the first digit with which 64 bits
could not hold it, and the digits from there on. -/
def leadingDigits (value : Nat) : List Char → Nat × List Char
  | [] => (value, [])
  | digit :: rest =>
    let next := value * 10 + (digit.toNat - 0x30)
    if next < 0x10000000000000000 then leadingDigits next rest else (value, digit :: rest)

/-- The magnitude of the double that is nearest to a magnitude. -/
def rounded? (magnitude : Rat) : Option Rat :=
  (Double.nearest? false magnitude).map Double.magnitude

/-- The rounded product of an integer and a power of ten.  Powers beyond the largest double
are divided by in two steps, and not multiplied with at all. -/
def scaled? (digits : Nat) (exponent : Int) : Option Rat := do
  let value ← rounded? digits
  if 308 < exponent then
    if value = 0 then some 0 else none
  else if 0 ≤ exponent then
    let power ← rounded? ((10 : Rat) ^ exponent.toNat)
    rounded? (value * power)
  else if -308 ≤ exponent then
    let power ← rounded? ((10 : Rat) ^ exponent.natAbs)
    rounded? (value / power)
  else if -616 ≤ exponent then
    let greatest ← rounded? ((10 : Rat) ^ (308 : Nat))
    let smaller ← rounded? (value / greatest)
    let power ← rounded? ((10 : Rat) ^ (exponent.natAbs - 308))
    rounded? (smaller / power)
  else some 0

/-- The double that a number is read as, unless it is beyond the largest one. -/
def double? (number : WrittenNumber) : Option Double :=
  let (whole, surplusWhole) := leadingDigits 0 number.whole
  let fraction := number.fraction?.getD []
  let (digits, surplusFraction) := leadingDigits whole fraction
  let places : Int := (fraction.length : Int) - surplusFraction.length - surplusWhole.length
  (scaled? digits (number.exponent?.getD 0 - places)).bind (Double.nearest? number.negative)

/-- The integer that is written, if there is neither a point nor an exponent. -/
def integer? (number : WrittenNumber) : Option Int :=
  if number.fraction?.isSome ∨ number.exponent?.isSome then none
  else if number.negative then some (-(Numeral.digitsNumber number.whole : Int))
  else some (Numeral.digitsNumber number.whole)

/-- Whether there is no zero in front of other digits, and a digit behind the point. -/
def isWellFormed (number : WrittenNumber) : Bool :=
  (number.whole.length = 1 || number.whole.head? != some '0') && number.fraction? != some []

/-- The number that is written.  Minus zero is a double. -/
def number? (number : WrittenNumber) : Option Number :=
  if !number.isWellFormed then none
  else
    match number.integer? with
    | some value =>
      if -0x8000000000000000 ≤ value ∧ value < 0x10000000000000000 ∧
          ¬(number.negative ∧ value = 0) then
        some (.integer value)
      else number.double?.map .double
    | none => number.double?.map .double

end WrittenNumber

end ServiceBindings.Json
