/-!
# Doubles

Finite binary floating-point numbers of double precision, and their decimal text.  The text
has the fewest digits that read back as the same number, and of the texts with so many
digits it is the nearest.
-/

namespace ServiceBindings.Json

/-- The number `significand * 2 ^ exponent` with a sign, which zero has too.  The significand
is below `2 ^ 53`, and it is at least `2 ^ 52` unless the exponent is the least one, -1074. -/
structure Double where
  negative : Bool
  significand : Nat
  exponent : Int
deriving DecidableEq, Repr

/-- The number `digits * 10 ^ exponent`. -/
structure Decimal where
  digits : Nat
  exponent : Int
deriving DecidableEq, Repr

namespace Double

/-- The least significand of full precision, `2 ^ 52`. -/
def leastNormal : Nat := 0x10000000000000

/-- Whether the number has full precision: zero and the numbers closest to it have not. -/
def isNormal (double : Double) : Bool := leastNormal ≤ double.significand

/-- The number without its sign. -/
def magnitude (double : Double) : Rat := double.significand * (2 : Rat) ^ double.exponent

/-- How far below the magnitude the rationals that round to it reach.  Below a power of two
the doubles lie twice as close. -/
def gapBelow (double : Double) : Rat :=
  if double.significand = leastNormal ∧ double.exponent ≠ -1074 then
    (2 : Rat) ^ (double.exponent - 2)
  else (2 : Rat) ^ (double.exponent - 1)

/-- How far above the magnitude the rationals that round to it reach. -/
def gapAbove (double : Double) : Rat := (2 : Rat) ^ (double.exponent - 1)

/-- Whether a rational rounds to the magnitude; a tie goes to the even significand. -/
def isReadFrom (double : Double) (value : Rat) : Bool :=
  let low := double.magnitude - double.gapBelow
  let high := double.magnitude + double.gapAbove
  if double.significand % 2 = 0 then low ≤ value && value ≤ high
  else low < value && value < high

/-- The exponent of ten of the leading digit of a positive magnitude. -/
def leadingExponent (double : Double) : Int :=
  let scaled := (double.magnitude * (10 : Rat) ^ (343 : Nat)).floor.toNat
  ((Nat.toDigits 10 scaled).length : Int) - 344

/-- The decimal with a given number of digits that reads back as the double, the nearer one
of two. -/
def decimalOfLength? (double : Double) (length : Nat) : Option Decimal :=
  let exponent := double.leadingExponent + 1 - length
  let unit := (10 : Rat) ^ exponent
  let below := (double.magnitude / unit).floor.toNat
  let readsBack := fun (digits : Nat) => double.isReadFrom (digits * unit)
  let distanceBelow := double.magnitude - below * unit
  let distanceAbove := (below + 1) * unit - double.magnitude
  if readsBack below && readsBack (below + 1) then
    if distanceBelow < distanceAbove || (distanceBelow == distanceAbove && below % 2 = 0) then
      some ⟨below, exponent⟩
    else some ⟨below + 1, exponent⟩
  else if readsBack below then some ⟨below, exponent⟩
  else if readsBack (below + 1) then some ⟨below + 1, exponent⟩
  else none

/-- The shortest decimal that reads back as a positive magnitude.  Seventeen digits always
suffice. -/
def shortest (double : Double) : Decimal :=
  ((List.range 17).findSome? fun fewer => double.decimalOfLength? (fewer + 1)).getD ⟨0, 0⟩

end Double

namespace Decimal

/-- Digits without the zeros at their end. -/
def withoutTrailingZeros (figures : List Char) : List Char :=
  (figures.reverse.dropWhile (· == '0')).reverse

/-- The exponent of ten of the leading digit. -/
def leadingExponent (decimal : Decimal) : Int :=
  ((Nat.toDigits 10 decimal.digits).length : Int) - 1 + decimal.exponent

/-- A decimal without exponent, with at least one digit on either side of the point. -/
def positional (decimal : Decimal) : String :=
  let written := Nat.toDigits 10 decimal.digits ++ List.replicate decimal.exponent.toNat '0'
  let places := (-decimal.exponent).toNat
  let padded := List.replicate (places + 1 - written.length) '0' ++ written
  let whole := padded.length - places
  let fraction := withoutTrailingZeros (padded.drop whole)
  String.ofList (padded.take whole ++ '.' :: (if fraction.isEmpty then ['0'] else fraction))

/-- A decimal with one digit before the point, if there is a point, and an exponent. -/
def exponential (decimal : Decimal) : String :=
  let figures := withoutTrailingZeros (Nat.toDigits 10 decimal.digits)
  let leading := decimal.leadingExponent
  let mantissa := figures.take 1 ++ (if figures.length ≤ 1 then [] else '.' :: figures.drop 1)
  let sign := if leading < 0 then ['-'] else ['+']
  String.ofList (mantissa ++ 'e' :: (sign ++ Nat.toDigits 10 leading.natAbs))

/-- The text of a positive decimal.  Numbers from `10 ^ -5` to below `10 ^ 16` are written
without exponent. -/
def text (decimal : Decimal) : String :=
  if -5 ≤ decimal.leadingExponent ∧ decimal.leadingExponent ≤ 15 then decimal.positional
  else decimal.exponential

end Decimal

namespace Double

/-- The double nearest to a magnitude that is not negative, of two equally near ones that with
an even significand.  Magnitudes that would round to a number beyond the largest double have
none. -/
def nearest? (negative : Bool) (magnitude : Rat) : Option Double :=
  if magnitude = 0 then some ⟨negative, 0, -1074⟩
  else
    let estimate : Int := (magnitude.num.natAbs.log2 : Int) - magnitude.den.log2
    let leading := if (2 : Rat) ^ estimate ≤ magnitude then estimate else estimate - 1
    let exponent := max (leading - 52) (-1074)
    let scaled := magnitude / (2 : Rat) ^ exponent
    let below := scaled.floor.toNat
    let remainder := scaled - below
    let significand :=
      if remainder < 1 / 2 ∨ (remainder = 1 / 2 ∧ below % 2 = 0) then below else below + 1
    let rounded : Double :=
      if significand = 2 * leastNormal then ⟨negative, leastNormal, exponent + 1⟩
      else ⟨negative, significand, exponent⟩
    if rounded.exponent ≤ 971 then some rounded else none

/-- The double nearest to a decimal, if that is not beyond the largest double. -/
def ofDecimal? (negative : Bool) (decimal : Decimal) : Option Double :=
  if decimal.digits = 0 ∨ decimal.leadingExponent < -400 then nearest? negative 0
  else if 400 < decimal.leadingExponent then none
  else nearest? negative ((decimal.digits : Rat) * (10 : Rat) ^ decimal.exponent)

/-- The text of a double. -/
def text (double : Double) : String :=
  let unsigned := if double.significand = 0 then "0.0" else double.shortest.text
  if double.negative then "-" ++ unsigned else unsigned

end Double

end ServiceBindings.Json
