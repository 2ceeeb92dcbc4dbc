/-!
# Shortest decimals

The shortest decimal of a binary floating-point number: of the decimals that
round to the number, one with the fewest digits, and of these the nearest.

A positive number is `significand * 2 ^ exponent`.  The decimals that round to
it lie between the middles to its neighbours, ends included when the
significand is even.  On the grid of decimals with a given number of digits, if
any point rounds to the number, so does one of the two points next to it.
-/

namespace RCompletion
namespace Decimal

/-- A positive fraction. -/
structure Fraction where
  /-- The numerator. -/
  numerator : Nat
  /-- The denominator. -/
  denominator : Nat

/-- A number times a power of a base, which may be negative. -/
def Fraction.scaled (number base : Nat) (exponent : Int) : Fraction :=
  if 0 ≤ exponent then
    ⟨number * Nat.pow base exponent.toNat, 1⟩
  else
    ⟨number, Nat.pow base (-exponent).toNat⟩

/-- Whether a fraction is less than another one. -/
def Fraction.lt (left right : Fraction) : Bool :=
  left.numerator * right.denominator < right.numerator * left.denominator

/-- A number with its decimal exponent. -/
structure Digits where
  /-- The digits, as a number. -/
  digits : Nat
  /-- The power of ten that they count. -/
  exponent : Int
deriving Repr, DecidableEq

/-- A positive floating-point number. -/
structure Binary where
  /-- The significand. -/
  significand : Nat
  /-- The power of two that it counts. -/
  exponent : Int
  /-- Whether the neighbour below is only half as far as the one above. -/
  narrowBelow : Bool
deriving Repr, DecidableEq

/-- The value of a number. -/
def Binary.value (number : Binary) : Fraction :=
  .scaled number.significand 2 number.exponent

/-- The middle between a number and the neighbour above. -/
def Binary.upper (number : Binary) : Fraction :=
  .scaled (2 * number.significand + 1) 2 (number.exponent - 1)

/-- The middle between a number and the neighbour below. -/
def Binary.lower (number : Binary) : Fraction :=
  if number.narrowBelow then
    .scaled (4 * number.significand - 1) 2 (number.exponent - 2)
  else
    .scaled (2 * number.significand - 1) 2 (number.exponent - 1)

/-- Whether a fraction rounds to a number. -/
def Binary.admits (number : Binary) (fraction : Fraction) : Bool :=
  if number.significand % 2 = 0 then
    !fraction.lt number.lower && !number.upper.lt fraction
  else
    number.lower.lt fraction && fraction.lt number.upper

/-- The number of decimal digits of a number. -/
def digitCount (number : Nat) : Nat :=
  (Nat.toDigits 10 number).length

/-- The largest power of ten that is at most a positive fraction. -/
def Fraction.magnitude (fraction : Fraction) : Int :=
  let estimate : Int :=
    digitCount fraction.numerator - digitCount fraction.denominator
  if fraction.lt (.scaled 1 10 estimate) then estimate - 1 else estimate

/-- The decimal with so many digits that is nearest to a number, if it rounds to it. -/
def Binary.withDigits? (number : Binary) (count : Nat) : Option Digits :=
  let value := number.value
  let exponent := value.magnitude - count + 1
  let grid := Fraction.scaled 1 10 exponent
  let scaledNumerator := value.numerator * grid.denominator
  let scaledDenominator := value.denominator * grid.numerator
  let below := scaledNumerator / scaledDenominator
  let twice := 2 * (scaledNumerator % scaledDenominator)
  let preferAbove :=
    scaledDenominator < twice ||
      (twice == scaledDenominator && below % 2 == 1)
  let candidates := if preferAbove then [below + 1, below] else [below, below + 1]
  (candidates.find? fun digits =>
    number.admits (.scaled digits 10 exponent)).map (⟨·, exponent⟩)

/-- A decimal without zeros at its end, given a bound on their number. -/
def Digits.dropZeros : Nat → Digits → Digits
  | 0, decimal => decimal
  | bound + 1, decimal =>
      if decimal.digits % 10 = 0 ∧ decimal.digits ≠ 0 then
        dropZeros bound ⟨decimal.digits / 10, decimal.exponent + 1⟩
      else
        decimal

/-- The number of digits that always suffices. -/
def sufficientDigits : Nat := 17

/-- The shortest decimal of a number. -/
def Binary.shortest (number : Binary) : Digits :=
  let found := (List.range sufficientDigits).findSome? fun count =>
    number.withDigits? (count + 1)
  (found.getD ⟨number.significand, 0⟩).dropZeros sufficientDigits

/-- The positive number with the given bits, of which the sign is left out. -/
def Binary.ofBits (bits : Nat) : Binary :=
  let fraction : Nat := bits % Nat.pow 2 52
  let biased : Nat := bits / Nat.pow 2 52 % Nat.pow 2 11
  if biased = 0 then
    { significand := fraction, exponent := -1074, narrowBelow := false }
  else
    { significand := fraction + Nat.pow 2 52
      exponent := (biased : Int) - 1075
      narrowBelow := fraction == 0 && decide (1 < biased) }

/-! ## Text -/

/-- How a decimal is written. -/
structure Layout where
  /-- The smallest power of ten that is written without an exponent. -/
  leastFixed : Int
  /-- The largest power of ten that is written without an exponent. -/
  mostFixed : Int
  /-- What comes before an exponent that is not negative. -/
  plus : String

/-- The text of positive digits. -/
def Layout.positive (layout : Layout) (decimal : Digits) : String :=
  let digits := Nat.toDigits 10 decimal.digits
  let leading : Int := decimal.exponent + digits.length - 1
  if layout.leastFixed ≤ leading && leading ≤ layout.mostFixed then
    if 0 ≤ decimal.exponent then
      String.ofList (digits ++ List.replicate decimal.exponent.toNat '0') ++ ".0"
    else if 0 ≤ leading then
      let whole := leading.toNat + 1
      String.ofList (digits.take whole) ++ "." ++ String.ofList (digits.drop whole)
    else
      "0." ++ String.ofList (List.replicate (-leading - 1).toNat '0' ++ digits)
  else
    let point := if digits.length = 1 then "" else "."
    let sign := if leading < 0 then "-" else layout.plus
    String.ofList (digits.take 1) ++ point ++ String.ofList (digits.drop 1) ++
      "e" ++ sign ++ toString leading.natAbs

/-- The text of a finite floating-point number. -/
def Layout.text (layout : Layout) (number : Float) : String :=
  let bits := number.toBits.toNat
  let sign := if bits / Nat.pow 2 63 = 1 then "-" else ""
  let magnitude := bits % Nat.pow 2 63
  if magnitude = 0 then
    sign ++ "0.0"
  else
    sign ++ layout.positive (Binary.ofBits magnitude).shortest

end Decimal
end RCompletion
