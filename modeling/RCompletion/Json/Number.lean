import RCompletion.Decimal.Shortest
import RCompletion.Json.Scan

/-!
# Numbers of a JSON text

A number without fraction and exponent that fits into 64 bits is an integer,
except for a negative zero.  Every other number is read as a floating-point
number, from as many leading digits as fit into 64 bits and a power of ten.
-/

namespace RCompletion
namespace Json

/-- A number of a text. -/
inductive Number where
  /-- An integer. -/
  | integer (value : Int)
  /-- Any other number. -/
  | float (value : Float)

/-- Numbers in messages have an exponent below 10^-5 and from 10^16 on. -/
def messageLayout : Decimal.Layout where
  leastFixed := -5
  mostFixed := 15
  plus := "+"

/-- How messages show a number that stands in the place of another value. -/
def Number.found : Number → Found
  | integer value => .integer value
  | float value => .decimal (messageLayout.text value)

/-! ## Reading digits -/

/-- The bound of the numbers of 64 bits. -/
def bound64 : Nat := Nat.pow 2 64

/-- The value of a decimal digit. -/
def digitValue (digit : Char) : Nat :=
  digit.toNat - '0'.toNat

/-- The number that digits write. -/
def digitsValue (digits : List Char) : Nat :=
  digits.foldl (fun value digit => value * 10 + digitValue digit) 0

/-- Leading digits of a number and the power of ten that they count. -/
structure Significand where
  /-- The digits that were taken over. -/
  value : Nat
  /-- The power of ten. -/
  exponent : Int

/-- Take over digits before the point while they fit; the others count as zeros. -/
def Significand.whole (significand : Significand) : List Char → Significand
  | [] => significand
  | digit :: digits =>
      let next := significand.value * 10 + digitValue digit
      if next < bound64 then
        Significand.whole { significand with value := next } digits
      else
        { significand with
          exponent := significand.exponent + (digit :: digits).length }

/-- Take over digits after the point while they fit; the others are left out. -/
def Significand.fraction (significand : Significand) : List Char → Significand
  | [] => significand
  | digit :: digits =>
      let next := significand.value * 10 + digitValue digit
      if next < bound64 then
        Significand.fraction ⟨next, significand.exponent - 1⟩ digits
      else
        significand

/-- The largest power of ten that a floating-point number can be. -/
def largestPower : Nat := 308

/-- A power of ten as a floating-point number. -/
def powerOfTen (exponent : Nat) : Float :=
  Float.ofScientific 1 false exponent

/-- Divide by a power of ten, in steps that floating-point numbers allow. -/
def divideByPower : Nat → Float → Nat → Float
  | 0, value, _ => value
  | steps + 1, value, exponent =>
      if exponent ≤ largestPower then
        value / powerOfTen exponent
      else
        divideByPower steps (value / powerOfTen largestPower)
          (exponent - largestPower)

/-- The divisions after which every significand has become zero. -/
def divisionLimit : Nat := 4

/-- The floating-point number of a significand, unless it is too large. -/
def Significand.float? (significand : Significand) : Option Float :=
  let value := (UInt64.ofNat significand.value).toFloat
  if significand.exponent < 0 then
    some (divideByPower divisionLimit value significand.exponent.natAbs)
  else if significand.exponent.toNat ≤ largestPower then
    let product := value * powerOfTen significand.exponent.toNat
    if product.isInf then none else some product
  else if significand.value = 0 then
    some value
  else
    none

/-! ## Reading numbers -/

/-- The parts of a number, as they are written. -/
structure WrittenNumber where
  /-- Whether a minus sign comes first. -/
  negative : Bool
  /-- The digits before the point. -/
  whole : List Char
  /-- The digits after the point, if there is one. -/
  fraction : Option (List Char)
  /-- Whether the exponent is negative, and its digits, if there is one. -/
  exponent : Option (Bool × List Char)

/-- The bound of the exponents that count. -/
def exponentBound : Nat := Nat.pow 2 31

/-- The value of a written number, unless it is too large. -/
def WrittenNumber.value? (number : WrittenNumber) : Option Number :=
  let signed (value : Float) : Number := .float (if number.negative then -value else value)
  let whole := digitsValue number.whole
  if number.fraction.isNone && number.exponent.isNone && whole < bound64 then
    if !number.negative then
      some (.integer whole)
    else if 0 < whole && whole ≤ Nat.pow 2 63 then
      some (.integer (-whole))
    else
      some (signed (UInt64.ofNat whole).toFloat)
  else
    let significand :=
      (Significand.whole ⟨0, 0⟩ number.whole).fraction (number.fraction.getD [])
    match number.exponent with
    | none => significand.float?.map signed
    | some (below, digits) =>
        let power := digitsValue digits
        if exponentBound ≤ power then
          if below || significand.value = 0 then some (signed 0.0) else none
        else
          let shift : Int := if below then -power else power
          let shifted :=
            { significand with exponent := significand.exponent + shift }
          shifted.float?.map signed

/-- The problem of a number that lacks a digit. -/
def lacksDigit (rest : List Char) : Error :=
  if rest.isEmpty then .truncated else .malformed

/-- Read the digits before the point. -/
def readWhole (text : List Char) : Except Error (List Char × List Char) :=
  match text with
  | '0' :: rest =>
      if rest.head?.any Char.isDigit then
        .error .malformed
      else
        .ok (['0'], rest)
  | _ =>
      let digits := text.takeWhile Char.isDigit
      let rest := text.dropWhile Char.isDigit
      if digits.isEmpty then .error (lacksDigit rest) else .ok (digits, rest)

/-- Read the digits after the point, if there is one. -/
def readFraction (text : List Char) :
    Except Error (Option (List Char) × List Char) :=
  match text with
  | '.' :: rest =>
      let digits := rest.takeWhile Char.isDigit
      let after := rest.dropWhile Char.isDigit
      if digits.isEmpty then
        .error (lacksDigit after)
      else
        .ok (some digits, after)
  | _ => .ok (none, text)

/-- The sign of an exponent and the text after it. -/
def exponentSign (text : List Char) : Bool × List Char :=
  match text with
  | '+' :: rest => (false, rest)
  | '-' :: rest => (true, rest)
  | _ => (false, text)

/-- Read an exponent, if there is one. -/
def readExponent (text : List Char) :
    Except Error (Option (Bool × List Char) × List Char) :=
  match text with
  | [] => .ok (none, [])
  | letter :: rest =>
      if letter = 'e' ∨ letter = 'E' then
        let (below, rest) := exponentSign rest
        let digits := rest.takeWhile Char.isDigit
        let after := rest.dropWhile Char.isDigit
        if digits.isEmpty then
          .error (lacksDigit after)
        else
          .ok (some (below, digits), after)
      else
        .ok (none, letter :: rest)

/-- Read the parts of a number. -/
def readWrittenNumber (text : List Char) :
    Except Error (WrittenNumber × List Char) := do
  let negative := text.head? == some '-'
  let (whole, rest) ← readWhole (if negative then text.drop 1 else text)
  let (fraction, rest) ← readFraction rest
  let (exponent, rest) ← readExponent rest
  return (⟨negative, whole, fraction, exponent⟩, rest)

/-- Read a number. -/
def readNumber (text : List Char) : Except Error (Number × List Char) := do
  let (written, rest) ← readWrittenNumber text
  match written.value? with
  | some value => return (value, rest)
  | none => throw .malformed

/-- Skip a number; one that lacks a digit is malformed even at the end. -/
def skipNumber (text : List Char) : Except Error (List Char) :=
  match readWrittenNumber text with
  | .ok (_, rest) => .ok rest
  | .error _ => .error .malformed

end Json
end RCompletion
