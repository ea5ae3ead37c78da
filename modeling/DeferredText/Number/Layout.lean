import DeferredText.Number.Shortest

/-!
Contract: decimal text of binary64 numbers.

`NumberLayout` records every decision of the notation: where positional notation
ends, whether a whole number keeps a fraction, and the texts of the special data.

Owns: plain, record and complex notation; fixed and scientific digit strings.

Does not own: format specifications (`Format.Number`).
-/

namespace DeferredText

structure NumberLayout where
  /-- Least decimal exponent written positionally. -/
  leastPositional : Int
  /-- Decimal exponents from here on are written with an exponent mark. -/
  positionalLimit : Int
  /-- Whether a whole number is written with a fraction of one zero. -/
  keepsFraction : Bool
  notANumber : String
  infinity : String

namespace NumberLayout

/-- Values as they are written inside other values. -/
def plain : NumberLayout := ⟨-4, 16, true, "nan", "inf"⟩

/-- Numbers of a record line. -/
def record : NumberLayout := ⟨-4, 16, true, "NaN", "Infinity"⟩

/-- Parts of a complex number, which drop the fraction of a whole number. -/
def complexPart : NumberLayout := ⟨-4, 16, false, "nan", "inf"⟩

end NumberLayout

namespace Decimal

def digitText (number : Nat) : List Char :=
  Nat.toDigits 10 number

def zeros (count : Nat) : List Char :=
  List.replicate count '0'

/-- Digits padded on the left to a least width. -/
def padded
    (width number : Nat) : List Char :=
  let digits := digitText number
  zeros (width - digits.length) ++ digits

/-- `units` of `10 ^ (-places)` in positional notation. -/
def fixedText
    (units places : Nat) : List Char :=
  if places = 0 then digitText units
  else
    let digits := padded (places + 1) units
    digits.take (digits.length - places) ++ '.' :: digits.drop (digits.length - places)

/-- Sign and at least two digits of a decimal exponent. -/
def exponentText (exponent : Int) : List Char :=
  (if exponent < 0 then '-' else '+') :: padded 2 exponent.natAbs

/-- Digits with the point after the first one, followed by an exponent. -/
def scientificText
    (digits : List Char)
    (mark : Char)
    (exponent : Int) : List Char :=
  match digits with
  | [] => []
  | first :: rest =>
      first :: (if rest.isEmpty then [] else '.' :: rest) ++ mark :: exponentText exponent

end Decimal

namespace NumberLayout

/-- Text of a decimal in the notation of `layout`. -/
def decimalText
    (layout : NumberLayout)
    (decimal : Decimal) : List Char :=
  let digits := Decimal.digitText decimal.digits
  let magnitude := decimal.exponent + (digits.length : Int) - 1
  if decimal.digits = 0 then
    if layout.keepsFraction then ['0', '.', '0'] else ['0']
  else if layout.leastPositional ≤ magnitude ∧ magnitude < layout.positionalLimit then
    if 0 ≤ decimal.exponent then
      digits ++ Decimal.zeros decimal.exponent.toNat ++
        (if layout.keepsFraction then ['.', '0'] else [])
    else Decimal.fixedText decimal.digits (-decimal.exponent).toNat
  else Decimal.scientificText digits 'e' magnitude

def magnitudeText
    (layout : NumberLayout)
    (datum : Binary64) : List Char :=
  match datum with
  | .nan => layout.notANumber.toList
  | .infinite _ => layout.infinity.toList
  | .finite _ mantissa exponent => layout.decimalText (Decimal.shortest mantissa exponent)

/-- Text of a datum in the notation of `layout`. -/
def text
    (layout : NumberLayout)
    (datum : Binary64) : String :=
  String.ofList ((if datum.isNegative then ['-'] else []) ++ layout.magnitudeText datum)

end NumberLayout

namespace Binary64

/-- The datum with exactly `places` digits after the point, rounded from its exact value. -/
def fixedText
    (datum : Binary64)
    (places : Nat) : String :=
  match datum with
  | .finite negative mantissa exponent =>
      let pair := ratio mantissa exponent
      String.ofList
        ((if negative then ['-'] else []) ++
          Decimal.fixedText (Decimal.fixedUnits pair.1 pair.2 places) places)
  | _ => NumberLayout.plain.text datum

/-- A complex number: the imaginary part alone if the real part is positive zero,
otherwise both in parentheses. -/
def complexText
    (realPart imaginaryPart : Binary64) : String :=
  let imaginary := NumberLayout.complexPart.text imaginaryPart
  if realPart.isZero && !realPart.isNegative then
    imaginary ++ "j"
  else
    let sign := if imaginaryPart.isNegative then "" else "+"
    "(" ++ NumberLayout.complexPart.text realPart ++ sign ++ imaginary ++ "j)"

end Binary64

end DeferredText
