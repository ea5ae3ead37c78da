import DeferredText.Format.Specification
import DeferredText.Number.Layout

/-!
Contract: numbers laid out by a specification.

A number is written as a sign, a marker of its base, digits that may be grouped, and
whatever follows the digits; the width is filled up by padding.

Owns: grouping, padding, presentations of integers and of binary64 data.

Does not own: reading specifications (`Format.Specification`).
-/

namespace DeferredText

namespace Format

/-- The parts of a laid out number. -/
structure NumberParts where
  negative : Bool
  marker : List Char
  digits : List Char
  /-- What follows the digits: a fraction, an exponent, a percent sign. -/
  tail : List Char

/-- Digits in groups counted from the right, with leading zeros up to a least width.
The digits are given from right to left, and so is the result. -/
def groupReversed
    (separator : Char)
    (size : Nat) : Nat → Nat → List Char → List Char
  | 0, _, digits => digits
  | fuel + 1, leastWidth, digits =>
      let count := min size (max (max digits.length leastWidth) 1)
      let group := digits.take count
      let filled := group ++ List.replicate (count - group.length) '0'
      let rest := digits.drop count
      if rest.isEmpty && leastWidth ≤ count then filled
      else filled ++ separator :: groupReversed separator size fuel (leastWidth - count - 1) rest

/-- Digits in groups, with leading zeros up to a least width. -/
def grouped
    (separator : Char)
    (size : Nat)
    (leastWidth : Nat)
    (digits : List Char) : List Char :=
  (groupReversed separator size (digits.length + leastWidth + 1) leastWidth
    digits.reverse).reverse

/-- Number of digits in a group. -/
def groupSize (specification : Specification) : Nat :=
  match specification.presentation with
  | some character => if ['b', 'o', 'x', 'X'].contains character then 4 else 3
  | none => 3

def signText
    (choice : Option SignChoice)
    (negative : Bool) : List Char :=
  if negative then ['-']
  else
    match choice with
    | some .plus => ['+']
    | some .space => [' ']
    | _ => []

/-- Padding before, inside and after a text that is too short by `missing`. -/
def padding
    (alignment : Alignment)
    (missing : Nat) : Nat × Nat × Nat :=
  match alignment with
  | .left => (0, 0, missing)
  | .center => (missing / 2, 0, missing - missing / 2)
  | .afterSign => (0, missing, 0)
  | .right => (missing, 0, 0)

/-- Puts the parts of a number together. -/
def assemble
    (specification : Specification)
    (parts : NumberParts) : List Char :=
  let sign := signText specification.sign parts.negative
  let width := specification.width.getD 0
  let around := sign.length + parts.marker.length + parts.tail.length
  let leastWidth :=
    if specification.fill = '0' ∧ specification.alignment = .afterSign then width - around else 0
  let digits :=
    if parts.digits.isEmpty then []
    else
      match specification.grouping with
      | some grouping =>
          grouped grouping.character (groupSize specification) leastWidth parts.digits
      | none => Decimal.zeros (leastWidth - parts.digits.length) ++ parts.digits
  let (before, inside, after) :=
    padding specification.alignment (width - (around + digits.length))
  let fill (count : Nat) : List Char := List.replicate count specification.fill
  fill before ++ sign ++ parts.marker ++ fill inside ++ digits ++ parts.tail ++ fill after

/-! ### Integers -/

def upperDigits (digits : List Char) : List Char :=
  digits.map Char.toUpper

/-- Base and marker of an integer presentation. -/
def integerBase (presentation : Char) : Nat × List Char :=
  if presentation = 'b' then (2, ['0', 'b'])
  else if presentation = 'o' then (8, ['0', 'o'])
  else if presentation = 'x' then (16, ['0', 'x'])
  else if presentation = 'X' then (16, ['0', 'X'])
  else (10, [])

/-- Digits of a natural, with the bound on decimal digits. -/
def baseDigits
    (base number : Nat) : Outcome (List Char) :=
  let digits := Nat.toDigits base number
  if base = 10 ∧ 4300 < digits.length then .error .digitLimit else .ok digits

/-- The character an integer stands for. -/
def characterParts
    (specification : Specification)
    (number : Int) : Outcome NumberParts :=
  if specification.sign.isSome then
    .error (.badValue "Sign not allowed with integer format specifier 'c'")
  else if specification.alternate then
    .error (.badValue "Alternate form (#) not allowed with integer format specifier 'c'")
  else if number < -(Nat.pow 2 63 : Nat) ∨ (Nat.pow 2 63 : Nat) ≤ number then
    .error (.withMessage .overflow "Python int too large to convert to C long")
  else if number < 0 ∨ 0x10FFFF < number then
    .error (.withMessage .overflow "%c arg not in range(0x110000)")
  else
    .ok
      { negative := false
        marker := []
        digits := []
        tail := [Char.ofNat number.toNat] }

def integerParts
    (specification : Specification)
    (presentation : Char)
    (number : Int) : Outcome NumberParts := do
  if specification.precision.isSome then
    throw (.badValue "Precision not allowed in integer format specifier")
  if specification.dropsNegativeZero then
    throw (.badValue "Negative zero coercion (z) not allowed in integer format specifier")
  if presentation = 'c' then characterParts specification number
  else
    let (base, marker) := integerBase presentation
    let digits ← baseDigits base number.natAbs
    return {
      negative := number < 0
      marker := if specification.alternate then marker else []
      digits := if presentation = 'X' then upperDigits digits else digits
      tail := [] }

/-! ### Binary64 data -/

/-- Drops zeros at the end of a fraction. -/
def stripFraction (digits : List Char) : List Char :=
  (digits.reverse.dropWhile fun digit => digit == '0').reverse

/-- A fraction after its point; an empty one has a point only in alternate form. -/
def fractionText
    (alternate : Bool)
    (fraction : List Char) : List Char :=
  if fraction.isEmpty && !alternate then [] else '.' :: fraction

/-- Digits before the point and what follows them, in fixed notation. -/
def fixedParts
    (alternate : Bool)
    (numerator denominator places : Nat) : List Char × List Char :=
  let digits := Decimal.padded (places + 1) (Decimal.fixedUnits numerator denominator places)
  let whole := digits.length - places
  (digits.take whole, fractionText alternate (digits.drop whole))

/-- Digits before the point and what follows them, in scientific notation. -/
def scientificParts
    (alternate : Bool)
    (digits : List Char)
    (magnitude : Int) : List Char × List Char :=
  (digits.take 1,
    fractionText alternate (digits.drop 1) ++ 'e' :: Decimal.exponentText magnitude)

/-- Significant digits and the decimal exponent of the first one. -/
def significantDigits
    (numerator denominator count : Nat) : List Char × Int :=
  let decimal := Decimal.significant numerator denominator count
  let digits := Decimal.padded count decimal.digits
  (digits, if decimal.digits = 0 then 0 else decimal.exponent + (count : Int) - 1)

/-- General notation: `count` significant digits without zeros at the end, positional
for moderate exponents. `keepsFraction` asks for at least one digit after the point. -/
def generalParts
    (alternate keepsFraction : Bool)
    (numerator denominator count : Nat) : List Char × List Char :=
  let (digits, magnitude) := significantDigits numerator denominator count
  let kept := if alternate then digits else stripFraction digits
  let shown := if kept.isEmpty then ['0'] else kept
  let limit : Int := if keepsFraction then (count : Int) - 1 else (count : Int)
  if magnitude < -4 ∨ limit ≤ magnitude then scientificParts alternate shown magnitude
  else if 0 ≤ magnitude then
    let wholeLength := magnitude.toNat + 1
    let whole := shown.take wholeLength
    let fraction := shown.drop wholeLength
    let full := whole ++ Decimal.zeros (wholeLength - whole.length)
    if fraction.isEmpty && keepsFraction then (full, ['.', '0'])
    else (full, fractionText alternate fraction)
  else
    (['0'], '.' :: Decimal.zeros ((-magnitude).toNat - 1) ++ shown)

/-- Shortest notation, split at the end of the digits before the point. In alternate
form there is a point in any case. -/
def plainParts
    (alternate : Bool)
    (datum : Binary64) : List Char × List Char :=
  let text := NumberLayout.plain.magnitudeText datum
  let tail := text.dropWhile Char.isDigit
  (text.takeWhile Char.isDigit,
    if alternate && tail.head? != some '.' then '.' :: tail else tail)

/-- A magnitude in a presentation: the digits before the point and what follows. -/
def magnitudeParts
    (specification : Specification)
    (datum : Binary64)
    (mantissa : Nat)
    (exponent : Int) : List Char × List Char :=
  let (numerator, denominator) := Binary64.ratio mantissa exponent
  let alternate := specification.alternate
  let precision := specification.precision.getD 6
  match specification.presentation with
  | none =>
      match specification.precision with
      | none => plainParts alternate datum
      | some count => generalParts alternate true numerator denominator (max count 1)
  | some presentation =>
      if presentation = 'e' ∨ presentation = 'E' then
        let (digits, magnitude) := significantDigits numerator denominator (precision + 1)
        scientificParts alternate digits magnitude
      else if presentation = 'f' ∨ presentation = 'F' then
        fixedParts alternate numerator denominator precision
      else if presentation = '%' then
        let (whole, rest) := fixedParts alternate numerator denominator precision
        (whole, rest ++ ['%'])
      else generalParts alternate false numerator denominator (max precision 1)

/-- Whether every digit written is zero. -/
def showsZero (digits tail : List Char) : Bool :=
  (digits ++ tail.takeWhile fun character => character == '.' || character.isDigit).all
    fun character => character == '0' || character == '.'

/-- Texts of the data that have no digits. -/
def specialText (datum : Binary64) : List Char :=
  NumberLayout.plain.magnitudeText datum

def binaryParts
    (specification : Specification)
    (datum : Binary64) : NumberParts :=
  let scaled :=
    if specification.presentation = some '%' then datum.mul (Binary64.ofInt 100) else datum
  let upper (text : List Char) : List Char :=
    match specification.presentation with
    | some presentation =>
        if ['E', 'F', 'G'].contains presentation then upperDigits text else text
    | none => text
  match scaled with
  | .finite negative mantissa exponent =>
      let (digits, tail) := magnitudeParts specification scaled.abs mantissa exponent
      { negative := negative && !(specification.dropsNegativeZero && showsZero digits tail)
        marker := []
        digits := digits
        tail := upper tail }
  | special =>
      let percent := if specification.presentation = some '%' then ['%'] else []
      { negative := special.isNegative
        marker := []
        digits := []
        tail := upper (specialText special) ++ percent }

/-- Whether a presentation is one of binary64 data. -/
def isBinaryPresentation (presentation : Char) : Bool :=
  ['e', 'E', 'f', 'F', 'g', 'G', '%'].contains presentation

/-- A datum laid out by a specification. -/
def binary
    (specification : Specification)
    (datum : Binary64) : Outcome (List Char) :=
  if specification.precision.any fun precision => Nat.pow 2 31 - 1 < precision then
    .error (.badValue "precision too big")
  else .ok (assemble specification (binaryParts specification datum))

end Format

end DeferredText
