import DeferredText.Text.Blank
import DeferredText.Text.Digit
import DeferredText.Text.Quoted
import DeferredText.Text.Search
import DeferredText.Value.Text

/-!
Contract: numbers in YAML texts.

Low lines in numbers have no meaning. Parts between colons count sixties.

Owns: reading whole numbers and numbers with a point, with the failures of texts
that are not numbers.

Does not own: when a scalar is taken for a number (`Yaml.Schema`).
-/

namespace DeferredText.Yaml

namespace Numeral

/-- Whether a text starts with a minus sign, and the text behind a sign. -/
def signed : List Char → Bool × List Char
  | '-' :: rest => (true, rest)
  | '+' :: rest => (false, rest)
  | text => (false, text)

/-- Value of a digit or of a letter that stands for one. -/
def digitValue? (digit : Char) : Option Nat :=
  match decimalValue? digit with
  | some value => some value
  | none =>
      let letter := digit.toLower
      if 'a' ≤ letter ∧ letter ≤ 'z' then some (letter.toNat - 'a'.toNat + 10) else none

/-- The digits of a text in a base, if there are only such. -/
def digitsIn?
    (base : Nat)
    (text : List Char) : Option (List Nat) := do
  let digits ← text.mapM digitValue?
  if !digits.isEmpty && digits.all (· < base) then some digits else none

def valueIn
    (base : Nat)
    (digits : List Nat) : Nat :=
  digits.foldl (fun total digit => total * base + digit) 0

/-- The letter that may follow a zero in front of the digits of a base. -/
def baseMark? (base : Nat) : Option Char :=
  if base = 2 then some 'b'
  else if base = 8 then some 'o'
  else if base = 16 then some 'x'
  else none

def withoutBase
    (base : Nat)
    (text : List Char) : List Char :=
  match text with
  | '0' :: mark :: rest => if baseMark? base = some mark.toLower then rest else text
  | _ => text

/-- First characters of a quoted text that a failure shows. -/
def shownStart (text : List Char) : String :=
  String.ofList ((quotedText (String.ofList text)).toList.take 200)

/-- A whole number in a base, with blanks and a sign around its digits. -/
def whole
    (base : Nat)
    (text : List Char) : Outcome Int :=
  let (isNegative, unsigned) := signed (trimBlank text)
  match digitsIn? base (withoutBase base unsigned) with
  | some digits =>
      let count := digits.length
      if base = 10 ∧ digitBound < count then
        .error (.badValue
          s!"Exceeds the limit (4300 digits) for integer string conversion: value has {count} digits; use sys.set_int_max_str_digits() to increase the limit")
      else
        let magnitude : Int := valueIn base digits
        .ok (if isNegative then -magnitude else magnitude)
  | none =>
      let shown := shownStart text
      .error (.badValue s!"invalid literal for int() with base {base}: {shown}")

/-- The exponent behind the digits of a number. -/
def exponent? (text : List Char) : Option Int :=
  match text with
  | [] => some 0
  | mark :: rest =>
      if mark.toLower != 'e' then none
      else
        let (isNegative, digits) := signed rest
        (digitsIn? 10 digits).map fun found =>
          if isNegative then -(valueIn 10 found : Int) else valueIn 10 found

/-- A number without its sign. -/
def unsigned?
    (isNegative : Bool)
    (text : List Char) : Option Binary64 := do
  let isDigit (character : Char) : Bool := (decimalValue? character).isSome
  let lower := String.ofList (text.map Char.toLower)
  if lower == "inf" || lower == "infinity" then some (.infinite isNegative)
  else if lower == "nan" then some .nan
  else
    let wholePart := text.takeWhile isDigit
    let afterWhole := text.dropWhile isDigit
    let (fraction, afterFraction) :=
      match afterWhole with
      | '.' :: rest => (rest.takeWhile isDigit, rest.dropWhile isDigit)
      | other => ([], other)
    let digits ← digitsIn? 10 (wholePart ++ fraction)
    let exponent ← exponent? afterFraction
    return Binary64.ofDecimal isNegative (valueIn 10 digits) (exponent - fraction.length)

/-- A number that may have a point and an exponent. -/
def real (text : List Char) : Outcome Binary64 :=
  let (isNegative, unsigned) := signed (trimBlank text)
  match unsigned? isNegative unsigned with
  | some datum => .ok datum
  | none =>
      let shown := quotedText (String.ofList text)
      .error (.badValue s!"could not convert string to float: {shown}")

def withoutLines (text : List Char) : List Char :=
  text.filter fun character => character != '_'

/-- The text has no first character. -/
def emptyText : Failure :=
  .withMessage .outOfRange "string index out of range"

/-- The whole number that a scalar spells. -/
def integer (text : List Char) : Outcome Int := do
  let plain := withoutLines text
  if plain.isEmpty then throw emptyText
  let (isNegative, unsigned) := signed plain
  let magnitude ←
    match unsigned with
    | [] => throw emptyText
    | ['0'] => pure 0
    | '0' :: 'b' :: digits => whole 2 digits
    | '0' :: 'x' :: digits => whole 16 digits
    | '0' :: _ => whole 8 unsigned
    | _ =>
        if unsigned.contains ':' then do
          let parts ← (splitOnChar ':' unsigned).mapM (whole 10)
          pure (parts.foldl (fun total part => total * 60 + part) 0)
        else whole 10 unsigned
  return if isNegative then -magnitude else magnitude

/-- A sum of sixties, the last part first. -/
def sixtieths : Nat → List Binary64 → Binary64 → Binary64
  | _, [], total => total
  | base, part :: rest, total =>
      sixtieths (base * 60) rest (total.add (part.mul (.ofInt base)))

/-- The number that a scalar spells. -/
def float (text : List Char) : Outcome Binary64 := do
  let plain := (withoutLines text).map Char.toLower
  if plain.isEmpty then throw emptyText
  let (isNegative, unsigned) := signed plain
  let magnitude ←
    if unsigned == ".inf".toList then pure (Binary64.infinite false)
    else if unsigned == ".nan".toList then pure Binary64.nan
    else if unsigned.contains ':' then do
      let parts ← (splitOnChar ':' unsigned).mapM real
      pure (sixtieths 1 parts.reverse (.zero false))
    else real unsigned
  return if isNegative then magnitude.neg else magnitude

end Numeral

end DeferredText.Yaml
