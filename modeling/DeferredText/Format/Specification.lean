import DeferredText.Failure
import DeferredText.Text.Digit

/-!
Contract: the short notation that says how a value is laid out.

A specification is read from left to right: fill and alignment, sign, zero handling,
alternate form, zero padding, width, grouping, precision and presentation.

Owns: the specification, its reader, and the reader's errors.

Does not own: what a specification means for a value (`Format.Layout`).
-/

namespace DeferredText

inductive Alignment where
  | left
  | right
  | center
  /-- Padding goes between the sign and the digits. -/
  | afterSign
deriving DecidableEq, Repr

namespace Alignment

def ofChar? (character : Char) : Option Alignment :=
  if character = '<' then some .left
  else if character = '>' then some .right
  else if character = '^' then some .center
  else if character = '=' then some .afterSign
  else none

end Alignment

/-- Signs that may be asked for. -/
inductive SignChoice where
  | plus
  | minus
  | space
deriving DecidableEq, Repr

namespace SignChoice

def ofChar? (character : Char) : Option SignChoice :=
  if character = '+' then some .plus
  else if character = '-' then some .minus
  else if character = ' ' then some .space
  else none

end SignChoice

/-- Characters between groups of digits. -/
inductive Grouping where
  | comma
  | underscore
deriving DecidableEq, Repr

namespace Grouping

def character : Grouping → Char
  | .comma => ','
  | .underscore => '_'

end Grouping

structure Specification where
  fill : Char
  alignment : Alignment
  sign : Option SignChoice
  /-- Whether a negative zero is written as zero. -/
  dropsNegativeZero : Bool
  alternate : Bool
  width : Option Nat
  grouping : Option Grouping
  precision : Option Nat
  presentation : Option Char
deriving DecidableEq, Repr

namespace Specification

/-- Greatest number that may be written in a specification. -/
def numberLimit : Nat := Nat.pow 2 63 - 1

def tooManyDigits : Failure :=
  .badValue "Too many decimal digits in format string"

/-- Digits at the start of a text: how many there are, and their value. -/
def readDigits (text : List Char) : Nat × Nat :=
  let digits := text.takeWhile fun character => (decimalValue? character).isSome
  (digits.length,
    digits.foldl (fun total digit => total * 10 + (decimalValue? digit).getD 0) 0)

/-- An optional number at the start of a text, and the text after it. -/
def readNumber (text : List Char) : Outcome (Option Nat × List Char) :=
  let (count, number) := readDigits text
  if numberLimit < number then .error tooManyDigits
  else .ok (if count = 0 then none else some number, text.drop count)

/-- The fill character, if one is given, the alignment, and the text after both. -/
def readAlignment (text : List Char) : Option Char × Option Alignment × List Char :=
  match text with
  | first :: second :: rest =>
      match Alignment.ofChar? second with
      | some alignment => (some first, some alignment, rest)
      | none =>
          match Alignment.ofChar? first with
          | some alignment => (none, some alignment, second :: rest)
          | none => (none, none, text)
  | [only] =>
      match Alignment.ofChar? only with
      | some alignment => (none, some alignment, [])
      | none => (none, none, text)
  | [] => (none, none, [])

def readSign (text : List Char) : Option SignChoice × List Char :=
  match text with
  | first :: rest =>
      match SignChoice.ofChar? first with
      | some sign => (some sign, rest)
      | none => (none, text)
  | [] => (none, [])

/-- Whether a mark stands at the start of a text, and the text after it. -/
def readMark
    (mark : Char)
    (text : List Char) : Bool × List Char :=
  match text with
  | first :: rest => if first = mark then (true, rest) else (false, text)
  | [] => (false, [])

def readGrouping (text : List Char) : Outcome (Option Grouping × List Char) :=
  let both : Failure := .badValue "Cannot specify both ',' and '_'."
  let (hasComma, afterComma) := readMark ',' text
  let (hasUnderscore, afterUnderscore) := readMark '_' afterComma
  if hasComma && hasUnderscore then .error both
  else if hasComma then .ok (some .comma, afterComma)
  else if hasUnderscore then
    if (readMark ',' afterUnderscore).1 then .error both
    else .ok (some .underscore, afterUnderscore)
  else .ok (none, text)

def readPrecision (text : List Char) : Outcome (Option Nat × List Char) := do
  let (hasPoint, rest) := readMark '.' text
  if hasPoint then
    match ← readNumber rest with
    | (none, _) => throw (.badValue "Format specifier missing precision")
    | (some precision, further) => return (some precision, further)
  else return (none, text)

/-- A character inside an error: a visible one as itself, another by its number. -/
def shownCharacter
    (limit : Nat)
    (character : Char) : String :=
  if 32 < character.toNat ∧ character.toNat < limit then String.singleton character
  else "\\x" ++ String.ofList (Nat.toDigits 16 character.toNat)

/-- Presentations that digits may be grouped in, by the kind of grouping. -/
def allowsGrouping
    (grouping : Grouping)
    (presentation : Option Char) : Bool :=
  match presentation with
  | none => true
  | some character =>
      ['d', 'e', 'f', 'g', 'E', 'G', '%', 'F'].contains character ||
        (grouping == .underscore && ['b', 'o', 'x', 'X'].contains character)

def groupingRefused
    (grouping : Grouping)
    (presentation : Option Char) : Failure :=
  .badValue
    ("Cannot specify '" ++ String.singleton grouping.character ++ "' with '" ++
      shownCharacter 128 (presentation.getD ' ') ++ "'.")

/-- Reads a specification for values of the named type. -/
def read
    (typeName : String)
    (standardPresentation : Option Char)
    (standardAlignment : Alignment)
    (text : List Char) : Outcome Specification := do
  let (fill, alignment, afterAlignment) := readAlignment text
  let (sign, afterSign) := readSign afterAlignment
  let (dropsNegativeZero, afterZero) := readMark 'z' afterSign
  let (alternate, afterAlternate) := readMark '#' afterZero
  let (padsZeros, afterPadding) :=
    if fill.isSome then (false, afterAlternate) else readMark '0' afterAlternate
  let (width, afterWidth) ← readNumber afterPadding
  let (grouping, afterGrouping) ← readGrouping afterWidth
  let (precision, afterPrecision) ← readPrecision afterGrouping
  let presentation ←
    match afterPrecision with
    | [] => pure standardPresentation
    | [only] => pure (some only)
    | _ =>
        let whole := String.ofList text
        throw (.badValue
          s!"Invalid format specifier '{whole}' for object of type '{typeName}'")
  match grouping with
  | some chosen =>
      if !allowsGrouping chosen presentation then throw (groupingRefused chosen presentation)
  | none => pure ()
  return {
    fill := if padsZeros then '0' else fill.getD ' '
    alignment :=
      alignment.getD
        (if padsZeros && standardAlignment == .right then .afterSign else standardAlignment)
    sign := sign
    dropsNegativeZero := dropsNegativeZero
    alternate := alternate
    width := width
    grouping := grouping
    precision := precision
    presentation := presentation }

/-- Why a presentation does not suit a type. -/
def unknownPresentation
    (typeName : String)
    (presentation : Char) : Failure :=
  .badValue
    ("Unknown format code '" ++ shownCharacter 128 presentation ++ "' for object of type '" ++
      typeName ++ "'")

end Specification

end DeferredText
