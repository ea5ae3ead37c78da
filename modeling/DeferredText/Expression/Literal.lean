import DeferredText.Value.Text

/-!
Contract: numbers and quoted texts as they are written in expressions.

Owns: integers in four bases, decimal and imaginary numbers, escapes in quoted texts
and byte strings.

Does not own: where a literal ends inside an expression, apart from numbers, and
texts with embedded expressions (`Expression.Parse`).
-/

namespace DeferredText

namespace NumberLiteral

/-- Characters that could continue a name. -/
def continuesName (character : Char) : Bool :=
  character.isAlphanum || character == '_' || 128 ≤ character.toNat

/-- Words that may follow a number without a blank. -/
def wordsAfterNumber : List String :=
  ["and", "else", "for", "if", "in", "is", "or", "not"]

/-- Whether a number may end where `rest` follows. -/
def endsBefore (rest : List Char) : Bool :=
  match rest with
  | [] => true
  | head :: _ =>
      !continuesName head || wordsAfterNumber.any fun word => word.toList.isPrefixOf rest

/-- More digits after at least one; a single underscore may stand between two digits. -/
def digitTail
    (isDigit : Char → Bool) : List Char → Option (List Char × List Char)
  | [] => some ([], [])
  | head :: rest =>
      if isDigit head then
        (digitTail isDigit rest).map fun pair => (head :: pair.1, pair.2)
      else if head = '_' then
        match rest with
        | next :: _ => if isDigit next then digitTail isDigit rest else none
        | [] => none
      else some ([], head :: rest)

def digitValue (digit : Char) : Nat :=
  if digit.isDigit then digit.toNat - '0'.toNat else digit.toLower.toNat - 'a'.toNat + 10

def valueOf
    (base : Nat)
    (digits : List Char) : Nat :=
  digits.foldl (fun total digit => total * base + digitValue digit) 0

def isHexDigit (character : Char) : Bool :=
  character.isDigit || ('a' ≤ character.toLower && character.toLower ≤ 'f')

/-- Digits of an integer after the mark of its base; an underscore may stand first. -/
def basedInteger?
    (base : Nat)
    (text : List Char) : Option (Value × List Char) :=
  let isDigit (character : Char) : Bool :=
    isHexDigit character && digitValue character < base
  let start := if text.head? = some '_' then text.drop 1 else text
  match start with
  | head :: _ =>
      if isDigit head then
        match digitTail isDigit start with
        | some (digits, rest) =>
            let spoiled := (rest.head?.map Char.isDigit).getD false
            if spoiled || !endsBefore rest then none
            else some (.int (valueOf base digits : Nat), rest)
        | none => none
      else none
  | [] => none

/-- Digits that must be there, or none if the text does not start with one. -/
def optionalDigits (text : List Char) : Option (List Char × List Char) :=
  match text with
  | head :: _ => if head.isDigit then digitTail Char.isDigit text else some ([], text)
  | [] => some ([], [])

/-- An exponent after `e` or `E`, if one is there. -/
def exponent? (text : List Char) : Option (Option Int × List Char) :=
  match text with
  | mark :: rest =>
      if mark = 'e' ∨ mark = 'E' then
        let sign := rest.head?.filter fun character => character == '+' || character == '-'
        let digitsText := if sign.isSome then rest.drop 1 else rest
        match digitsText with
        | head :: _ =>
            if head.isDigit then
              (digitTail Char.isDigit digitsText).map fun pair =>
                let magnitude : Int := (valueOf 10 pair.1 : Nat)
                (some (if sign = some '-' then -magnitude else magnitude), pair.2)
            else some (none, text)
        | [] => some (none, text)
      else some (none, text)
  | [] => some (none, [])

/-- A number in base ten: an integer, or a decimal or imaginary number. -/
def decimal? (text : List Char) : Option (Value × List Char) := do
  let (wholeDigits, afterWhole) ← optionalDigits text
  let hasPoint := afterWhole.head? = some '.'
  let (fractionDigits, afterFraction) ←
    if hasPoint then optionalDigits (afterWhole.drop 1) else some ([], afterWhole)
  let (exponent, afterExponent) ← exponent? afterFraction
  let isImaginary := afterExponent.head? = some 'j' || afterExponent.head? = some 'J'
  let rest := if isImaginary then afterExponent.drop 1 else afterExponent
  if !endsBefore rest then none
  else if hasPoint || exponent.isSome || isImaginary then
    let datum :=
      Binary64.ofDecimal false (valueOf 10 (wholeDigits ++ fractionDigits))
        (exponent.getD 0 - (fractionDigits.length : Int))
    if isImaginary then some (.complex (.zero false) datum, rest)
    else some (.float datum, rest)
  else
    let leadingZero := wholeDigits.head? = some '0' && wholeDigits.any fun digit => digit != '0'
    if leadingZero || digitBound < wholeDigits.length then none
    else some (.int (valueOf 10 wholeDigits : Nat), rest)

/-- A number at the start of a text, with what follows it. -/
def read? (text : List Char) : Option (Value × List Char) :=
  match text with
  | '0' :: mark :: rest =>
      if mark = 'x' ∨ mark = 'X' then basedInteger? 16 rest
      else if mark = 'o' ∨ mark = 'O' then basedInteger? 8 rest
      else if mark = 'b' ∨ mark = 'B' then basedInteger? 2 rest
      else decimal? text
  | _ => decimal? text

end NumberLiteral

/-- A quoted text before its escapes are read. -/
structure TextLiteral where
  isRaw : Bool
  isBytes : Bool
  isFormatted : Bool
  body : List Char
deriving Repr

namespace TextLiteral

/-- Escapes of one letter. -/
def letterEscape? (letter : Char) : Option Char :=
  match letter with
  | '\\' => some '\\'
  | '\'' => some '\''
  | '"' => some '"'
  | 'a' => some (Char.ofNat 7)
  | 'b' => some (Char.ofNat 8)
  | 'f' => some (Char.ofNat 12)
  | 'n' => some '\n'
  | 'r' => some '\r'
  | 't' => some '\t'
  | 'v' => some (Char.ofNat 11)
  | _ => none

def isOctalDigit (character : Char) : Bool :=
  '0' ≤ character && character ≤ '7'

/-- Digits of a numbered escape of fixed width. -/
def fixedHex?
    (width : Nat)
    (text : List Char) : Option Nat :=
  let digits := text.take width
  if digits.length = width && digits.all NumberLiteral.isHexDigit then
    some (NumberLiteral.valueOf 16 digits)
  else none

/-- How many of the leading characters, at most three, belong to an octal escape. -/
def octalWidth (text : List Char) : Nat :=
  ((text.take 3).takeWhile isOctalDigit).length

/-- Reads the escapes of a body; the next `skipped` characters are read already.
Escapes that mean nothing stay as they are written. -/
def decodeFrom
    (isBytes : Bool) : Nat → List Char → Option (List Char)
  | _, [] => some []
  | skipped + 1, _ :: rest => decodeFrom isBytes skipped rest
  | 0, '\\' :: rest =>
      let numbered (width : Nat) : Option (List Char) :=
        match fixedHex? width (rest.drop 1) with
        | some code =>
            if code ≤ 0x10FFFF then
              (decodeFrom isBytes (width + 1) rest).map (Char.ofNat code :: ·)
            else none
        | none => none
      match rest with
      | [] => some ['\\']
      | letter :: _ =>
          if letter = '\n' then decodeFrom isBytes 1 rest
          else if isOctalDigit letter then
            let width := octalWidth rest
            let code := NumberLiteral.valueOf 8 (rest.take width)
            let kept := if isBytes then code % 256 else code
            (decodeFrom isBytes width rest).map (Char.ofNat kept :: ·)
          else if letter = 'x' then numbered 2
          else if letter = 'u' && !isBytes then numbered 4
          else if letter = 'U' && !isBytes then numbered 8
          else if letter = 'N' && !isBytes then none
          else
            match letterEscape? letter with
            | some character => (decodeFrom isBytes 1 rest).map (character :: ·)
            | none => (decodeFrom isBytes 0 rest).map ('\\' :: ·)
  | 0, head :: rest => (decodeFrom isBytes 0 rest).map (head :: ·)

/-- The characters a literal stands for. -/
def decode? (literal : TextLiteral) : Option (List Char) :=
  if literal.isBytes && literal.body.any fun character => 128 ≤ character.toNat then none
  else if literal.isRaw then some literal.body
  else decodeFrom literal.isBytes 0 literal.body

/-- Adjacent literals as one value; texts and byte strings do not mix. -/
def joined? (literals : List TextLiteral) : Option Value := do
  let contents ← literals.mapM decode?
  let whole := contents.flatten
  if literals.all fun literal => literal.isBytes then
    return .bytes (whole.map fun character => character.toNat.toUInt8)
  else if literals.all fun literal => !literal.isBytes then
    return .text (String.ofList whole)
  else none

end TextLiteral

end DeferredText
