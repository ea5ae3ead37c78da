import DeferredText.Value.Text

/-!
Contract: placeholder tokens and how they are recognised.

A placeholder is an opening text, a fixed number of letters and digits, and a
closing text. Tokens of one shape all have the same length.

Owns: the shape, its construction from settings, and searching text for tokens.

Does not own: the choice of the letters and digits (`Placeholder.Supply`).
-/

namespace DeferredText

structure PlaceholderShape where
  opening : String
  closing : String
  length : Nat
deriving DecidableEq, Repr

namespace PlaceholderShape

/-- Fewest random characters of a token. -/
def leastLength : Nat := 20

def standard : PlaceholderShape :=
  { opening := "__async_helper_id__"
    closing := "__"
    length := 24 }

/-- Letters and digits of ASCII. -/
def isBodyCharacter (character : Char) : Bool :=
  character.isAlphanum

/-- The token with the given random characters. -/
def token
    (shape : PlaceholderShape)
    (body : List Char) : List Char :=
  shape.opening.toList ++ body ++ shape.closing.toList

/-- Number of characters of every token. -/
def width (shape : PlaceholderShape) : Nat :=
  shape.opening.length + shape.length + shape.closing.length

/-- Whether a text starts with a token. -/
def startsToken
    (shape : PlaceholderShape)
    (text : List Char) : Bool :=
  let afterOpening := text.drop shape.opening.length
  let body := afterOpening.take shape.length
  shape.opening.toList.isPrefixOf text && body.length == shape.length &&
    body.all isBodyCharacter &&
    shape.closing.toList.isPrefixOf (afterOpening.drop shape.length)

/-- Whether a text is exactly one token. -/
def isToken
    (shape : PlaceholderShape)
    (text : List Char) : Bool :=
  shape.startsToken text && text.length == shape.width

/-- Tokens from left to right without overlap; the next `skipped` characters belong to
a token already found. -/
def findFrom
    (shape : PlaceholderShape) : Nat → List Char → List (List Char)
  | _, [] => []
  | skipped + 1, _ :: rest => findFrom shape skipped rest
  | 0, head :: rest =>
      if shape.startsToken (head :: rest) then
        (head :: rest).take shape.width :: findFrom shape (shape.width - 1) rest
      else findFrom shape 0 rest

def find
    (shape : PlaceholderShape)
    (text : String) : List String :=
  (shape.findFrom 0 text.toList).map String.ofList

/-- Whether a length is below the least one, for lengths that compare with numbers. -/
def isTooShort (length : Value) : Outcome Bool :=
  match length with
  | .float datum =>
      match datum.toRatio? with
      | some pair => .ok (pair.1 < (leastLength : Int) * (pair.2 : Int))
      | none => .ok (datum.isNegative)
  | other =>
      match other.int? with
      | some number => .ok (number < (leastLength : Int))
      | none =>
          let described := other.typeName
          .error (.wrongType
            s!"'<' not supported between instances of '{described}' and 'int'")

/-- Lengths from here on are refused. -/
def lengthBound : Nat := 4294967295

/-- The text in front of or behind a token. `joined` is what is said of a run of bytes,
which cannot be joined with text. -/
def affix
    (joined : String) : Value → Outcome String
  | .text content => .ok content
  | .bytes _ => .error (.wrongType joined)
  | other =>
      let described := other.typeName
      .error (.wrongType s!"decoding to str: need a bytes-like object, {described} found")

/-- The number of random characters, if a length is a whole number that is not too large. -/
def bodyLength (length : Value) : Outcome Nat :=
  match length.int? with
  | some number =>
      if number < (lengthBound : Int) then .ok number.toNat
      else .error (.withMessage .overflow "the repetition number is too large")
  | none =>
      let described := length.typeName
      .error (.wrongType s!"'{described}' object cannot be interpreted as an integer")

/-- The shape that settings describe, if they describe one. -/
def ofSettings
    (opening closing length : Value) : Outcome PlaceholderShape := do
  if ← isTooShort length then
    let shown ← length.display
    throw (.badValue s!"Token length must be at least {leastLength}, got {shown}")
  if !opening.truthy then throw (.badValue "Token prefix must not be empty")
  let openingText ← affix "can't concat str to bytes" opening
  discard length.display
  let closingText ← affix "can only concatenate str (not \"bytes\") to str" closing
  return ⟨openingText, closingText, ← bodyLength length⟩

end PlaceholderShape

end DeferredText
