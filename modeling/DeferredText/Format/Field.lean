import DeferredText.Text.Digit

/-!
Contract: message templates as literal text and replacement fields.

A template is cut into pieces from left to right. Where it breaks the rules the last
piece says why, so whatever stands before it keeps its meaning.

Owns: the pieces of a template and the path of a field name.

Does not own: filling fields in (`Format.Message`).
-/

namespace DeferredText

/-- A replacement field. -/
structure Field where
  name : List Char
  conversion : Option Char
  pattern : List Char
  /-- Whether the pattern holds replacement fields itself. -/
  nested : Bool
deriving DecidableEq, Repr

inductive Piece where
  | literal (text : List Char)
  | field (field : Field)
  | malformed (reason : String)
deriving DecidableEq, Repr

/-- A way into a value. -/
inductive Accessor where
  | attribute (name : List Char)
  | index (position : Nat)
  | key (name : List Char)
  | malformed (reason : String)
deriving DecidableEq, Repr

namespace Field

/-- Characters of a field name and the text from the one that ends it. Between brackets
only the closing one counts. -/
def splitName : Bool → List Char → List Char × List Char
  | _, [] => ([], [])
  | true, character :: rest =>
      let further := splitName (character != ']') rest
      (character :: further.1, further.2)
  | false, character :: rest =>
      if ['\x7b', '\x7d', ':', '!'].contains character then ([], character :: rest)
      else
        let further := splitName (character == '[') rest
        (character :: further.1, further.2)

/-- A pattern up to the brace that closes its field, and the text after that brace;
`depth` counts the braces that are open. -/
def splitPattern : Nat → List Char → Option (List Char × List Char)
  | _, [] => none
  | depth, character :: rest =>
      if character = '\x7b' then prepend character (splitPattern (depth + 1) rest)
      else if character = '\x7d' then
        match depth with
        | 0 => some ([], rest)
        | depth + 1 => prepend character (splitPattern depth rest)
      else prepend character (splitPattern depth rest)
where
  prepend
      (character : Char)
      (found : Option (List Char × List Char)) : Option (List Char × List Char) :=
    found.map fun pair => (character :: pair.1, pair.2)

/-- The rest of a field after a colon. -/
def readPattern
    (name : List Char)
    (conversion : Option Char)
    (text : List Char) : Except String (Field × List Char) :=
  match splitPattern 0 text with
  | none => .error "unmatched '\x7b' in format spec"
  | some (pattern, rest) =>
      .ok (
        { name := name
          conversion := conversion
          pattern := pattern
          nested := pattern.contains '\x7b' }, rest)

/-- A field without a pattern. -/
def simple
    (name : List Char)
    (conversion : Option Char) : Field :=
  { name := name
    conversion := conversion
    pattern := []
    nested := false }

/-- A field, read from after its opening brace, and the text after it. -/
def read (text : List Char) : Except String (Field × List Char) :=
  let (name, rest) := splitName false text
  match rest with
  | [] => .error "expected '\x7d' before end of string"
  | ending :: further =>
      if ending = '\x7d' then .ok (simple name none, further)
      else if ending = ':' then readPattern name none further
      else if ending = '!' then
        match further with
        | [] => .error "end of string while looking for conversion specifier"
        | [conversion] => readPattern name (some conversion) []
        | conversion :: mark :: remaining =>
            if mark = '\x7d' then .ok (simple name (some conversion), remaining)
            else if mark = ':' then readPattern name (some conversion) remaining
            else .error "expected ':' after conversion specifier"
      else .error "unexpected '\x7b' in field name"

end Field

namespace Piece

def isBrace (character : Char) : Bool :=
  character == '\x7b' || character == '\x7d'

def single (brace : Char) : Piece :=
  .malformed ("Single '" ++ String.singleton brace ++ "' encountered in format string")

/-- The pieces of a template, at most `fuel` braces of it. A doubled brace is one brace
of the text. -/
def cutWithin : Nat → List Char → List Piece
  | 0, _ => []
  | fuel + 1, text =>
      let literal := text.takeWhile fun character => !isBrace character
      match text.dropWhile fun character => !isBrace character with
      | [] => [.literal literal]
      | [brace] => [single brace]
      | brace :: next :: rest =>
          if brace = next then .literal (literal ++ [brace]) :: cutWithin fuel rest
          else if brace = '\x7d' then [single brace]
          else
            match Field.read (next :: rest) with
            | .error reason => [.malformed reason]
            | .ok (found, further) =>
                .literal literal :: .field found :: cutWithin fuel further

def cut (text : List Char) : List Piece :=
  cutWithin (text.length + 1) text

end Piece

namespace Accessor

/-- Greatest position that a field name may hold. -/
def positionLimit : Nat := Nat.pow 2 63 - 1

/-- A name as a position, if it is written in decimal digits; `none` if it is too long
to be one. -/
def position? (name : List Char) : Option (Option Nat) :=
  let digits := name.takeWhile fun character => (decimalValue? character).isSome
  let number := digits.foldl (fun total digit => total * 10 + (decimalValue? digit).getD 0) 0
  if positionLimit < number then none
  else if name.isEmpty || digits.length != name.length then some none
  else some (some number)

def tooManyDigits : String := "Too many decimal digits in format string"

/-- The accessor of a name between brackets. -/
def ofBracketed (name : List Char) : Accessor :=
  match position? name with
  | none => .malformed tooManyDigits
  | some (some position) => .index position
  | some none => if name.isEmpty then .malformed "Empty attribute in format string" else .key name

def isStart (character : Char) : Bool :=
  character == '.' || character == '['

/-- The accessors after the first name of a field, at most `fuel` of them. -/
def pathWithin : Nat → List Char → List Accessor
  | 0, _ => []
  | _, [] => []
  | fuel + 1, mark :: rest =>
      if mark = '.' then
        let name := rest.takeWhile fun character => !isStart character
        if name.isEmpty then [.malformed "Empty attribute in format string"]
        else .attribute name :: pathWithin fuel (rest.drop name.length)
      else if mark = '[' then
        let name := rest.takeWhile fun character => character != ']'
        match rest.drop name.length with
        | [] => [.malformed "Missing ']' in format string"]
        | _ :: further => ofBracketed name :: pathWithin fuel further
      else [.malformed "Only '.' or '[' may follow ']' in format field specifier"]

end Accessor

namespace Field

/-- The first name of a field, and the accessors that follow it. -/
def path (field : Field) : List Char × List Accessor :=
  let first := field.name.takeWhile fun character => !Accessor.isStart character
  let rest := field.name.drop first.length
  (first, Accessor.pathWithin rest.length rest)

end Field

end DeferredText
