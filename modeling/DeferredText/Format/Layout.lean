import DeferredText.Format.Number
import DeferredText.Value.Text

/-!
Contract: the text of a value under a specification.

Texts and numbers have layouts of their own; every other value has only its display
text and refuses a specification.

Owns: layout of texts, choice of the layout by the type of a value, conversions.

Does not own: where specifications stand in a message template (`Format.Field`).
-/

namespace DeferredText

namespace Format

/-- Layout of a text: cut at the precision, then padded. -/
def text
    (content : List Char)
    (specification : Specification) : Outcome (List Char) :=
  if specification.sign = some .space then
    .error (.badValue "Space not allowed in string format specifier")
  else if specification.sign.isSome then
    .error (.badValue "Sign not allowed in string format specifier")
  else if specification.dropsNegativeZero then
    .error (.badValue "Negative zero coercion (z) not allowed in string format specifier")
  else if specification.alternate then
    .error (.badValue "Alternate form (#) not allowed in string format specifier")
  else if specification.alignment = .afterSign then
    .error (.badValue "'=' alignment not allowed in string format specifier")
  else
    let kept := content.take (specification.precision.getD content.length)
    let (before, _, after) :=
      padding specification.alignment (specification.width.getD 0 - kept.length)
    .ok (List.replicate before specification.fill ++ kept ++
      List.replicate after specification.fill)

/-- Layout of an integer, or of a truth value as one. -/
def integer
    (typeName : String)
    (number : Int)
    (specification : Specification) : Outcome (List Char) := do
  let presentation := specification.presentation.getD 'd'
  if ['b', 'c', 'd', 'o', 'x', 'X', 'n'].contains presentation then
    return assemble specification (← integerParts specification presentation number)
  else if isBinaryPresentation presentation then
    let datum := Binary64.ofInt number
    if datum.isFinite then binary specification datum
    else throw (.withMessage .overflow "int too large to convert to float")
  else throw (Specification.unknownPresentation typeName presentation)

/-- Layout of a binary64 datum. -/
def datum
    (number : Binary64)
    (specification : Specification) : Outcome (List Char) :=
  match specification.presentation with
  | none => binary specification number
  | some presentation =>
      if isBinaryPresentation presentation || presentation == 'n' then
        binary specification number
      else .error (Specification.unknownPresentation "float" presentation)

/-- The text of a value under the notation of a specification. -/
def value
    (shown : Value)
    (pattern : List Char) : Outcome (List Char) := do
  if pattern.isEmpty then return (← shown.display).toList
  match shown with
  | .text content =>
      let specification ← Specification.read "str" (some 's') .left pattern
      match specification.presentation with
      | some 's' => text content.toList specification
      | other => throw (Specification.unknownPresentation "str" (other.getD 's'))
  | .float number =>
      let specification ← Specification.read "float" none .right pattern
      datum number specification
  | other =>
      match other.int? with
      | some number =>
          let specification ← Specification.read other.typeName (some 'd') .right pattern
          integer other.typeName number specification
      | none =>
          let described := other.typeName
          throw (.wrongType
            s!"unsupported format string passed to {described}.__format__")

/-- A text with every character outside ASCII escaped by its number. -/
def asciiOnly (content : List Char) : List Char :=
  content.flatMap fun character =>
    if character.toNat < 128 then [character] else numberEscape character.toNat

/-- Converts a value to a text before it is laid out. -/
def convert
    (conversion : Char)
    (shown : Value) : Outcome Value := do
  if conversion = 'r' then return .text (← shown.quoted)
  else if conversion = 's' then return .text (← shown.display)
  else if conversion = 'a' then
    return .text (String.ofList (asciiOnly (← shown.quoted).toList))
  else
    throw (.badValue ("Unknown conversion specifier " ++
      Specification.shownCharacter 127 conversion))

end Format

end DeferredText
