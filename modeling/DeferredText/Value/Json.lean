import DeferredText.Value.Text

/-!
Contract: values as JSON text in ASCII, with a space after each comma and colon.

Owns: the writer, in a strict form that refuses values without a JSON form and a
lenient form that writes their display text instead.

Does not own: which lines are written (`Log.Line`).
-/

namespace DeferredText

namespace Json

def unitEscape (unit : Nat) : List Char :=
  '\\' :: 'u' :: hexDigits 4 unit

/-- A character inside a JSON text; those outside ASCII become one or two units. -/
def escaped (character : Char) : List Char :=
  if character = '"' then ['\\', '"']
  else if character = '\\' then ['\\', '\\']
  else if character = '\n' then ['\\', 'n']
  else if character = '\r' then ['\\', 'r']
  else if character = '\t' then ['\\', 't']
  else if character.toNat = 12 then ['\\', 'f']
  else if character.toNat = 8 then ['\\', 'b']
  else if 32 ≤ character.toNat ∧ character.toNat < 127 then [character]
  else if character.toNat < 0x10000 then unitEscape character.toNat
  else
    let offset := character.toNat - 0x10000
    unitEscape (0xD800 + offset / 0x400) ++ unitEscape (0xDC00 + offset % 0x400)

def quotedString (content : String) : String :=
  String.ofList ('"' :: content.toList.flatMap escaped ++ ['"'])

def truthText (truth : Bool) : String :=
  if truth then "true" else "false"

/-- A mapping key as text; only scalars can be keys. -/
def keyText : Value → Outcome String
  | .text content => .ok content
  | .float datum => .ok (NumberLayout.record.text datum)
  | .bool truth => .ok (truthText truth)
  | .none => .ok "null"
  | .int number => integerText number
  | other =>
      let described := other.typeName
      .error (.wrongType s!"keys must be str, int, float, bool or None, not {described}")

/-- How a value without a JSON form is written. -/
abbrev Fallback := Value → Outcome String

/-- Refuses values without a JSON form. -/
def refuse : Fallback := fun value =>
  let described := value.typeName
  .error (.wrongType s!"Object of type {described} is not JSON serializable")

/-- Writes the display text of values without a JSON form. -/
def displayed : Fallback := fun value => do
  return quotedString (← value.display)

mutual

def write (fallback : Fallback) : Value → Outcome String
  | .none => .ok "null"
  | .bool truth => .ok (truthText truth)
  | .int number => integerText number
  | .float datum => .ok (NumberLayout.record.text datum)
  | .text content => .ok (quotedString content)
  | .list items => do
      return Value.bracketed "[" "]" (← writeItems fallback items)
  | .tuple items => do
      return Value.bracketed "[" "]" (← writeItems fallback items)
  | .dict entries => do
      return Value.bracketed "\x7b" "\x7d" (← writeEntries fallback entries)
  | other => fallback other

def writeItems (fallback : Fallback) : List Value → Outcome (List String)
  | [] => .ok []
  | item :: rest => do
      let first ← write fallback item
      return first :: (← writeItems fallback rest)

def writeEntries (fallback : Fallback) : List (Value × Value) → Outcome (List String)
  | [] => .ok []
  | (key, value) :: rest => do
      let first ← keyText key
      let second ← write fallback value
      return (quotedString first ++ ": " ++ second) :: (← writeEntries fallback rest)

end

end Json

end DeferredText
