import DeferredText.Text.Printable

/-!
Contract: quoted forms of texts and byte strings, as they stand inside other values.

The quote is an apostrophe, or a double quote for a text that holds apostrophes and
no double quote. The quote, the backslash, tab and line ends have short escapes;
whatever is not printable is escaped by its number.

Owns: `quotedText` and `quotedBytes`.

Does not own: the quoted texts of record lines (`Value.Json`).
-/

namespace DeferredText

def hexDigits
    (width number : Nat) : List Char :=
  let digits := Nat.toDigits 16 number
  List.replicate (width - digits.length) '0' ++ digits

def numberEscape (code : Nat) : List Char :=
  if code < 0x100 then '\\' :: 'x' :: hexDigits 2 code
  else if code < 0x10000 then '\\' :: 'u' :: hexDigits 4 code
  else '\\' :: 'U' :: hexDigits 8 code

/-- Escape of a character inside a text between two `quote`s, or the character. -/
def quotedCharacter
    (quote : Char)
    (visible : Char → Bool)
    (character : Char) : List Char :=
  if character = quote ∨ character = '\\' then ['\\', character]
  else if character = '\n' then ['\\', 'n']
  else if character = '\r' then ['\\', 'r']
  else if character = '\t' then ['\\', 't']
  else if visible character then [character]
  else numberEscape character.toNat

def chosenQuote (text : List Char) : Char :=
  if text.contains '\'' && !text.contains '"' then '"' else '\''

def quotedBy
    (visible : Char → Bool)
    (text : List Char) : List Char :=
  let quote := chosenQuote text
  quote :: text.flatMap (quotedCharacter quote visible) ++ [quote]

def quotedText (text : String) : String :=
  String.ofList (quotedBy isPrintable text.toList)

/-- As `quotedText`, with every character outside ASCII escaped. -/
def asciiQuotedText (text : String) : String :=
  String.ofList
    (quotedBy (fun character => isPrintable character && character.toNat < 128) text.toList)

def quotedBytes (content : List UInt8) : String :=
  let text := content.map fun byte => Char.ofNat byte.toNat
  String.ofList
    ('b' :: quotedBy (fun character => isPrintable character && character.toNat < 128) text)

end DeferredText
