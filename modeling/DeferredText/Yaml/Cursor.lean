/-!
Contract: a place in a YAML text.

A cursor holds what is left of the text and counts characters, lines and columns.

Owns: the cursor with its moves, line breaks, and the character classes that the
notation is made of.

Does not own: tokens (`Yaml.Token`).
-/

namespace DeferredText.Yaml

/-- Characters that may stand in a YAML text. -/
def isAllowed (character : Char) : Bool :=
  let code := character.toNat
  code == 9 || code == 10 || code == 13 || (32 ≤ code && code ≤ 126) || code == 0x85 ||
    (0xA0 ≤ code && code ≤ 0xD7FF) || (0xE000 ≤ code && code ≤ 0xFFFD) || 0x10000 ≤ code

def isBreak (character : Char) : Bool :=
  let code := character.toNat
  code == 10 || code == 13 || code == 0x85 || code == 0x2028 || code == 0x2029

def isSpaceOrTab (character : Char) : Bool :=
  character == ' ' || character == '\t'

/-- Letters, digits, the hyphen and the underscore. -/
def isWordCharacter (character : Char) : Bool :=
  character.isAlphanum || character == '-' || character == '_'

structure Cursor where
  rest : List Char
  index : Nat
  line : Nat
  column : Nat

namespace Cursor

def start (text : List Char) : Cursor :=
  { rest := text
    index := 0
    line := 0
    column := 0 }

def head? (cursor : Cursor) : Option Char :=
  cursor.rest.head?

/-- The character a number of places ahead. -/
def ahead?
    (cursor : Cursor)
    (count : Nat) : Option Char :=
  cursor.rest[count]?

def headIs
    (cursor : Cursor)
    (test : Char → Bool) : Bool :=
  cursor.head?.any test

/-- Moves over one character. A byte order mark takes no column. -/
def next (cursor : Cursor) : Cursor :=
  match cursor.rest with
  | [] => cursor
  | head :: rest =>
      let endsLine := isBreak head && !(head == '\r' && rest.head? == some '\n')
      { rest := rest
        index := cursor.index + 1
        line := if endsLine then cursor.line + 1 else cursor.line
        column :=
          if endsLine then 0
          else if head.toNat == 0xFEFF then cursor.column
          else cursor.column + 1 }

def advance : Nat → Cursor → Cursor
  | 0, cursor => cursor
  | count + 1, cursor => advance count cursor.next

/-- Moves over the characters that pass a test. -/
def skipWhile
    (test : Char → Bool)
    (cursor : Cursor) : Cursor :=
  advance (cursor.rest.takeWhile test).length cursor

/-- The characters that pass a test, and the cursor behind them. -/
def takeWhile
    (test : Char → Bool)
    (cursor : Cursor) : List Char × Cursor :=
  let taken := cursor.rest.takeWhile test
  (taken, advance taken.length cursor)

def skipSpaces (cursor : Cursor) : Cursor :=
  cursor.skipWhile fun character => character == ' '

/-- Moves over the rest of the line, up to its break. -/
def skipLine (cursor : Cursor) : Cursor :=
  cursor.skipWhile fun character => !isBreak character

/-- The line break at a cursor, if there is one, and the cursor behind it. -/
def lineBreak? (cursor : Cursor) : Option (Char × Cursor) :=
  match cursor.rest with
  | '\r' :: '\n' :: _ => some ('\n', cursor.advance 2)
  | head :: _ =>
      if head == '\n' || head == '\r' || head.toNat == 0x85 then some ('\n', cursor.next)
      else if isBreak head then some (head, cursor.next)
      else none
  | [] => none

/-- Whether the text ends here, or a character passes a test. -/
def endsOr
    (test : Char → Bool)
    (character : Option Char) : Bool :=
  character.all test

/-- Whether a word has to end before this character. -/
def endsWord (character : Option Char) : Bool :=
  endsOr (fun found => isSpaceOrTab found || isBreak found) character

/-- Whether a part of a line has to end before this character; tabs do not count. -/
def endsPart (character : Option Char) : Bool :=
  endsOr (fun found => found == ' ' || isBreak found) character

def endsLine (character : Option Char) : Bool :=
  endsOr isBreak character

/-- Whether three equal marks that separate documents stand at a cursor. -/
def atSeparator (cursor : Cursor) : Bool :=
  (['-', '-', '-'].isPrefixOf cursor.rest || ['.', '.', '.'].isPrefixOf cursor.rest) &&
    endsWord (cursor.ahead? 3)

end Cursor

end DeferredText.Yaml
