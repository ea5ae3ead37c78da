import DeferredText.Expression.Literal
import DeferredText.Text.Compatibility
import DeferredText.Text.Identifier

/-!
Contract: the tokens of an expression.

Line ends count only outside brackets, where nothing but blank lines and comments
may follow the first of them.

Owns: names and reserved words, symbols, bracket matching, comments, continuation
lines, and the extent of quoted texts.

Does not own: how tokens make an expression (`Expression.Parse`).
-/

namespace DeferredText

inductive Token where
  | name (identifier : String)
  | reserved (word : String)
  | number (value : Value)
  | quoted (literal : TextLiteral)
  | symbol (spelling : String)
  | lineEnd
deriving Repr

namespace Token

def reservedWords : List String :=
  ["False", "None", "True", "and", "as", "assert", "async", "await", "break", "class",
    "continue", "def", "del", "elif", "else", "except", "finally", "for", "from", "global",
    "if", "import", "in", "is", "lambda", "nonlocal", "not", "or", "pass", "raise", "return",
    "try", "while", "with", "yield"]

/-- Symbols of more than one character, longer ones first. -/
def longSymbols : List String :=
  ["...", "**=", "//=", "<<=", ">>=", "!=", "%=", "&=", "**", "*=", "+=", "-=", "->", "//",
    "/=", ":=", "<<", "<=", "<>", "==", ">=", ">>", "@=", "^=", "|="]

def shortSymbols : List Char :=
  ['%', '&', '(', ')', '*', '+', ',', '-', '.', '/', ':', ';', '<', '=', '>', '@', '[', ']',
    '^', '\x7b', '|', '\x7d', '~']

/-- Letters that may stand before a quote. -/
def textMarks : List String :=
  ["b", "u", "r", "f", "br", "rb", "fr", "rf"]

/-- Deepest nesting of brackets. -/
def bracketBound : Nat := 200

def closing? (character : Char) : Option Char :=
  match character with
  | '(' => some ')'
  | '[' => some ']'
  | '\x7b' => some '\x7d'
  | _ => none

def isClosing (character : Char) : Bool :=
  character == ')' || character == ']' || character == '\x7d'

def startsName (character : Char) : Bool :=
  character.isAlpha || character == '_' || 128 ≤ character.toNat

/-- The body of a text after its opening quotes, and what follows the closing ones. -/
def textBody?
    (quote : Char)
    (isLong : Bool) : List Char → Option (List Char × List Char)
  | [] => none
  | '\\' :: character :: rest =>
      (textBody? quote isLong rest).map fun pair => ('\\' :: character :: pair.1, pair.2)
  | head :: rest =>
      if head = quote ∧ !isLong then some ([], rest)
      else if head = quote ∧ [quote, quote].isPrefixOf rest then some ([], rest.drop 2)
      else if head = '\n' ∧ !isLong then none
      else (textBody? quote isLong rest).map fun pair => (head :: pair.1, pair.2)

/-- A quoted text, starting at its opening quote. -/
def text?
    (marks : List Char)
    (start : List Char) : Option (Token × List Char) :=
  match start with
  | [] => none
  | quote :: rest =>
      let lowered := marks.map Char.toLower
      let isLong := [quote, quote].isPrefixOf rest
      let body := textBody? quote isLong (if isLong then rest.drop 2 else rest)
      body.map fun pair =>
        (.quoted ⟨lowered.contains 'r', lowered.contains 'b', lowered.contains 'f', pair.1⟩,
          pair.2)

/-- A name or reserved word, from the characters that spell it. -/
def word? (spelling : List Char) : Option Token :=
  if reservedWords.contains (String.ofList spelling) then
    some (.reserved (String.ofList spelling))
  else if isIdentifier spelling then
    some (.name (String.ofList (normalizeIdentifier spelling)))
  else none

/-- A symbol at the start of a text. -/
def symbol? (text : List Char) : Option (Token × List Char) :=
  match longSymbols.find? fun spelling => spelling.toList.isPrefixOf text with
  | some spelling => some (.symbol spelling, text.drop spelling.length)
  | none =>
      match text with
      | head :: rest =>
          if shortSymbols.contains head then some (.symbol (String.singleton head), rest)
          else none
      | [] => none

def isGap (character : Char) : Bool :=
  character == ' ' || character == '\t' || character.toNat == 12

/-- The column a line starts at and its text; a form feed returns to the margin. A
backslash joins the next line, whose own column then does not count. -/
def lineStart
    (column : Nat)
    (fixed : Nat) : List Char → Option (Nat × List Char)
  | ' ' :: rest => lineStart (column + 1) fixed rest
  | '\t' :: rest => lineStart ((column / 8 + 1) * 8) fixed rest
  | '\\' :: '\n' :: next :: rest =>
      lineStart column (if fixed = 0 then column else fixed) (next :: rest)
  | '\\' :: _ => none
  | head :: rest =>
      if head.toNat = 12 then lineStart 0 fixed rest
      else some (if fixed = 0 then column else fixed, head :: rest)
  | [] => some (if fixed = 0 then column else fixed, [])

def skipComment (text : List Char) : List Char :=
  text.dropWhile fun character => character != '\n'

/-- One token at the start of a text that is neither blank nor a comment. -/
def next? (text : List Char) : Option (Token × List Char) :=
  match text with
  | [] => none
  | head :: rest =>
      if startsName head then
        let spelling := text.takeWhile NumberLiteral.continuesName
        let after := text.dropWhile NumberLiteral.continuesName
        let isMark := textMarks.contains (String.ofList (spelling.map Char.toLower))
        if isMark && (after.head? = some '"' || after.head? = some '\'') then
          text? spelling after
        else (word? spelling).map fun token => (token, after)
      else if head = '"' ∨ head = '\'' then text? [] text
      else if head.isDigit || (head = '.' && (rest.head?.map Char.isDigit).getD false) then
        (NumberLiteral.read? text).map fun pair => (.number pair.1, pair.2)
      else symbol? text

/-- Brackets still open after a token, innermost first, by the characters that close them. -/
def openAfter?
    (openBrackets : List Char)
    (token : Token) : Option (List Char) :=
  match token with
  | .symbol spelling =>
      match spelling.toList with
      | [character] =>
          match closing? character with
          | some closer =>
              if bracketBound ≤ openBrackets.length then none
              else some (closer :: openBrackets)
          | none =>
              if isClosing character then
                match openBrackets with
                | closer :: outer => if closer = character then some outer else none
                | [] => none
              else some openBrackets
      | _ => some openBrackets
  | _ => some openBrackets

mutual

/-- Tokens of a text inside a line, at most `fuel` of them. -/
def inLine
    (openBrackets : List Char) : Nat → List Char → Option (List Token)
  | 0, _ => none
  | _, [] => if openBrackets.isEmpty then some [] else none
  | fuel + 1, '\\' :: rest =>
      match rest with
      | '\n' :: next :: after => inLine openBrackets fuel (next :: after)
      | _ => none
  | fuel + 1, head :: rest =>
      if isGap head then inLine openBrackets fuel rest
      else if head = '#' then inLine openBrackets fuel (skipComment rest)
      else if head = '\n' then
        if openBrackets.isEmpty then (atLineStart true fuel rest).map (.lineEnd :: ·)
        else inLine openBrackets fuel rest
      else
        match next? (head :: rest) with
        | some (token, after) =>
            match openAfter? openBrackets token with
            | some stillOpen => (inLine stillOpen fuel after).map (token :: ·)
            | none => none
        | none => none

/-- Tokens of a text at the start of a line; `started` after the first line with tokens. -/
def atLineStart
    (started : Bool) : Nat → List Char → Option (List Token)
  | 0, _ => none
  | fuel + 1, text =>
      match lineStart 0 0 text with
      | none => none
      | some (_, []) => some []
      | some (column, head :: rest) =>
          if head = '#' then
            match skipComment rest with
            | [] => some []
            | _ :: nextLine => atLineStart started fuel nextLine
          else if head = '\n' then atLineStart started fuel rest
          else if started || column ≠ 0 then none
          else inLine [] fuel (head :: rest)

end

/-- Line ends in one form. -/
def unifyLineEnds : List Char → List Char
  | '\r' :: '\n' :: rest => '\n' :: unifyLineEnds rest
  | '\r' :: rest => '\n' :: unifyLineEnds rest
  | head :: rest => head :: unifyLineEnds rest
  | [] => []

/-- All tokens of a text, or none if it is not made of tokens. -/
def ofText? (text : List Char) : Option (List Token) :=
  let unified := unifyLineEnds text
  atLineStart false (2 * unified.length + 2) unified

end Token

end DeferredText
