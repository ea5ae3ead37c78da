import DeferredText.Expression.Literal

/-!
Contract: the pieces of a text with embedded expressions.

Braces delimit the expressions, doubled braces stand for themselves, and an
expression ends at a conversion mark, a format mark or its closing brace.

Owns: literal pieces and the extent of embedded expressions.

Does not own: reading the expressions (`Expression.Parse`).
-/

namespace DeferredText

namespace Embedded

/-- A literal piece, the text after it, and whether it ended at a doubled brace. -/
structure Piece where
  literal : List Char
  rest : List Char
  isDoubled : Bool

def isBrace (character : Char) : Bool :=
  character == '\x7b' || character == '\x7d'

/-- What a brace means at a nesting depth: doubled braces count only at depth zero,
and a single closing brace does not end anything there. -/
def brace?
    (depth : Nat)
    (character : Char)
    (rest : List Char) : Option Piece :=
  if depth = 0 then
    if rest.head? = some character then some ⟨[character], rest.drop 1, true⟩
    else if character = '\x7d' then none
    else some ⟨[], character :: rest, false⟩
  else some ⟨[], character :: rest, false⟩

def before
    (character : Char)
    (piece : Piece) : Piece :=
  { piece with literal := character :: piece.literal }

/-- The literal piece a text starts with. -/
def piece?
    (isRaw : Bool)
    (depth : Nat) : List Char → Option Piece
  | [] => some ⟨[], [], false⟩
  | '\\' :: character :: rest =>
      if isRaw then
        if isBrace character then (brace? depth character rest).map (before '\\')
        else (piece? isRaw depth (character :: rest)).map (before '\\')
      else if character = 'N' then none
      else if isBrace character then (brace? depth character rest).map (before '\\')
      else (piece? isRaw depth rest).map fun piece => before '\\' (before character piece)
  | character :: rest =>
      if isBrace character then brace? depth character rest
      else (piece? isRaw depth rest).map (before character)

/-- A quote an embedded expression is inside of. -/
structure OpenQuote where
  mark : Char
  isLong : Bool

def closingOf (character : Char) : Char :=
  if character = '(' then ')' else if character = '[' then ']' else '\x7d'

def isOpening (character : Char) : Bool :=
  character == '(' || character == '[' || character == '\x7b'

def isClosing (character : Char) : Bool :=
  character == ')' || character == ']' || character == '\x7d'

/-- An embedded expression and the text from the mark that ends it; the next
`skipped` characters belong to a token already recognised. -/
def extent?
    (quote : Option OpenQuote)
    (openBrackets : List Char) : Nat → List Char → Option (List Char × List Char)
  | _, [] => none
  | skipped + 1, head :: rest =>
      if head = '\\' then none
      else (extent? quote openBrackets skipped rest).map fun pair => (head :: pair.1, pair.2)
  | 0, head :: rest =>
      let continued
          (nextQuote : Option OpenQuote)
          (nextBrackets : List Char)
          (skipped : Nat) : Option (List Char × List Char) :=
        (extent? nextQuote nextBrackets skipped rest).map fun pair => (head :: pair.1, pair.2)
      if head = '\\' then none
      else
        match quote with
        | some opened =>
            if head ≠ opened.mark then continued quote openBrackets 0
            else if !opened.isLong then continued none openBrackets 0
            else if [head, head].isPrefixOf rest then continued none openBrackets 2
            else continued quote openBrackets 0
        | none =>
            if head = '\'' ∨ head = '"' then
              if [head, head].isPrefixOf rest then continued (some ⟨head, true⟩) openBrackets 2
              else continued (some ⟨head, false⟩) openBrackets 0
            else if isOpening head then continued none (closingOf head :: openBrackets) 0
            else if head = '#' then none
            else if openBrackets.isEmpty && (head = '!' || head = ':' || head = '\x7d' ||
                head = '=' || head = '>' || head = '<') then
              if rest.head? = some '=' && head ≠ ':' && head ≠ '\x7d' then
                continued none openBrackets 1
              else if head = '>' ∨ head = '<' then continued none openBrackets 0
              else some ([], head :: rest)
            else if isClosing head then
              match openBrackets with
              | closer :: outer => if closer = head then continued none outer 0 else none
              | [] => none
            else continued none openBrackets 0

/-- Blanks that may fill an expression without making it one. -/
def isFiller (character : Char) : Bool :=
  character == ' ' || character == '\t' || character == '\n' || character.toNat == 12

def isBlankAfterSign (character : Char) : Bool :=
  character == ' ' || (9 ≤ character.toNat && character.toNat ≤ 13)

end Embedded

end DeferredText
