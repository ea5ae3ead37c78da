import DeferredText.Yaml.Cursor

/-!
Contract: the three ways to write a scalar.

A plain scalar ends where the notation goes on, a quoted one at its quote, and a
block scalar where the indentation ends. Lines are folded into one, except in
literal blocks.

Owns: reading the text of each kind of scalar. Reading fails where the text breaks
the rules.

Does not own: what a scalar stands for (`Yaml.Schema`).
-/

namespace DeferredText.Yaml

/-- What stands between two lines of a folded scalar. -/
def foldedBreak
    (first : Char)
    (further : List Char) : List Char :=
  if first != '\n' then first :: further
  else if further.isEmpty then [' ']
  else further

/-! ### Plain scalars -/

namespace Plain

/-- Whether a plain scalar ends before the first of these characters. -/
def endsBefore
    (inFlow : Bool)
    (text : List Char) : Bool :=
  match text with
  | [] => true
  | head :: rest =>
      Cursor.endsWord (some head) ||
        (head == ':' &&
          (Cursor.endsWord rest.head? ||
            (inFlow && rest.head?.any fun next => [',', '[', ']', '\x7b', '\x7d'].contains next))) ||
        (inFlow && [',', '?', '[', ']', '\x7b', '\x7d'].contains head)

/-- Number of characters up to the end of a run without blanks. -/
def runLength (inFlow : Bool) : List Char → Nat
  | [] => 0
  | head :: rest => if endsBefore inFlow (head :: rest) then 0 else runLength inFlow rest + 1

/-- Blank lines after a first one: their breaks and the cursor at the next text, or none
if a separator of documents stands there. -/
def moreBreaks : Nat → Cursor → Option (List Char) × Cursor
  | 0, cursor => (some [], cursor)
  | fuel + 1, cursor =>
      if cursor.head? == some ' ' then moreBreaks fuel cursor.next
      else
        match cursor.lineBreak? with
        | none => (some [], cursor)
        | some (character, next) =>
            if next.atSeparator then (none, next)
            else
              let further := moreBreaks fuel next
              (further.1.map (character :: ·), further.2)

/-- What separates two runs: nothing at the end of the scalar. The flag says whether a
line was left. -/
def separation (cursor : Cursor) : List Char × Cursor × Bool :=
  let (spaces, afterSpaces) := cursor.takeWhile fun character => character == ' '
  match afterSpaces.lineBreak? with
  | none => (spaces, afterSpaces, false)
  | some (first, next) =>
      if next.atSeparator then ([], next, true)
      else
        match moreBreaks next.rest.length next with
        | (none, later) => ([], later, true)
        | (some further, later) => (foldedBreak first further, later, true)

/-- The runs of a plain scalar, at most `fuel` of them; `before` separates the next run
from the text so far. The flag says whether the scalar ended at the start of a line. -/
def readRuns
    (inFlow : Bool)
    (indent : Int) : Nat → List Char → Bool → Cursor → List Char × Bool × Cursor
  | 0, _, atLineStart, cursor => ([], atLineStart, cursor)
  | fuel + 1, before, atLineStart, cursor =>
      let length := runLength inFlow cursor.rest
      if cursor.head? == some '#' || length = 0 then ([], atLineStart, cursor)
      else
        let run := cursor.rest.take length
        let (between, next, leftLine) := separation (cursor.advance length)
        if between.isEmpty || next.head? == some '#' ||
            (!inFlow && (next.column : Int) < indent) then
          (before ++ run, leftLine, next)
        else
          let (further, endsAtStart, last) := readRuns inFlow indent fuel between leftLine next
          (before ++ run ++ further, endsAtStart, last)

/-- A plain scalar inside a collection of the given indentation. -/
def read
    (inFlow : Bool)
    (indent : Int)
    (cursor : Cursor) : List Char × Bool × Cursor :=
  readRuns inFlow (indent + 1) (cursor.rest.length + 1) [] false cursor

end Plain

/-! ### Quoted scalars -/

namespace Quoted

/-- Escapes of a double-quoted scalar that stand for one character. -/
def simpleEscape? (letter : Char) : Option Char :=
  match letter with
  | '0' => some (Char.ofNat 0)
  | 'a' => some (Char.ofNat 7)
  | 'b' => some (Char.ofNat 8)
  | 't' => some '\t'
  | '\t' => some '\t'
  | 'n' => some '\n'
  | 'v' => some (Char.ofNat 11)
  | 'f' => some (Char.ofNat 12)
  | 'r' => some '\r'
  | 'e' => some (Char.ofNat 27)
  | ' ' => some ' '
  | '"' => some '"'
  | '\\' => some '\\'
  | '/' => some '/'
  | 'N' => some (Char.ofNat 0x85)
  | '_' => some (Char.ofNat 0xA0)
  | 'L' => some (Char.ofNat 0x2028)
  | 'P' => some (Char.ofNat 0x2029)
  | _ => none

/-- Number of hexadecimal digits of a numbered escape. -/
def escapeWidth? (letter : Char) : Option Nat :=
  match letter with
  | 'x' => some 2
  | 'u' => some 4
  | 'U' => some 8
  | _ => none

def hexValue? (digit : Char) : Option Nat :=
  if digit.isDigit then some (digit.toNat - '0'.toNat)
  else if 'a' ≤ digit.toLower ∧ digit.toLower ≤ 'f' then
    some (digit.toLower.toNat - 'a'.toNat + 10)
  else none

/-- The character of a numbered escape, whose digits start the text. -/
def numbered?
    (width : Nat)
    (text : List Char) : Option Char := do
  let digits ← (text.take width).mapM hexValue?
  if digits.length < width then none
  else
    let code := digits.foldl (fun total digit => total * 16 + digit) 0
    if code ≤ 0x10FFFF then some (Char.ofNat code) else none

/-- The breaks of blank lines; fails at a separator of documents. -/
def breaks? : Nat → Cursor → Option (List Char × Cursor)
  | 0, cursor => some ([], cursor)
  | fuel + 1, cursor =>
      if cursor.atSeparator then none
      else
        let next := cursor.skipWhile isSpaceOrTab
        match next.lineBreak? with
        | none => some ([], next)
        | some (character, later) => do
            let (further, last) ← breaks? fuel later
            return (character :: further, last)

/-- Blanks inside a quoted scalar, which a line break folds. -/
def blanks? (cursor : Cursor) : Option (List Char × Cursor) := do
  let (spaces, afterSpaces) := cursor.takeWhile isSpaceOrTab
  match afterSpaces.lineBreak? with
  | some (first, next) => do
      let (further, last) ← breaks? (next.rest.length + 1) next
      return (foldedBreak first further, last)
  | none => if afterSpaces.rest.isEmpty then none else return (spaces, afterSpaces)

/-- An escape after its backslash. -/
def escape? (cursor : Cursor) : Option (List Char × Cursor) := do
  let letter ← cursor.head?
  match simpleEscape? letter, escapeWidth? letter with
  | some character, _ => return ([character], cursor.next)
  | none, some width => do
      let character ← numbered? width cursor.next.rest
      return ([character], cursor.next.advance width)
  | none, none => do
      let (_, next) ← cursor.lineBreak?
      breaks? (next.rest.length + 1) next

/-- The rest of a quoted scalar, in at most `fuel` steps, and the cursor behind its
quote. -/
def readFrom (quote : Char) : Nat → Cursor → Option (List Char × Cursor)
  | 0, _ => none
  | fuel + 1, cursor => do
      let head ← cursor.head?
      let onward (part : List Char) (next : Cursor) : Option (List Char × Cursor) := do
        let (further, last) ← readFrom quote fuel next
        return (part ++ further, last)
      if head == quote then
        if quote == '\'' && cursor.ahead? 1 == some '\'' then onward ['\''] (cursor.advance 2)
        else return ([], cursor.next)
      else if quote == '"' && head == '\\' then
        let (part, next) ← escape? cursor.next
        onward part next
      else if isSpaceOrTab head || isBreak head then
        let (part, next) ← blanks? cursor
        onward part next
      else onward [head] cursor.next

/-- A quoted scalar, from its opening quote on. -/
def read?
    (quote : Char)
    (cursor : Cursor) : Option (List Char × Cursor) :=
  readFrom quote (cursor.rest.length + 1) cursor.next

end Quoted

/-! ### Block scalars -/

/-- What happens to the line breaks at the end of a block scalar. -/
inductive Chomping where
  | strip
  | clip
  | keep
deriving DecidableEq, Repr

structure BlockHeader where
  chomping : Chomping
  /-- Indentation of the text relative to its surroundings, if it is given. -/
  increment : Option Nat
deriving DecidableEq, Repr

namespace Block

def chomping? (character : Char) : Option Chomping :=
  if character == '+' then some .keep
  else if character == '-' then some .strip
  else none

def increment? (character : Char) : Option Nat :=
  if character.isDigit then some (character.toNat - '0'.toNat) else none

/-- The indicators of a header, in either order. -/
def indicators? (cursor : Cursor) : Option (BlockHeader × Cursor) :=
  let finish (header : BlockHeader) (next : Cursor) : Option (BlockHeader × Cursor) :=
    if header.increment == some 0 then none
    else if Cursor.endsPart next.head? then some (header, next)
    else none
  match cursor.head?.bind chomping?, cursor.head?.bind increment? with
  | some chomping, _ =>
      match cursor.next.head?.bind increment? with
      | some increment => finish ⟨chomping, some increment⟩ (cursor.advance 2)
      | none => finish ⟨chomping, none⟩ cursor.next
  | none, some increment =>
      match cursor.next.head?.bind chomping? with
      | some chomping => finish ⟨chomping, some increment⟩ (cursor.advance 2)
      | none => finish ⟨.clip, some increment⟩ cursor.next
  | none, none => finish ⟨.clip, none⟩ cursor

/-- The rest of a line that may hold only a comment, with its break. -/
def ignoredLine? (cursor : Cursor) : Option Cursor :=
  let afterSpaces := cursor.skipSpaces
  let atEnd := if afterSpaces.head? == some '#' then afterSpaces.skipLine else afterSpaces
  if Cursor.endsLine atEnd.head? then
    some (((atEnd.lineBreak?).map Prod.snd).getD atEnd)
  else none

/-- Moves over spaces up to a column. -/
def indentTo (indent : Nat) : Nat → Cursor → Cursor
  | 0, cursor => cursor
  | fuel + 1, cursor =>
      if cursor.column < indent && cursor.head? == some ' ' then indentTo indent fuel cursor.next
      else cursor

/-- The breaks of empty lines, up to the indentation of the next line. -/
def breaks (indent : Nat) : Nat → Cursor → List Char × Cursor
  | 0, cursor => ([], cursor)
  | fuel + 1, cursor =>
      let next := indentTo indent indent cursor
      match next.lineBreak? with
      | none => ([], next)
      | some (character, later) =>
          let (further, last) := breaks indent fuel later
          (character :: further, last)

/-- The breaks of the lines before the text, and the greatest column of a space there. -/
def leadingBreaks : Nat → Nat → Cursor → List Char × Nat × Cursor
  | 0, deepest, cursor => ([], deepest, cursor)
  | fuel + 1, deepest, cursor =>
      if cursor.head? == some ' ' then
        leadingBreaks fuel (max deepest cursor.next.column) cursor.next
      else
        match cursor.lineBreak? with
        | none => ([], deepest, cursor)
        | some (character, next) =>
            let (further, found, last) := leadingBreaks fuel deepest next
            (character :: further, found, last)

/-- The lines of a block scalar, at most `fuel` of them, behind the breaks before them;
with the last break and the breaks that follow it. -/
def lines
    (folded : Bool)
    (indent : Nat) :
    Nat → List Char → List Char → Cursor → List Char × List Char × List Char × Cursor
  | 0, lastBreak, before, cursor => ([], lastBreak, before, cursor)
  | fuel + 1, lastBreak, before, cursor =>
      if cursor.column == indent && !cursor.rest.isEmpty then
        let startsWithText := !cursor.headIs isSpaceOrTab
        let (line, atEnd) := cursor.takeWhile fun character => !isBreak character
        let (lineEnd, next) :=
          match atEnd.lineBreak? with
          | some (character, later) => ([character], later)
          | none => ([], atEnd)
        let (further, nextLine) := breaks indent (next.rest.length + 1) next
        if nextLine.column == indent && !nextLine.rest.isEmpty then
          let between :=
            if folded && lineEnd == ['\n'] && startsWithText && !nextLine.headIs isSpaceOrTab then
              if further.isEmpty then [' '] else []
            else lineEnd
          let (text, finalBreak, trailing, last) :=
            lines folded indent fuel lineEnd further nextLine
          (before ++ line ++ between ++ text, finalBreak, trailing, last)
        else (before ++ line, lineEnd, further, nextLine)
      else ([], lastBreak, before, cursor)

/-- A block scalar, from its mark on, inside a collection of the given indentation. -/
def read?
    (folded : Bool)
    (indent : Int)
    (cursor : Cursor) : Option (List Char × Cursor) := do
  let (header, afterHeader) ← indicators? cursor.next
  let body ← ignoredLine? afterHeader
  let least := (max (indent + 1) 1).toNat
  let fuel := body.rest.length + 1
  let (before, deepest, first) :=
    match header.increment with
    | none =>
        let (found, deepest, first) := leadingBreaks fuel 0 body
        (found, max least deepest, first)
    | some increment =>
        let deepest := least + increment - 1
        let (found, first) := breaks deepest fuel body
        (found, deepest, first)
  let (text, lastBreak, trailing, last) := lines folded deepest fuel [] before first
  match header.chomping with
  | .strip => return (text, last)
  | .clip => return (text ++ lastBreak, last)
  | .keep => return (text ++ lastBreak ++ trailing, last)

end Block

end DeferredText.Yaml
