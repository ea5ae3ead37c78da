import DeferredText.Yaml.Scalar

/-!
Contract: the tokens of a YAML text.

Blocks open where the indentation grows and close where it shrinks. A key in front
of a colon is recognised only at that colon: its place among the tokens is
remembered until then.

Owns: the tokens, the state of reading them, and `Token.ofText?`, which fails where
the text breaks the rules.

Does not own: the collections that tokens form (`Yaml.Node`).
-/

namespace DeferredText.Yaml

/-- What a tag is written with: a handle that stands for the start of its name, or
nothing if the name is complete. -/
structure TagName where
  handle : Option (List Char)
  suffix : List Char
deriving DecidableEq, Repr

inductive Token where
  /-- A directive that gives the version of the notation. -/
  | version (major : List Char)
  /-- A directive that says what a tag handle stands for. -/
  | handle (name target : List Char)
  /-- A directive without a meaning. -/
  | remark
  | documentStart
  | documentEnd
  | blockSequence
  | blockMapping
  | blockEnd
  | flowSequence
  | flowSequenceEnd
  | flowMapping
  | flowMappingEnd
  | blockEntry
  | flowEntry
  | key
  | value
  | alias (name : List Char)
  | anchor (name : List Char)
  | tag (name : TagName)
  | scalar (text : List Char) (isPlain : Bool)
  | finish
deriving DecidableEq, Repr

/-! ### Names, tags and directives -/

/-- A non-empty run of letters, digits, hyphens and underscores. -/
def word? (cursor : Cursor) : Option (List Char × Cursor) :=
  let (word, next) := cursor.takeWhile isWordCharacter
  if word.isEmpty then none else some (word, next)

/-- The name of an anchor, behind its mark. -/
def anchorName? (cursor : Cursor) : Option (List Char × Cursor) := do
  let (name, next) ← word? cursor
  if Cursor.endsWord next.head? ||
      next.headIs fun found => ['?', ':', ',', ']', '\x7d', '%', '@', '\x60'].contains found then
    return (name, next)
  else none

def isTagCharacter (character : Char) : Bool :=
  isWordCharacter character || ";/?:@&=+$,.!~*'()[]".toList.contains character

/-- One byte, written as a percent sign and two hexadecimal digits. -/
def escapedByte? (cursor : Cursor) : Option (UInt8 × Cursor) := do
  let high ← (← cursor.ahead? 1) |> Quoted.hexValue?
  let low ← (← cursor.ahead? 2) |> Quoted.hexValue?
  return (UInt8.ofNat (high * 16 + low), cursor.advance 3)

/-- A run of escaped bytes. -/
def escapedBytes? : Nat → Cursor → Option (List UInt8 × Cursor)
  | 0, cursor => some ([], cursor)
  | fuel + 1, cursor =>
      if cursor.head? == some '%' then do
        let (byte, next) ← escapedByte? cursor
        let (further, last) ← escapedBytes? fuel next
        return (byte :: further, last)
      else some ([], cursor)

/-- Part of the name of a tag; escaped bytes spell characters in UTF-8. -/
def tagPart? : Nat → Cursor → Option (List Char × Cursor)
  | 0, cursor => some ([], cursor)
  | fuel + 1, cursor =>
      if cursor.head? == some '%' then do
        let (bytes, next) ← escapedBytes? cursor.rest.length cursor
        let decoded ← String.fromUTF8? ⟨bytes.toArray⟩
        let (further, last) ← tagPart? fuel next
        return (decoded.toList ++ further, last)
      else
        let (run, next) := cursor.takeWhile isTagCharacter
        if run.isEmpty then some ([], cursor)
        else do
          let (further, last) ← tagPart? fuel next
          return (run ++ further, last)

/-- A non-empty part of the name of a tag. -/
def tagUri? (cursor : Cursor) : Option (List Char × Cursor) :=
  if cursor.headIs fun found => found == '%' || isTagCharacter found then
    tagPart? (cursor.rest.length + 1) cursor
  else none

/-- A handle: an exclamation mark, or a word between two of them. -/
def tagHandle? (cursor : Cursor) : Option (List Char × Cursor) := do
  if cursor.head? != some '!' then none
  else if cursor.ahead? 1 == some ' ' then return (['!'], cursor.next)
  else
    let (word, next) := cursor.next.takeWhile isWordCharacter
    if next.head? != some '!' then none
    else return ('!' :: word ++ ['!'], next.next)

/-- A tag, from its exclamation mark on. -/
def tagName? (cursor : Cursor) : Option (TagName × Cursor) := do
  let (name, next) ←
    if cursor.ahead? 1 == some '<' then do
      let (suffix, next) ← tagUri? (cursor.advance 2)
      if next.head? != some '>' then none
      else some (⟨none, suffix⟩, next.next)
    else if Cursor.endsWord (cursor.ahead? 1) then
      some (⟨none, ['!']⟩, cursor.next)
    else do
      let line := cursor.next.rest.takeWhile fun found => !Cursor.endsPart (some found)
      let (handle, afterHandle) ←
        if line.contains '!' then tagHandle? cursor else some (['!'], cursor.next)
      let (suffix, next) ← tagUri? afterHandle
      some (⟨some handle, suffix⟩, next)
  if Cursor.endsPart next.head? then return (name, next) else none

/-- Decimal digits. -/
def digits? (cursor : Cursor) : Option (List Char × Cursor) :=
  let (digits, next) := cursor.takeWhile Char.isDigit
  if digits.isEmpty then none else some (digits, next)

/-- A directive, from its percent sign on. -/
def directive? (cursor : Cursor) : Option (Token × Cursor) := do
  let (name, afterName) ← word? cursor.next
  if !Cursor.endsPart afterName.head? then none
  else
    let arguments := afterName.skipSpaces
    let (token, next) ←
      if name == "YAML".toList then do
        let (major, afterMajor) ← digits? arguments
        if afterMajor.head? != some '.' then none
        else
          let (_, next) ← digits? afterMajor.next
          if Cursor.endsPart next.head? then some (Token.version major, next) else none
      else if name == "TAG".toList then do
        let (handle, afterHandle) ← tagHandle? arguments
        if afterHandle.head? != some ' ' then none
        else
          let (target, next) ← tagUri? afterHandle.skipSpaces
          if Cursor.endsPart next.head? then some (Token.handle handle target, next) else none
      else some (Token.remark, arguments.skipLine)
    return (token, ← Block.ignoredLine? next)

/-! ### The state of reading -/

/-- A token that may turn out to start a key. -/
structure PendingKey where
  flowLevel : Nat
  tokenNumber : Nat
  /-- Whether the text is only right if it is a key. -/
  isRequired : Bool
  index : Nat
  line : Nat
  column : Nat
deriving DecidableEq, Repr

structure Reading where
  cursor : Cursor
  tokens : Array Token
  flowLevel : Nat
  /-- Column of the innermost open block, and of those around it. -/
  indent : Int
  outerIndents : List Int
  /-- Whether a key may start at the next token. -/
  allowsKey : Bool
  pendingKeys : List PendingKey

namespace Reading

def start (text : List Char) : Reading :=
  { cursor := Cursor.start text
    tokens := #[]
    flowLevel := 0
    indent := -1
    outerIndents := []
    allowsKey := true
    pendingKeys := [] }

def inFlow (reading : Reading) : Bool :=
  reading.flowLevel != 0

def emit
    (reading : Reading)
    (token : Token) : Reading :=
  { reading with tokens := reading.tokens.push token }

/-- Puts a token in front of the one with a given number. -/
def emitAt
    (reading : Reading)
    (number : Nat)
    (token : Token) : Reading :=
  { reading with
    tokens :=
      reading.tokens.extract 0 number ++ #[token] ++
        reading.tokens.extract number reading.tokens.size }

/-- Number of blocks that a column closes, and the indentations that stay open. -/
def closedBlocks
    (column : Int) : Int → List Int → Nat × Int × List Int
  | indent, [] => (0, indent, [])
  | indent, outer :: rest =>
      if column < indent then
        let (count, kept, keptOuter) := closedBlocks column outer rest
        (count + 1, kept, keptOuter)
      else (0, indent, outer :: rest)

/-- Closes the blocks deeper than a column. Nothing closes inside a flow collection. -/
def unwind
    (reading : Reading)
    (column : Int) : Reading :=
  if reading.inFlow then reading
  else
    let (count, indent, outerIndents) := closedBlocks column reading.indent reading.outerIndents
    { reading with
      tokens := reading.tokens ++ (List.replicate count Token.blockEnd).toArray
      indent := indent
      outerIndents := outerIndents }

/-- Whether a block at a column is a new one. -/
def deepens
    (reading : Reading)
    (column : Nat) : Bool :=
  reading.indent < (column : Int)

def deepen
    (reading : Reading)
    (column : Nat) : Reading :=
  { reading with
    indent := column
    outerIndents := reading.indent :: reading.outerIndents }

/-- Starts a block at the cursor if the column is deeper. -/
def openBlock
    (reading : Reading)
    (token : Token) : Reading :=
  let column := reading.cursor.column
  if reading.deepens column then (reading.deepen column).emit token else reading

/-- Gives up the possible key of this level; fails if it had to be one. -/
def forgetKey (reading : Reading) : Option Reading :=
  let atLevel (key : PendingKey) : Bool := key.flowLevel == reading.flowLevel
  if reading.pendingKeys.any fun key => atLevel key && key.isRequired then none
  else some { reading with pendingKeys := reading.pendingKeys.filter fun key => !atLevel key }

/-- A key ends on its line and within 1024 characters. -/
def isStale
    (reading : Reading)
    (key : PendingKey) : Bool :=
  key.line != reading.cursor.line || 1024 < reading.cursor.index - key.index

def dropStaleKeys (reading : Reading) : Option Reading :=
  if reading.pendingKeys.any fun key => reading.isStale key && key.isRequired then none
  else
    some { reading with pendingKeys := reading.pendingKeys.filter fun key => !reading.isStale key }

/-- Notes that the next token may start a key. -/
def rememberKey (reading : Reading) : Option Reading :=
  if reading.allowsKey then do
    let cleared ← reading.forgetKey
    let key : PendingKey :=
      { flowLevel := reading.flowLevel
        tokenNumber := reading.tokens.size
        isRequired := !reading.inFlow && reading.indent == (reading.cursor.column : Int)
        index := reading.cursor.index
        line := reading.cursor.line
        column := reading.cursor.column }
    return { cleared with pendingKeys := cleared.pendingKeys ++ [key] }
  else some reading

/-- Emits a token read up to a cursor. -/
def accept
    (reading : Reading)
    (token : Token)
    (next : Cursor)
    (allowsKey : Bool) : Reading :=
  { reading.emit token with
    cursor := next
    allowsKey := allowsKey }

/-- Moves over blanks, comments and line breaks, at most `fuel` lines. -/
def skipBlanks : Nat → Reading → Reading
  | 0, reading => reading
  | fuel + 1, reading =>
      let afterSpaces := reading.cursor.skipSpaces
      let atEnd := if afterSpaces.head? == some '#' then afterSpaces.skipLine else afterSpaces
      match atEnd.lineBreak? with
      | some (_, next) =>
          skipBlanks fuel
            { reading with
              cursor := next
              allowsKey := reading.allowsKey || !reading.inFlow }
      | none => { reading with cursor := atEnd }

/-! ### One token -/

/-- A mark that separates documents or starts a directive. -/
def documentMark
    (reading : Reading)
    (token : Token)
    (next : Cursor) : Option Reading := do
  let cleared ← (reading.unwind (-1)).forgetKey
  return cleared.accept token next false

def flowStart
    (reading : Reading)
    (token : Token) : Option Reading := do
  let noted ← reading.rememberKey
  return { noted.accept token noted.cursor.next true with flowLevel := noted.flowLevel + 1 }

def flowEnd
    (reading : Reading)
    (token : Token) : Option Reading := do
  let cleared ← reading.forgetKey
  if cleared.inFlow then
    return { cleared.accept token cleared.cursor.next false with flowLevel := cleared.flowLevel - 1 }
  else none

def flowEntry (reading : Reading) : Option Reading := do
  let cleared ← reading.forgetKey
  return cleared.accept .flowEntry cleared.cursor.next true

def blockEntry (reading : Reading) : Option Reading := do
  if !reading.inFlow && !reading.allowsKey then none
  else
    let opened := if reading.inFlow then reading else reading.openBlock .blockSequence
    let cleared ← opened.forgetKey
    return cleared.accept .blockEntry cleared.cursor.next true

/-- A key that is marked as one. -/
def markedKey (reading : Reading) : Option Reading := do
  if !reading.inFlow && !reading.allowsKey then none
  else
    let opened := if reading.inFlow then reading else reading.openBlock .blockMapping
    let cleared ← opened.forgetKey
    return cleared.accept .key cleared.cursor.next (!reading.inFlow)

/-- A colon makes the possible key of its level a key. -/
def valueMark (reading : Reading) : Option Reading := do
  match reading.pendingKeys.find? fun key => key.flowLevel == reading.flowLevel with
  | some key =>
      let kept := reading.pendingKeys.filter fun other => other.flowLevel != reading.flowLevel
      let marked := { reading.emitAt key.tokenNumber .key with pendingKeys := kept }
      let opened :=
        if !reading.inFlow && reading.deepens key.column then
          (marked.deepen key.column).emitAt key.tokenNumber .blockMapping
        else marked
      return opened.accept .value opened.cursor.next false
  | none =>
      if !reading.inFlow && !reading.allowsKey then none
      else
        let opened := if reading.inFlow then reading else reading.openBlock .blockMapping
        let cleared ← opened.forgetKey
        return cleared.accept .value cleared.cursor.next (!reading.inFlow)

/-- A token that may start a key. -/
def keyCandidate
    (reading : Reading)
    (read : Cursor → Option (Token × Cursor)) : Option Reading := do
  let noted ← reading.rememberKey
  let (token, next) ← read noted.cursor
  return noted.accept token next false

def plainScalar (reading : Reading) : Option Reading := do
  let noted ← reading.rememberKey
  let (text, endsAtLineStart, next) := Plain.read noted.inFlow noted.indent noted.cursor
  return noted.accept (.scalar text true) next endsAtLineStart

def blockScalar
    (reading : Reading)
    (folded : Bool) : Option Reading := do
  let cleared ← reading.forgetKey
  let (text, next) ← Block.read? folded cleared.indent cleared.cursor
  return cleared.accept (.scalar text false) next true

/-- Whether a plain scalar may start with this character. -/
def startsPlain
    (reading : Reading)
    (head : Char) : Bool :=
  let followed := !Cursor.endsWord (reading.cursor.ahead? 1)
  let isIndicator :=
    Cursor.endsWord (some head) || "-?:,[]\x7b\x7d#&*!|>'\"%@\x60".toList.contains head
  !isIndicator ||
    (followed && (head == '-' || (!reading.inFlow && (head == '?' || head == ':'))))

/-- The token that starts with a character. -/
def token?
    (reading : Reading)
    (head : Char) : Option Reading :=
  let cursor := reading.cursor
  let standsAlone := Cursor.endsWord (cursor.ahead? 1)
  if head == '%' && cursor.column == 0 then do
    let (token, next) ← directive? cursor
    reading.documentMark token next
  else if cursor.column == 0 && cursor.atSeparator then
    reading.documentMark (if head == '-' then .documentStart else .documentEnd) (cursor.advance 3)
  else if head == '[' then reading.flowStart .flowSequence
  else if head == '\x7b' then reading.flowStart .flowMapping
  else if head == ']' then reading.flowEnd .flowSequenceEnd
  else if head == '\x7d' then reading.flowEnd .flowMappingEnd
  else if head == ',' then reading.flowEntry
  else if head == '-' && standsAlone then reading.blockEntry
  else if head == '?' && (reading.inFlow || standsAlone) then reading.markedKey
  else if head == ':' && (reading.inFlow || standsAlone) then reading.valueMark
  else if head == '*' then
    reading.keyCandidate fun place =>
      (anchorName? place.next).map fun found => (.alias found.1, found.2)
  else if head == '&' then
    reading.keyCandidate fun place =>
      (anchorName? place.next).map fun found => (.anchor found.1, found.2)
  else if head == '!' then
    reading.keyCandidate fun place =>
      (tagName? place).map fun found => (.tag found.1, found.2)
  else if (head == '|' || head == '>') && !reading.inFlow then
    reading.blockScalar (head == '>')
  else if head == '\'' || head == '"' then
    reading.keyCandidate fun place =>
      (Quoted.read? head place).map fun found => (.scalar found.1 false, found.2)
  else if reading.startsPlain head then reading.plainScalar
  else none

/-- The tokens up to the end of the text, at most `fuel` of them. -/
def run : Nat → Reading → Option (List Token)
  | 0, _ => none
  | fuel + 1, reading => do
      let current ← (skipBlanks (reading.cursor.rest.length + 1) reading).dropStaleKeys
      let unwound := current.unwind current.cursor.column
      match unwound.cursor.head? with
      | none =>
          let last ← (unwound.unwind (-1)).forgetKey
          return (last.emit .finish).tokens.toList
      | some head => run fuel (← unwound.token? head)

end Reading

/-- The tokens of a text. A byte order mark at its start is not part of it. -/
def Token.ofText? (text : List Char) : Option (List Token) :=
  let reading := Reading.start text
  let begun :=
    if text.head?.any fun head => head.toNat == 0xFEFF then
      { reading with cursor := reading.cursor.next }
    else reading
  if text.all isAllowed then Reading.run (text.length + 2) begun else none

end DeferredText.Yaml
