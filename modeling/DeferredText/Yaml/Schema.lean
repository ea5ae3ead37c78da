import DeferredText.Yaml.Timestamp

/-!
Contract: what scalars and collections stand for.

A tag says what a node stands for. A plain scalar without one has the tag that its
text fits.

Owns: tags, their names, and the tag of a plain scalar.

Does not own: the values that tagged nodes have (`Yaml.Value`).
-/

namespace DeferredText.Yaml

inductive Tag where
  | null
  | boolean
  | integer
  | float
  | string
  | sequence
  | mapping
  | binary
  | timestamp
  | orderedMapping
  | pairs
  | set
  /-- The key of entries to take over from other mappings. -/
  | merge
  /-- The key of the value that a mapping stands for. -/
  | value
  | unknown
deriving DecidableEq, Repr

namespace Tag

/-- Start of the names of all known tags. -/
def known : List Char :=
  "tag:yaml.org,2002:".toList

def shortNames : List (String × Tag) :=
  [("null", .null), ("bool", .boolean), ("int", .integer), ("float", .float), ("str", .string),
    ("seq", .sequence), ("map", .mapping), ("binary", .binary), ("timestamp", .timestamp),
    ("omap", .orderedMapping), ("pairs", .pairs), ("set", .set), ("merge", .merge),
    ("value", .value)]

def ofName (name : List Char) : Tag :=
  ((shortNames.find? fun entry => known ++ entry.1.toList == name).map Prod.snd).getD .unknown

/-! ### Plain scalars -/

def truthWords : List (String × Bool) :=
  [("yes", true), ("no", false), ("true", true), ("false", false), ("on", true), ("off", false)]

def capitalized : List Char → List Char
  | [] => []
  | head :: rest => head.toUpper :: rest

/-- A word in lower case, in upper case, or with a capital. -/
def isCased
    (word : String)
    (text : List Char) : Bool :=
  let lower := word.toList
  text == lower || text == lower.map Char.toUpper || text == capitalized lower

def isBoolean (text : List Char) : Bool :=
  truthWords.any fun entry => isCased entry.1 text

def isNull (text : List Char) : Bool :=
  text.isEmpty || text == ['~'] || isCased "null" text

def withoutSign : List Char → List Char
  | '-' :: rest => rest
  | '+' :: rest => rest
  | text => text

def isDigitOrLine (character : Char) : Bool :=
  character.isDigit || character == '_'

def isHexOrLine (character : Char) : Bool :=
  isDigitOrLine character || ('a' ≤ character && character ≤ 'f') ||
    ('A' ≤ character && character ≤ 'F')

def isRunOf
    (test : Char → Bool)
    (text : List Char) : Bool :=
  !text.isEmpty && text.all test

/-- A digit, with digits and low lines behind it. -/
def startsWithDigit (text : List Char) : Bool :=
  (text.head?.any Char.isDigit) && text.all isDigitOrLine

/-- Up to two digits below sixty. -/
def isSixtieth : List Char → Bool
  | [ones] => ones.isDigit
  | [tens, ones] => '0' ≤ tens && tens ≤ '5' && ones.isDigit
  | _ => false

/-- The parts of a text between its colons: the first, and those behind it. -/
def colonParts : List Char → List Char × List (List Char)
  | [] => ([], [])
  | head :: rest =>
      let (first, others) := colonParts rest
      if head == ':' then ([], first :: others) else (head :: first, others)

def isInteger (text : List Char) : Bool :=
  match withoutSign text with
  | ['0'] => true
  | '0' :: 'b' :: digits =>
      isRunOf (fun digit => digit == '0' || digit == '1' || digit == '_') digits
  | '0' :: 'x' :: digits => isRunOf isHexOrLine digits
  | '0' :: digits => digits.all fun digit => ('0' ≤ digit && digit ≤ '7') || digit == '_'
  | unsigned =>
      let (first, others) := colonParts unsigned
      startsWithDigit first && others.all isSixtieth

/-- The exponent of a number with a point, with its sign, or nothing. -/
def isExponent : List Char → Bool
  | [] => true
  | mark :: sign :: digits =>
      (mark == 'e' || mark == 'E') && (sign == '+' || sign == '-') && isRunOf Char.isDigit digits
  | _ => false

/-- What may follow the point of a number. -/
def isFraction (text : List Char) : Bool :=
  isExponent (text.dropWhile isDigitOrLine)

/-- The texts in front of and behind the first point, if there is one. -/
def pointParts? (text : List Char) : Option (List Char × List Char) :=
  match text.dropWhile fun found => found != '.' with
  | [] => none
  | _ :: fraction => some (text.takeWhile fun found => found != '.', fraction)

def isFloat (text : List Char) : Bool :=
  let unsigned := withoutSign text
  match pointParts? unsigned with
  | none => false
  | some ([], fraction) =>
      isCased "inf" fraction ||
        (text.head? == some '.' &&
          (fraction == ['n', 'a', 'n'] || fraction == ['N', 'a', 'N'] ||
            fraction == ['N', 'A', 'N'] ||
            ((fraction.head?.any Char.isDigit) && isFraction fraction)))
  | some (whole, fraction) =>
      let (first, others) := colonParts whole
      startsWithDigit first &&
        (if others.isEmpty then isFraction fraction
        else others.all isSixtieth && fraction.all isDigitOrLine)

/-- The tag that the text of a plain scalar fits. -/
def ofPlain (text : List Char) : Tag :=
  if isBoolean text then .boolean
  else if isFloat text then .float
  else if isInteger text then .integer
  else if text == ['<', '<'] then .merge
  else if isNull text then .null
  else if Timestamp.isImplicit text then .timestamp
  else if text == ['='] then .value
  else .string

end Tag

end DeferredText.Yaml
