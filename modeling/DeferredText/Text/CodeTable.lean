/-!
Contract: tables over Unicode code points, written as text.

A table is a run of words such as `41-5A`, `100-12E/2:101` or `DF:53.53`: first and
last code point, the step between members, and the code points they map to, all
in hexadecimal.

Owns: reading the notation, membership and lookup.

Does not own: any character property; each has a module of its own.
-/

namespace DeferredText

/-- The members `first`, `first + step`, … up to `last`, with what they map to. -/
structure CodeRun where
  first : Nat
  last : Nat
  step : Nat
  targets : List Nat
deriving DecidableEq, Repr

abbrev CodeTable := List CodeRun

namespace CodeRun

def holds
    (run : CodeRun)
    (code : Nat) : Bool :=
  run.first ≤ code && code ≤ run.last && (code - run.first) % run.step == 0

/-- The image of a member: every target moved by the member's offset in the run. -/
def image
    (run : CodeRun)
    (code : Nat) : List Nat :=
  run.targets.map fun target => target + (code - run.first)

end CodeRun

namespace CodeTable

/-- Maximal runs of characters other than `separator`. -/
def splitAt
    (separator : Char) : List Char → List (List Char)
  | [] => [[]]
  | head :: tail =>
      match splitAt separator tail with
      | [] => [[head]]
      | first :: rest => if head = separator then [] :: first :: rest else (head :: first) :: rest

def hexDigit (digit : Char) : Nat :=
  if digit.isDigit then digit.toNat - '0'.toNat else digit.toNat - 'A'.toNat + 10

def hexNumber (digits : List Char) : Nat :=
  digits.foldl (fun total digit => total * 16 + hexDigit digit) 0

def readRun (word : List Char) : CodeRun :=
  let sides := splitAt ':' word
  let source := splitAt '/' (sides.headD [])
  let bounds := (splitAt '-' (source.headD [])).map hexNumber
  let targets := (sides.drop 1).flatMap fun side => (splitAt '.' side).map hexNumber
  { first := bounds.headD 0
    last := (bounds.drop 1).headD (bounds.headD 0)
    step := ((source.drop 1).map hexNumber).headD 1
    targets := targets }

/-- The words of a text, which blanks and line ends separate. -/
def words (text : String) : List (List Char) :=
  let onOneLine := text.toList.map fun character => if character = '\n' then ' ' else character
  (splitAt ' ' onOneLine).filter fun word => !word.isEmpty

def ofText (text : String) : CodeTable :=
  (words text).map readRun

def run?
    (table : CodeTable)
    (code : Nat) : Option CodeRun :=
  table.find? fun run => run.holds code

def contains
    (table : CodeTable)
    (code : Nat) : Bool :=
  table.any fun run => run.holds code

/-- What a code point maps to, or none outside the table. -/
def lookup?
    (table : CodeTable)
    (code : Nat) : Option (List Nat) :=
  (table.run? code).map fun run => run.image code

/-- The number attached to a code point, shared by all members of its run. -/
def label
    (table : CodeTable)
    (code : Nat) : Nat :=
  match table.run? code with
  | some run => run.targets.headD 0
  | none => 0

end CodeTable

end DeferredText
