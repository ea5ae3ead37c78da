import DeferredText.Number.Binary64

/-!
Contract: the dynamic values that templates compute with.

Owns: the value type, the kinds of exceptional values, type names, truth, equality,
hashing restrictions, and insertion-ordered mappings keyed by values.

Does not own: the text of values (`Value.Text`) and their attributes (`Value.Access`).
-/

namespace DeferredText

/-- Kinds of exceptions a helper may raise or the library itself reports. -/
inductive ErrorKind where
  | badValue
  | wrongType
  | missingKey
  | outOfRange
  | lookup
  | runtime
  | system (variant : String)
  | missingAttribute
  | zeroDivision
  | notImplemented
  | overflow
  | assertion
deriving DecidableEq, Repr

namespace ErrorKind

def name : ErrorKind → String
  | .badValue => "ValueError"
  | .wrongType => "TypeError"
  | .missingKey => "KeyError"
  | .outOfRange => "IndexError"
  | .lookup => "LookupError"
  | .runtime => "RuntimeError"
  | .system variant => variant
  | .missingAttribute => "AttributeError"
  | .zeroDivision => "ZeroDivisionError"
  | .notImplemented => "NotImplementedError"
  | .overflow => "OverflowError"
  | .assertion => "AssertionError"

end ErrorKind

/-- A value of an expression, of template data, or returned by a helper. -/
inductive Value where
  | none
  | bool (truth : Bool)
  | int (number : Int)
  | float (datum : Binary64)
  | complex (realPart imaginaryPart : Binary64)
  | text (content : String)
  | bytes (content : List UInt8)
  | ellipsis
  | list (items : List Value)
  | tuple (items : List Value)
  | dict (entries : List (Value × Value))
  /-- An object known only by its attributes, and told apart from others by its identity. -/
  | object (identity : Nat) (attributes : List (String × Value))
  | exception (kind : ErrorKind) (arguments : List Value)
  /-- A value of which only the name of its type can be observed. -/
  | opaqueOf (typeName : String)
deriving Repr, Inhabited

namespace Value

def typeName : Value → String
  | .none => "NoneType"
  | .bool _ => "bool"
  | .int _ => "int"
  | .float _ => "float"
  | .complex _ _ => "complex"
  | .text _ => "str"
  | .bytes _ => "bytes"
  | .ellipsis => "ellipsis"
  | .list _ => "list"
  | .tuple _ => "tuple"
  | .dict _ => "dict"
  | .object _ _ => "Obj"
  | .exception kind _ => kind.name
  | .opaqueOf name => name

/-- Empty containers, zeros, `false` and `none` are false; every other value is true. -/
def truthy : Value → Bool
  | .none => false
  | .bool truth => truth
  | .int number => number != 0
  | .float datum => !datum.isZero
  | .complex realPart imaginaryPart => !(realPart.isZero && imaginaryPart.isZero)
  | .text content => content != ""
  | .bytes content => !content.isEmpty
  | .list items => !items.isEmpty
  | .tuple items => !items.isEmpty
  | .dict entries => !entries.isEmpty
  | _ => true

def isNone : Value → Bool
  | .none => true
  | _ => false

def text? : Value → Option String
  | .text content => some content
  | _ => Option.none

/-- Truth values count as the integers zero and one. -/
def int? : Value → Option Int
  | .int number => some number
  | .bool truth => some (if truth then 1 else 0)
  | _ => Option.none

def dict? : Value → Option (List (Value × Value))
  | .dict entries => some entries
  | _ => Option.none

/-- A numeric value as a real and an imaginary part, each an integer or a datum. -/
inductive Numeric where
  | whole (number : Int)
  | datum (datum : Binary64)
  | complex (realPart imaginaryPart : Binary64)

def numeric? : Value → Option Numeric
  | .bool truth => some (.whole (if truth then 1 else 0))
  | .int number => some (.whole number)
  | .float datum => some (.datum datum)
  | .complex realPart imaginaryPart => some (.complex realPart imaginaryPart)
  | _ => Option.none

/-- Equality of one datum with itself as a stored key, where `nan` is found again. -/
def sameDatum
    (left right : Binary64) : Bool :=
  left.numEq right || (left == .nan && right == .nan)

def Numeric.same : Numeric → Numeric → Bool
  | .whole left, .whole right => left == right
  | .whole left, .datum right => right.eqInt left
  | .datum left, .whole right => left.eqInt right
  | .datum left, .datum right => sameDatum left right
  | .whole left, .complex realPart imaginaryPart =>
      realPart.eqInt left && imaginaryPart.isZero
  | .complex realPart imaginaryPart, .whole right =>
      realPart.eqInt right && imaginaryPart.isZero
  | .datum left, .complex realPart imaginaryPart =>
      sameDatum left realPart && imaginaryPart.isZero
  | .complex realPart imaginaryPart, .datum right =>
      sameDatum realPart right && imaginaryPart.isZero
  | .complex leftReal leftImaginary, .complex rightReal rightImaginary =>
      sameDatum leftReal rightReal && sameDatum leftImaginary rightImaginary

mutual

/-- Equality of values: numbers by their value, containers by their items, objects by their
identity. -/
def same : Value → Value → Bool
  | .none, .none => true
  | .text left, .text right => left == right
  | .bytes left, .bytes right => left == right
  | .ellipsis, .ellipsis => true
  | .list left, .list right => sameItems left right
  | .tuple left, .tuple right => sameItems left right
  | .dict left, .dict right => sameEntries left right
  | .object left _, .object right _ => left == right
  | .exception leftKind left, .exception rightKind right =>
      leftKind == rightKind && sameItems left right
  | .opaqueOf left, .opaqueOf right => left == right
  | left, right =>
      match left.numeric?, right.numeric? with
      | some first, some second => first.same second
      | _, _ => false

def sameItems : List Value → List Value → Bool
  | [], [] => true
  | left :: leftRest, right :: rightRest => same left right && sameItems leftRest rightRest
  | _, _ => false

def sameEntries : List (Value × Value) → List (Value × Value) → Bool
  | [], [] => true
  | (leftKey, left) :: leftRest, (rightKey, right) :: rightRest =>
      same leftKey rightKey && same left right && sameEntries leftRest rightRest
  | _, _ => false

end

mutual

/-- The type name of the first part that cannot be hashed, if there is one. -/
def unhashable? : Value → Option String
  | .list _ => some "list"
  | .dict _ => some "dict"
  | .tuple items => unhashableItem? items
  | _ => Option.none

def unhashableItem? : List Value → Option String
  | [] => Option.none
  | item :: rest =>
      match unhashable? item with
      | some name => some name
      | Option.none => unhashableItem? rest

end

end Value

/-- A mapping in insertion order. -/
abbrev Entries := List (Value × Value)

namespace Entries

def get?
    (entries : Entries)
    (key : Value) : Option Value :=
  (List.find? (fun entry => key.same entry.1) entries).map Prod.snd

/-- Sets the value of a key, which keeps its place, or adds it at the end. -/
def insert : Entries → Value → Value → Entries
  | [], key, value => [(key, value)]
  | entry :: rest, key, value =>
      if key.same entry.1 then (entry.1, value) :: rest else entry :: insert rest key value

def getText?
    (entries : Entries)
    (key : String) : Option Value :=
  get? entries (.text key)

/-- A mapping with the given pairs, later ones setting the value of equal keys. -/
def ofPairs (pairs : List (Value × Value)) : Entries :=
  pairs.foldl (fun entries pair => insert entries pair.1 pair.2) []

end Entries

end DeferredText
