import DeferredText.Yaml.Node
import DeferredText.Yaml.Numeral

/-!
Contract: the values that YAML texts describe.

Owns: the value of a tagged scalar, the entries that a mapping takes over from
others, and `Yaml.valueOf`, the value of a whole text.

Does not own: what a configuration does with such a value (`Config.Loader`).
-/

namespace DeferredText.Yaml

/-- Why a text has no value: it breaks the rules, or a scalar does not fit its tag. -/
inductive Fault where
  | malformed
  | failed (failure : Failure)
deriving Repr

def ofOutcome {Result : Type}
    (outcome : Outcome Result) : Except Fault Result :=
  outcome.mapError Fault.failed

/-! ### Scalars -/

/-- Value of a character of data in base 64. -/
def sixBits? (character : Char) : Option Nat :=
  let code := character.toNat
  if 65 ≤ code ∧ code ≤ 90 then some (code - 65)
  else if 97 ≤ code ∧ code ≤ 122 then some (code - 71)
  else if 48 ≤ code ∧ code ≤ 57 then some (code + 4)
  else if character = '+' then some 62
  else if character = '/' then some 63
  else none

/-- The bytes that data in base 64 spells; `position` is the place in a group of four and
`held` the bits left over. Other characters than those of the base are skipped. -/
def decodeGroups : Nat → Nat → Nat → List Char → Option (List UInt8)
  | position, _, _, [] => if position = 0 then some [] else none
  | position, held, padding, head :: rest =>
      if head == '=' then
        if 2 ≤ position ∧ 4 ≤ position + padding + 1 then some []
        else decodeGroups position held (if 2 ≤ position then padding + 1 else padding) rest
      else
        match sixBits? head with
        | none => decodeGroups position held padding rest
        | some bits =>
            if position = 0 then decodeGroups 1 bits 0 rest
            else
              let width := 2 * position
              let joined := held * 64 + bits
              let kept := joined % 2 ^ (6 - width)
              (decodeGroups ((position + 1) % 4) kept 0 rest).map
                (UInt8.ofNat (joined / 2 ^ (6 - width)) :: ·)

def bytesOf? (text : List Char) : Option (List UInt8) :=
  if text.all fun character => character.toNat < 128 then decodeGroups 0 0 0 text else none

def truthOf (text : List Char) : Outcome Value :=
  let lower := String.ofList (text.map Char.toLower)
  match Tag.truthWords.find? fun entry => entry.1 == lower with
  | some (_, truth) => .ok (.bool truth)
  | none => .error (.withMessage .missingKey lower)

def momentOf (text : List Char) : Outcome Value :=
  match Timestamp.read? text with
  | some stamp => stamp.value
  | none =>
      .error (.withMessage .missingAttribute "'NoneType' object has no attribute 'groupdict'")

/-- The value of a scalar with a tag. -/
def scalarValue
    (tag : Tag)
    (text : List Char) : Except Fault Value :=
  match tag with
  | .null => .ok .none
  | .boolean => ofOutcome (truthOf text)
  | .integer => ofOutcome ((Numeral.integer text).map Value.int)
  | .float => ofOutcome ((Numeral.float text).map Value.float)
  | .string => .ok (.text (String.ofList text))
  | .timestamp => ofOutcome (momentOf text)
  | .binary =>
      match bytesOf? text with
      | some content => .ok (.bytes content)
      | none => .error .malformed
  | _ => .error .malformed

/-! ### Nodes -/

namespace Node

def tag : Node → Tag
  | .scalar tag _ => tag
  | .sequence tag _ => tag
  | .mapping tag _ => tag

mutual

/-- The text of a scalar, or of the scalar that a mapping stands for. -/
def scalarText? : Node → Option (List Char)
  | .scalar _ text => some text
  | .sequence _ _ => none
  | .mapping _ pairs => standIn? pairs

def standIn? : List (Node × Node) → Option (List Char)
  | [] => none
  | (key, value) :: rest => if key.tag = .value then scalarText? value else standIn? rest

end

/-- Whether a value may be the key of an entry. -/
def isKey : Value → Bool
  | .opaqueOf name => name != "set"
  | value => value.unhashable?.isNone

/-- The entries of a mapping: those it takes over, and its own behind them. -/
structure Gathered where
  taken : Entries
  own : Entries

def Gathered.entries (gathered : Gathered) : Entries :=
  gathered.taken ++ gathered.own

mutual

/-- The value of a node. -/
def value : Node → Except Fault Value
  | .sequence .sequence items => do return .list (← values items)
  | .sequence .orderedMapping items => do return .list (← pairValues items)
  | .sequence .pairs items => do return .list (← pairValues items)
  | .mapping .mapping pairs => do
      return .dict (Entries.ofPairs (← gather pairs).entries)
  | .mapping .set pairs => do
      let _ ← gather pairs
      return .opaqueOf "set"
  | .scalar tag text => scalarValue tag text
  | .mapping tag pairs =>
      match standIn? pairs with
      | some text => scalarValue tag text
      | none => .error .malformed
  | .sequence _ _ => .error .malformed

def values : List Node → Except Fault (List Value)
  | [] => .ok []
  | item :: rest => do return (← value item) :: (← values rest)

/-- The value of a key. -/
def keyValue : Node → Except Fault Value
  | .scalar tag text =>
      if tag = .value then .ok (.text (String.ofList text)) else scalarValue tag text
  | other => do
      let found ← value other
      if isKey found then return found else throw .malformed

/-- The entries of a mapping, given by its pairs. -/
def gather : List (Node × Node) → Except Fault Gathered
  | [] => .ok ⟨[], []⟩
  | (key, item) :: rest => do
      if key.tag = .merge then
        let taken ← takenFrom item
        let gathered ← gather rest
        return { gathered with taken := taken ++ gathered.taken }
      else
        let name ← keyValue key
        let found ← value item
        let gathered ← gather rest
        return { gathered with own := (name, found) :: gathered.own }

/-- The entries to take over from a mapping, or from a list of mappings, of which the
first one counts most. -/
def takenFrom : Node → Except Fault Entries
  | .mapping _ pairs => do return (← gather pairs).entries
  | .sequence _ items => takenFromAll items
  | .scalar _ _ => .error .malformed

def takenFromAll : List Node → Except Fault Entries
  | [] => .ok []
  | .mapping _ pairs :: rest => do
      let taken := (← gather pairs).entries
      return (← takenFromAll rest) ++ taken
  | _ => .error .malformed

/-- The pairs of a list of mappings with one entry each. -/
def pairValues : List Node → Except Fault (List Value)
  | [] => .ok []
  | .mapping _ [(key, item)] :: rest => do
      let pair : Value := .tuple [← value key, ← value item]
      return pair :: (← pairValues rest)
  | _ => .error .malformed

end

end Node

/-- The value of the document in a text, none for a text without a document. -/
def valueOf (text : String) : Except Fault Value :=
  match Node.ofText? text.toList with
  | none => .error .malformed
  | some none => .ok .none
  | some (some root) => root.value

end DeferredText.Yaml
