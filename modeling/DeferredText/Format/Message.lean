import DeferredText.Format.Field
import DeferredText.Format.Layout
import DeferredText.Value.Access

/-!
Contract: message templates filled in from a context.

A field names an entry of the context and may go on to attributes and items of its
value. A pattern may hold fields itself, one level deep. Filling stops at the first
field that cannot be filled in.

Owns: looking fields up and filling templates.

Does not own: what happens when a template cannot be filled in (`Report.Catalog`).
-/

namespace DeferredText

namespace Format

/-- An attribute of a value, private ones included. -/
def attributeOf
    (base : Value)
    (name : String) : Outcome Value :=
  match base.field? name with
  | some found => .ok found
  | none =>
      if base.methods.contains name then .ok (.opaqueOf "builtin_function_or_method")
      else
        let described := base.typeName
        .error (.withMessage .missingAttribute
          s!"'{described}' object has no attribute '{name}'")

def outOfRange (message : String) : Outcome Value :=
  .error (.withMessage .outOfRange message)

def notSubscriptable (base : Value) : Outcome Value :=
  let described := base.typeName
  .error (.wrongType s!"'{described}' object is not subscriptable")

/-- What a mapping holds at a key. -/
def entry
    (entries : Entries)
    (key : Value) : Outcome Value :=
  match entries.get? key with
  | some found => .ok found
  | none => .error (.raised .missingKey [key])

/-- The item of a value at a position. -/
def item
    (base : Value)
    (position : Nat) : Outcome Value :=
  match base with
  | .list items => (items[position]?.map .ok).getD (outOfRange "list index out of range")
  | .tuple items => (items[position]?.map .ok).getD (outOfRange "tuple index out of range")
  | .text content =>
      match content.toList[position]? with
      | some character => .ok (.text (String.singleton character))
      | none => outOfRange "string index out of range"
  | .bytes content =>
      match content[position]? with
      | some byte => .ok (.int byte.toNat)
      | none => outOfRange "index out of range"
  | .dict entries => entry entries (.int position)
  | other => notSubscriptable other

/-- The item of a value at a name. -/
def named
    (base : Value)
    (name : String) : Outcome Value :=
  match base with
  | .dict entries => entry entries (.text name)
  | .list _ => .error (.wrongType "list indices must be integers or slices, not str")
  | .tuple _ => .error (.wrongType "tuple indices must be integers or slices, not str")
  | .text _ => .error (.wrongType "string indices must be integers, not 'str'")
  | .bytes _ => .error (.wrongType "byte indices must be integers or slices, not str")
  | other => notSubscriptable other

/-- Follows accessors into a value. -/
def follow (base : Value) : List Accessor → Outcome Value
  | [] => .ok base
  | .attribute name :: rest => do follow (← attributeOf base (String.ofList name)) rest
  | .index position :: rest => do follow (← item base position) rest
  | .key name :: rest => do follow (← named base (String.ofList name)) rest
  | .malformed reason :: _ => .error (.badValue reason)

/-- The value a field names. Only named entries exist, so a field with a number or
without a name finds nothing. -/
def lookUp
    (context : Entries)
    (field : Field) : Outcome Value := do
  let (first, accessors) := field.path
  let missing (position : Nat) : Failure :=
    .withMessage .outOfRange
      s!"Replacement index {position} out of range for positional args tuple"
  match Accessor.position? first with
  | none => throw (.badValue Accessor.tooManyDigits)
  | some (some position) => throw (missing position)
  | some none =>
      if first.isEmpty then throw (missing 0)
      else
        let base ← entry context (.text (String.ofList first))
        follow base accessors

/-- The text of one piece; `expand` fills in a nested pattern. -/
def fillPiece
    (expand : List Char → Outcome (List Char))
    (context : Entries) : Piece → Outcome (List Char)
  | .literal content => .ok content
  | .malformed reason => .error (.badValue reason)
  | .field field => do
      let found ← lookUp context field
      let shown ←
        match field.conversion with
        | some conversion => convert conversion found
        | none => pure found
      let pattern ← if field.nested then expand field.pattern else pure field.pattern
      value shown pattern

def fillPieces
    (expand : List Char → Outcome (List Char))
    (context : Entries) : List Piece → Outcome (List Char)
  | [] => .ok []
  | piece :: rest => do
      let first ← fillPiece expand context piece
      return first ++ (← fillPieces expand context rest)

/-- Fills a template in, with patterns nested less than `depth` deep. -/
def fillWithin
    (context : Entries) : Nat → List Char → Outcome (List Char)
  | 0, _ => .error (.badValue "Max string recursion exceeded")
  | depth + 1, text => fillPieces (fillWithin context depth) context (Piece.cut text)

/-- A message template filled in from a context. -/
def message
    (context : Entries)
    (template : String) : Outcome String := do
  return String.ofList (← fillWithin context 2 template.toList)

end Format

end DeferredText
