import DeferredText.Action
import DeferredText.Text.Blank
import DeferredText.Text.Casing
import DeferredText.Value.Json

/-!
Contract: the filters every template may use.

Owns: the six standard filters, and matching arguments with their parameters.

Does not own: where filters are looked up (`Template.Evaluate`).
-/

namespace DeferredText

/-- A filter: its parameters by name, all required, and what it computes from them. -/
structure Filter where
  name : String
  parameters : List String
  apply : List Value → Outcome Value

namespace Filter

def functionName (filter : Filter) : String :=
  "filter_" ++ filter.name

/-- Fills parameters from the front with positional arguments. -/
def fillPositional : List String → List Value → List (String × Option Value)
  | [], _ => []
  | parameter :: rest, [] => (parameter, none) :: fillPositional rest []
  | parameter :: rest, value :: values => (parameter, some value) :: fillPositional rest values

/-- Fills the parameters that keyword arguments name. -/
def fillKeywords
    (function : String) :
    List (String × Value) → List (String × Option Value) →
      Outcome (List (String × Option Value))
  | [], slots => .ok slots
  | (name, value) :: rest, slots =>
      match slots.find? fun slot => slot.1 == name with
      | none =>
          .error (.wrongType s!"{function}() got an unexpected keyword argument '{name}'")
      | some (_, some _) =>
          .error (.wrongType s!"{function}() got multiple values for argument '{name}'")
      | some (_, none) =>
          fillKeywords function rest
            (slots.map fun slot => if slot.1 == name then (name, some value) else slot)

def plural (count : Nat) : String :=
  if count = 1 then "" else "s"

/-- Names in quotes, the last two joined by a word. -/
def listed (names : List String) : String :=
  match names.map fun name => "'" ++ name ++ "'" with
  | [] => ""
  | [only] => only
  | [first, second] => first ++ " and " ++ second
  | quoted =>
      ", ".intercalate quoted.dropLast ++ ", and " ++ quoted.getLast?.getD ""

/-- The values of all parameters, or why the arguments do not fit them. -/
def bindArguments
    (filter : Filter)
    (arguments : Arguments) : Outcome (List Value) := do
  let function := filter.functionName
  let given := arguments.positional.length
  let taken := filter.parameters.length
  let slots ← fillKeywords function arguments.keywords
    (fillPositional filter.parameters arguments.positional)
  if taken < given then
    let verb := if given = 1 then "was" else "were"
    let ending := plural taken
    throw (.wrongType
      s!"{function}() takes {taken} positional argument{ending} but {given} {verb} given")
  let missing := (slots.filter fun slot => slot.2.isNone).map Prod.fst
  if missing.isEmpty then return slots.filterMap Prod.snd
  else
    let count := missing.length
    let ending := plural count
    let names := listed missing
    throw (.wrongType
      s!"{function}() missing {count} required positional argument{ending}: {names}")

/-- Number of items of a container, or of characters of a text. -/
def length (value : Value) : Outcome Value :=
  match value with
  | .text content => .ok (.int content.length)
  | .bytes content => .ok (.int content.length)
  | .list items => .ok (.int items.length)
  | .tuple items => .ok (.int items.length)
  | .dict entries => .ok (.int entries.length)
  | other =>
      let described := other.typeName
      .error (.wrongType s!"object of type '{described}' has no len()")

/-- Applies a change to the display text of a value. -/
def onText
    (change : List Char → List Char)
    (value : Value) : Outcome Value := do
  return .text (String.ofList (change (← value.display).toList))

def standard : List Filter :=
  [ ⟨"length", ["value"], fun values => length (values.headD .none)⟩,
    ⟨"default", ["value", "default"], fun values =>
      match values with
      | [value, default] => .ok (if value.isNone then default else value)
      | _ => .ok .none⟩,
    ⟨"json", ["value"], fun values => do
      return .text (← Json.write Json.refuse (values.headD .none))⟩,
    ⟨"upper", ["value"], fun values => onText upperCase (values.headD .none)⟩,
    ⟨"lower", ["value"], fun values => onText lowerCase (values.headD .none)⟩,
    ⟨"trim", ["value"], fun values => onText trimBlank (values.headD .none)⟩ ]

/-- The filter as something that can be called. -/
def operation
    {σ : Type}
    (filter : Filter) : Operation σ := fun arguments =>
  Action.ofOutcome (filter.bindArguments arguments >>= filter.apply)

/-- The standard filters by name. -/
def table (σ : Type) : List (String × Operation σ) :=
  standard.map fun filter => (filter.name, filter.operation)

end Filter

end DeferredText
