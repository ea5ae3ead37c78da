import DeferredText.Template.Filter
import DeferredText.Template.Read
import DeferredText.Value.Access

/-!
Contract: the value of an expression, and rendering a template.

The evaluator does not know what helpers are: it is given operations by name, which
may change a state and may fail. Everything else about an expression is pure.

Owns: names, accesses, calls, filters, displays and signs; rendering a text from
left to right.

Does not own: which helpers there are (`Registry.Table`) and deferred calls
(`Resolve.Call`).
-/

namespace DeferredText

/-- How templates are rendered: the filters by name, and whether undefined accesses
are errors. -/
structure Engine (σ : Type) where
  filters : List (String × Operation σ)
  strict : Bool

/-- What an expression can see. -/
structure Scope (σ : Type) where
  data : Value
  helpers : String → Option (Operation σ)

/-- Outcome of rendering a template. -/
structure Rendered where
  text : String
  expressions : List String
deriving DecidableEq, Repr

namespace Rendered

def hadExpressions (rendered : Rendered) : Bool :=
  !rendered.expressions.isEmpty

end Rendered

namespace Engine

variable {σ : Type}

def filter?
    (engine : Engine σ)
    (name : String) : Option (Operation σ) :=
  (engine.filters.find? fun pair => pair.1 == name).map Prod.snd

/-- Adds a filter, or replaces the one of the same name. -/
def addFilter
    (engine : Engine σ)
    (name : String)
    (operation : Operation σ) : Engine σ :=
  if (engine.filter? name).isSome then
    { engine with
      filters := engine.filters.map fun pair =>
        if pair.1 == name then (name, operation) else pair }
  else { engine with filters := engine.filters ++ [(name, operation)] }

end Engine

/-- Spellings of constants besides the reserved words. -/
def aliases : List (String × Value) :=
  [("true", .bool true), ("false", .bool false), ("null", .none)]

namespace Evaluate

variable {σ : Type}

/-- An undefined access is absent, or an error if the engine is strict. -/
def undefined
    (engine : Engine σ)
    (expression name : String) : Outcome Value :=
  if engine.strict then
    let detail := "Undefined variable '" ++ name ++ "' in '" ++ expression ++ "'"
    .error (.reported (.templateError detail expression))
  else .ok .none

def name
    (engine : Engine σ)
    (data : Value)
    (expression identifier : String) : Outcome Value := do
  if ← data.bindsName identifier then data.boundTo identifier
  else
    match aliases.find? fun pair => pair.1 == identifier with
    | some pair => return pair.2
    | none => undefined engine expression identifier

def access
    (engine : Engine σ)
    (expression : String)
    (base key : Value) : Outcome Value := do
  match ← base.access? key with
  | some value => return value
  | none => undefined engine expression (← key.display)

/-- A signed number; truth values count as integers. -/
def signed
    (operator : UnaryOperator)
    (operand : Value) : Outcome Value :=
  let isMinus := operator = .minus
  match operand with
  | .float datum => .ok (.float (if isMinus then datum.neg else datum))
  | .complex realPart imaginaryPart =>
      .ok (if isMinus then .complex realPart.neg imaginaryPart.neg
        else .complex realPart imaginaryPart)
  | other =>
      match other.int? with
      | some number => .ok (.int (if isMinus then -number else number))
      | none =>
          let sign := if isMinus then "-" else "+"
          let described := other.typeName
          .error (.wrongType s!"bad operand type for unary {sign}: '{described}'")

/-- Sets an entry of a mapping that is being built. -/
def insertEntry
    (entries : Entries)
    (key value : Value) : Outcome Entries :=
  match key.unhashable? with
  | some typeName => .error (.unhashable typeName)
  | none => .ok (entries.insert key value)

def unsupported
    (expression : String)
    (label : String) : Failure :=
  .reported (.templateError (label ++ " is not supported in templates") expression)

/-- Calls a helper by its dotted name. -/
def helper
    (scope : Scope σ)
    (expression : String)
    (called : Option String) : Action σ (Operation σ) :=
  match called.bind scope.helpers with
  | some operation => pure operation
  | none => Action.fail (.reported (.helperNotFound called expression))

/-- Failures of filters that are reported as errors of the template. -/
def isFilterError : Failure → Bool
  | .raised .wrongType _ => true
  | .raised .badValue _ => true
  | _ => false

/-- Applies the filter or else the helper of a name to a value and further arguments.
Only a filter's own errors become errors of the template. -/
def applyFilter
    (engine : Engine σ)
    (scope : Scope σ)
    (expression : String)
    (called : Option String)
    (value : Value)
    (arguments : Arguments) : Action σ Value := do
  let full : Arguments := { arguments with positional := value :: arguments.positional }
  match called.bind engine.filter? with
  | some operation =>
      match ← Action.attempt (operation full) with
      | .ok result => return result
      | .error failure =>
          if isFilterError failure then
            let text ← Action.ofOutcome failure.message
            let detail := "Filter '" ++ called.getD "None" ++ "' failed: " ++ text
            Action.fail (.reported (.templateError detail expression))
          else Action.fail failure
  | none =>
      match called.bind scope.helpers with
      | some operation => operation full
      | none =>
          let detail := "Unknown filter '" ++ called.getD "None" ++ "'"
          Action.fail (.reported (.templateError detail expression))

mutual

/-- The value of an expression; `source` is its text, which errors mention. -/
def value
    (engine : Engine σ)
    (scope : Scope σ)
    (source : String) : Expr → Action σ Value
  | .constant constant => pure constant
  | .name identifier _ => Action.ofOutcome (name engine scope.data source identifier)
  | .member base field _ => do
      let found ← value engine scope source base
      Action.ofOutcome (access engine source found (.text field))
  | .subscript base key _ => do
      let found ← value engine scope source base
      let position ← value engine scope source key
      Action.ofOutcome (access engine source found position)
  | .call callee arguments keywords => do
      let operation ← helper scope source callee.dottedName?
      let positional ← items engine scope source arguments
      let named ← namedItems engine scope source [] keywords
      operation ⟨positional, named⟩
  | .binary left .pipe (.call callee arguments keywords) => do
      let piped ← value engine scope source left
      let positional ← items engine scope source arguments
      let named ← namedItems engine scope source [] keywords
      applyFilter engine scope source callee.dottedName? piped ⟨positional, named⟩
  | .binary left .pipe right => do
      let piped ← value engine scope source left
      applyFilter engine scope source right.dottedName? piped .none
  | .unary operator operand => do
      let signless ← value engine scope source operand
      Action.ofOutcome (signed operator signless)
  | .list elements _ => do return .list (← items engine scope source elements)
  | .tuple elements _ => do return .tuple (← items engine scope source elements)
  | .dict pairs => do return .dict (← entries engine scope source [] pairs)
  | other => Action.fail (unsupported source other.label)

def items
    (engine : Engine σ)
    (scope : Scope σ)
    (source : String) : List Expr → Action σ (List Value)
  | [] => pure []
  | first :: rest => do
      let head ← value engine scope source first
      return head :: (← items engine scope source rest)

/-- Named arguments in order; a repeated name keeps its place and takes the last value. -/
def namedItems
    (engine : Engine σ)
    (scope : Scope σ)
    (source : String)
    (collected : List (String × Value)) :
    List (Option String × Expr) → Action σ (List (String × Value))
  | [] => pure collected
  | (none, _) :: rest => namedItems engine scope source collected rest
  | (some keyword, expression) :: rest => do
      let argument ← value engine scope source expression
      namedItems engine scope source (Arguments.setKeyword collected keyword argument) rest

def entries
    (engine : Engine σ)
    (scope : Scope σ)
    (source : String)
    (collected : Entries) :
    List (Option Expr × Expr) → Action σ Entries
  | [] => pure collected
  | (none, _) :: rest => entries engine scope source collected rest
  | (some key, expression) :: rest => do
      let keyValue ← value engine scope source key
      let entryValue ← value engine scope source expression
      let extended ← Action.ofOutcome (insertEntry collected keyValue entryValue)
      entries engine scope source extended rest

end

/-- Names the expression in a report that names none. -/
def nameExpression
    (expression : String) : Failure → Failure
  | .reported report => .reported (report.withTemplate expression)
  | failure => failure

end Evaluate

namespace Engine

variable {σ : Type}

/-- Reads and evaluates one expression. -/
def evaluate
    (engine : Engine σ)
    (scope : Scope σ)
    (expression : String) : Action σ Value := do
  let tree ← Action.ofOutcome (Template.readExpression expression)
  Action.mapFailure (Evaluate.nameExpression expression)
    (Evaluate.value engine scope expression tree)

/-- A value inside a rendered text; an absent one leaves no trace. -/
def insertedText (value : Value) : Outcome String :=
  match value with
  | .none => .ok ""
  | present => present.display

/-- Renders segments from left to right, collecting text and expressions. -/
def renderSegments
    (engine : Engine σ)
    (scope : Scope σ) : List Segment → Action σ Rendered
  | [] => pure ⟨"", []⟩
  | .literal character :: rest => do
      let rendered ← renderSegments engine scope rest
      return { rendered with text := String.singleton character ++ rendered.text }
  | .expression body :: rest => do
      let expression := String.ofList (trimBlank body)
      let value ← engine.evaluate scope expression
      let inserted ← Action.ofOutcome (insertedText value)
      let rendered ← renderSegments engine scope rest
      return ⟨inserted ++ rendered.text, expression :: rendered.expressions⟩

/-- Renders a template, which has to be a text. Data that counts as false is none. -/
def render
    (engine : Engine σ)
    (scope : Scope σ)
    (template : Value) : Action σ Rendered :=
  match template with
  | .text content =>
      let data := if scope.data.truthy then scope.data else .dict []
      engine.renderSegments { scope with data := data } (Segment.cut content.toList)
  | other =>
      let reason := "template must be a string, got " ++ other.typeName
      Action.fail (.reported (.invalidArgument reason .none))

end Engine

end DeferredText
