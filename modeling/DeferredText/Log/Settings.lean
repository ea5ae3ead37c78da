import DeferredText.Value.Text

/-!
Contract: how the log is written.

Owns: levels, components, the settings of a log, and cutting long texts.

Does not own: what is logged (`Log.Event`) and how a line looks (`Log.Line`).
-/

namespace DeferredText

inductive LogLevel where
  | debug
  | info
  | warn
  | error
deriving DecidableEq, Repr

namespace LogLevel

def name : LogLevel → String
  | .debug => "DEBUG"
  | .info => "INFO"
  | .warn => "WARN"
  | .error => "ERROR"

def rank : LogLevel → Nat
  | .debug => 0
  | .info => 1
  | .warn => 2
  | .error => 3

def all : List LogLevel := [.debug, .info, .warn, .error]

def ofName? (name : String) : Option LogLevel :=
  all.find? fun level => level.name == name

end LogLevel

/-- Formats of the log. -/
inductive LogFormat where
  | colored
  | json
deriving DecidableEq, Repr

namespace LogFormat

def name : LogFormat → String
  | .colored => "colored"
  | .json => "json"

def all : List LogFormat := [.colored, .json]

end LogFormat

/-- The parts of the system that write to the log. -/
inductive Component where
  | registry
  | render
  | resolve
deriving DecidableEq, Repr

namespace Component

def name : Component → String
  | .registry => "registry"
  | .render => "render"
  | .resolve => "resolve"

def all : List Component := [.registry, .render, .resolve]

end Component

/-- Settings of a log. Configuration may put any value into them. -/
structure LogSettings where
  level : Value
  format : Value
  showArguments : Value
  truncateAt : Value
  components : Entries
deriving Repr

namespace LogSettings

/-- Every component switched on. -/
def allComponents : Entries :=
  Component.all.map fun component => (.text component.name, .bool true)

def standard : LogSettings :=
  { level := .text LogLevel.info.name
    format := .text LogFormat.colored.name
    showArguments := .bool true
    truncateAt := .int 200
    components := allComponents }

/-- Settings without any component switch have all of them on. -/
def normalized (settings : LogSettings) : LogSettings :=
  if settings.components.isEmpty then { settings with components := allComponents }
  else settings

/-- Least rank that is written; an unknown level counts as the standard one. -/
def threshold (settings : LogSettings) : Nat :=
  ((settings.level.text?.bind LogLevel.ofName?).getD .info).rank

def isOn
    (settings : LogSettings)
    (component : Component) : Bool :=
  ((Entries.getText? settings.components component.name).map Value.truthy).getD true

/-- Whether a line of a level and component is written. -/
def writes
    (settings : LogSettings)
    (level : LogLevel)
    (component : Component) : Bool :=
  settings.threshold ≤ level.rank && settings.isOn component

def isJson (settings : LogSettings) : Bool :=
  settings.format.text? == some LogFormat.json.name

/-- Whether a count is greater than a bound, for bounds that are numbers. -/
def exceeds
    (count : Nat)
    (bound : Value) : Outcome Bool :=
  match bound with
  | .float .nan => .ok false
  | .float datum =>
      match datum.toRatio? with
      | some pair => .ok (pair.1 < (count : Int) * (pair.2 : Int))
      | none => .ok datum.isNegative
  | other =>
      match other.int? with
      | some number => .ok (number < (count : Int))
      | none =>
          let described := other.typeName
          .error (.wrongType
            s!"'>' not supported between instances of 'int' and '{described}'")

/-- The first characters of a text; a negative count leaves out that many at the end. -/
def firstCharacters
    (text : List Char)
    (bound : Value) : Outcome (List Char) :=
  match bound.int? with
  | some number =>
      if 0 ≤ number then .ok (text.take number.toNat)
      else .ok (text.take (text.length - (-number).toNat))
  | none =>
      .error (.wrongType
        "slice indices must be integers or None or have an __index__ method")

/-- A text cut at the configured length. -/
def truncate
    (settings : LogSettings)
    (text : String) : Outcome String := do
  if ← exceeds text.length settings.truncateAt then
    let kept ← firstCharacters text.toList settings.truncateAt
    return String.ofList kept ++ "..."
  else return text

end LogSettings

end DeferredText
