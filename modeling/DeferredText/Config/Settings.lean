import DeferredText.Log.Settings
import DeferredText.Placeholder.Shape

/-!
Contract: the settings of a cache.

Only the shape of the settings is fixed: a leaf may hold any value that the checks
let through.

Owns: the settings with their standard values, and the log settings they give.

Does not own: reading settings from data (`Config.Check`).
-/

namespace DeferredText

structure TokenSettings where
  opening : Value
  closing : Value
  length : Value
deriving Repr

def TokenSettings.standard : TokenSettings :=
  { opening := .text PlaceholderShape.standard.opening
    closing := .text PlaceholderShape.standard.closing
    length := .int PlaceholderShape.standard.length }

/-- Which components write to the log. -/
structure ComponentSwitches where
  registry : Value
  render : Value
  resolve : Value
deriving Repr

def ComponentSwitches.standard : ComponentSwitches :=
  { registry := .bool true
    render := .bool true
    resolve := .bool true }

structure LogOptions where
  showArguments : Value
  truncateAt : Value
deriving Repr

def LogOptions.standard : LogOptions :=
  { showArguments := LogSettings.standard.showArguments
    truncateAt := LogSettings.standard.truncateAt }

structure LoggingSettings where
  level : Value
  format : Value
  /-- Absent if it is set to none. -/
  components : Option ComponentSwitches
  /-- Absent if it is set to none. -/
  options : Option LogOptions
deriving Repr

namespace LoggingSettings

def standard : LoggingSettings :=
  { level := LogSettings.standard.level
    format := LogSettings.standard.format
    components := some .standard
    options := some .standard }

/-- An absent part has no fields. -/
def missingField (name : String) : Failure :=
  .withMessage .missingAttribute s!"'NoneType' object has no attribute '{name}'"

/-- The settings of the log, if no part is absent. -/
def logSettings (logging : LoggingSettings) : Outcome LogSettings := do
  match logging.options, logging.components with
  | none, _ => throw (missingField "show_args")
  | some _, none => throw (missingField Component.registry.name)
  | some options, some components =>
      return {
        level := logging.level
        format := logging.format
        showArguments := options.showArguments
        truncateAt := options.truncateAt
        components :=
          [(.text Component.registry.name, components.registry),
            (.text Component.render.name, components.render),
            (.text Component.resolve.name, components.resolve)] }

end LoggingSettings

structure Settings where
  tokens : TokenSettings
  warnsOnOverride : Value
  strictUndefined : Value
  logging : LoggingSettings
deriving Repr

def Settings.standard : Settings :=
  { tokens := .standard
    warnsOnOverride := .bool false
    strictUndefined := .bool false
    logging := .standard }

end DeferredText
