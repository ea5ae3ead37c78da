import DeferredText.Config.Merge
import DeferredText.Config.Settings
import DeferredText.Report.Standard

/-!
Contract: checking configuration data and reading settings from it.

Unknown keys are warnings and have no effect; wrong shapes and values out of range
are errors.

Owns: the findings of a check, and the settings that checked data give.

Does not own: where the data come from (`Config.Loader`).
-/

namespace DeferredText

/-- The parts of a configuration. -/
inductive ConfigSection where
  | tokens
  | registry
  | template
  | logging
deriving DecidableEq, Repr

namespace ConfigSection

def name : ConfigSection → String
  | .tokens => "tokens"
  | .registry => "registry"
  | .template => "template"
  | .logging => "logging"

def all : List ConfigSection := [.tokens, .registry, .template, .logging]

/-- The part that a key names. -/
def ofKey? (key : Value) : Option ConfigSection :=
  all.find? fun part => key.text? == some part.name

/-- The entries of a part, if it is there and a mapping. -/
def entries?
    (part : ConfigSection)
    (data : Entries) : Option Entries :=
  (data.getText? part.name).bind Value.dict?

end ConfigSection

inductive Severity where
  | error
  | warning
deriving DecidableEq, Repr

namespace Severity

def name : Severity → String
  | .error => "error"
  | .warning => "warning"

end Severity

/-- What a check has found at a place in the data. -/
structure Issue where
  path : Value
  message : String
  severity : Severity
deriving Repr

namespace Issue

/-- An error at a named setting of a part. -/
def atSetting
    (part : ConfigSection)
    (setting message : String) : Issue :=
  { path := .text (part.name ++ "." ++ setting)
    message := message
    severity := .error }

/-- What is found at one entry of the data. -/
def ofEntry
    (key value : Value) : Outcome (List Issue) :=
  match ConfigSection.ofKey? key, value with
  | some _, .dict _ => .ok []
  | some part, _ =>
      let name := part.name
      .ok [⟨key, s!"{name} must be a dictionary", .error⟩]
  | none, _ => do
      let shown ← key.display
      return [⟨key, s!"Unknown configuration key: {shown}", .warning⟩]

/-- Whether a length of tokens is accepted; none leaves it open. -/
def isLength : Value → Bool
  | .none => true
  | .int number => (PlaceholderShape.leastLength : Int) ≤ number
  | _ => false

def lengthIssues (tokens : Entries) : List Issue :=
  if ((tokens.getText? "length").map isLength).getD true then []
  else
    let least := PlaceholderShape.leastLength
    [atSetting .tokens "length" s!"length must be an integer >= {least}"]

/-- A setting that has to be a text. -/
def textIssues
    (tokens : Entries)
    (setting : String) : List Issue :=
  if ((tokens.getText? setting).map fun value => value.text?.isSome).getD true then []
  else [atSetting .tokens setting s!"{setting} must be a string"]

def emptyIssues (tokens : Entries) : List Issue :=
  if ((tokens.getText? "prefix").bind Value.text?) == some "" then
    [atSetting .tokens "prefix" "prefix must not be empty"]
  else []

/-- A setting that has to be one of some texts. -/
def choiceIssues
    (logging : Entries)
    (setting : String)
    (allowed : List String) : List Issue :=
  let isAllowed (value : Value) : Bool := value.text?.any allowed.contains
  if ((logging.getText? setting).map isAllowed).getD true then []
  else
    let choices := String.intercalate ", " allowed
    [atSetting .logging setting s!"{setting} must be one of {choices}"]

def ofTokens (tokens : Entries) : List Issue :=
  lengthIssues tokens ++ textIssues tokens "prefix" ++ textIssues tokens "suffix" ++
    emptyIssues tokens

def ofLogging (logging : Entries) : List Issue :=
  choiceIssues logging "level" (LogLevel.all.map LogLevel.name) ++
    choiceIssues logging "format" (LogFormat.all.map LogFormat.name)

/-- Everything found in configuration data. -/
def ofData (data : Entries) : Outcome (List Issue) := do
  let entryIssues ← data.mapM fun entry => ofEntry entry.1 entry.2
  return entryIssues.flatten ++ ((ConfigSection.tokens.entries? data).map ofTokens).getD [] ++
    ((ConfigSection.logging.entries? data).map ofLogging).getD []

/-- One line about an error. -/
def line (issue : Issue) : Outcome String := do
  let shown ← issue.path.display
  return "- " ++ shown ++ ": " ++ issue.message

end Issue

/-- What a check has found, errors and warnings apart. -/
structure Findings where
  errors : List Issue
  warnings : List Issue
deriving Repr

namespace Findings

def isValid (findings : Findings) : Bool :=
  findings.errors.isEmpty

/-- The findings about configuration data. -/
def ofValue (data : Value) : Outcome Findings := do
  let issues ← Issue.ofData (← Entries.ofValue data)
  return {
    errors := issues.filter fun issue => issue.severity == .error
    warnings := issues.filter fun issue => issue.severity == .warning }

end Findings

/-! ### Settings -/

namespace Entries

/-- The value of a setting, or its standard. -/
def setting
    (entries : Entries)
    (name : String)
    (standard : Value) : Value :=
  (entries.getText? name).getD standard

/-- The entries of a part that may be left out. -/
def sectionOf
    (data : Entries)
    (part : ConfigSection) : Entries :=
  (part.entries? data).getD []

end Entries

def TokenSettings.ofEntries (entries : Entries) : TokenSettings :=
  { opening := entries.setting "prefix" TokenSettings.standard.opening
    closing := entries.setting "suffix" TokenSettings.standard.closing
    length := entries.setting "length" TokenSettings.standard.length }

def ComponentSwitches.ofEntries (entries : Entries) : ComponentSwitches :=
  { registry := entries.setting "registry" ComponentSwitches.standard.registry
    render := entries.setting "render" ComponentSwitches.standard.render
    resolve := entries.setting "resolve" ComponentSwitches.standard.resolve }

def LogOptions.ofEntries (entries : Entries) : LogOptions :=
  { showArguments := entries.setting "show_args" LogOptions.standard.showArguments
    truncateAt := entries.setting "truncate_at" LogOptions.standard.truncateAt }

namespace LoggingSettings

/-- What a part that has to be a mapping is called. -/
def partName? (key : Value) : Option String :=
  if key.text? == some "components" then some "LoggingComponentsConfig"
  else if key.text? == some "options" then some "LoggingOptionsConfig"
  else none

/-- What is wrong with the parts, in the order of the data. -/
def misfit? (entries : Entries) : Option String :=
  entries.findSome? fun entry =>
    match partName? entry.1, entry.2 with
    | none, _ => none
    | some _, .none => none
    | some _, .dict _ => none
    | some name, other => some (name ++ " expects a mapping, got " ++ other.typeName)

/-- The entries of a part: standard ones if it is missing, none if it is set to none. -/
def part
    (entries : Entries)
    (name : String) : Option Entries :=
  match entries.getText? name with
  | none => some []
  | some value => value.dict?

def ofEntries (entries : Entries) : LoggingSettings :=
  { level := entries.setting "level" standard.level
    format := entries.setting "format" standard.format
    components := (part entries "components").map ComponentSwitches.ofEntries
    options := (part entries "options").map LogOptions.ofEntries }

end LoggingSettings

namespace Settings

/-- The settings in data without errors. -/
def ofEntries (data : Entries) : Settings :=
  { tokens := .ofEntries (data.sectionOf .tokens)
    warnsOnOverride :=
      (data.sectionOf .registry).setting "warn_on_override" standard.warnsOnOverride
    strictUndefined :=
      (data.sectionOf .template).setting "strict_undefined" standard.strictUndefined
    logging := .ofEntries (data.sectionOf .logging) }

/-- The settings in configuration data, or why there are none. -/
def ofValue (data : Value) : Outcome Settings := do
  let findings ← Findings.ofValue data
  let entries ← Entries.ofValue data
  if findings.isValid then
    match LoggingSettings.misfit? (entries.sectionOf .logging) with
    | none => return ofEntries entries
    | some reason =>
        throw (.reported (.configInvalid ("Failed to parse configuration: " ++ reason)))
  else
    let lines ← findings.errors.mapM Issue.line
    throw (.reported
      (.configInvalid ("Configuration validation failed:\n" ++ String.intercalate "\n" lines)))

end Settings

end DeferredText
