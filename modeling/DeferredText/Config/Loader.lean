import DeferredText.Config.Check
import DeferredText.Config.Environment
import DeferredText.Config.Files
import DeferredText.Yaml.Value

/-!
Contract: loading settings from files and data.

A loader keeps what it has loaded last. A load that fails changes nothing.

Owns: the search for a configuration file, reading it, and the state of a loader.

Does not own: the checks of the data (`Config.Check`).
-/

namespace DeferredText

/-- Files and environment variables that loading can see. -/
structure Surroundings where
  files : FileTree
  environment : Environment

namespace Surroundings

/-- The variable that names the only file to look for. -/
def pathVariable : String := "HELPER_CACHE_CONFIG_PATH"

/-- The file looked for in the current directory. -/
def localName : String := "helper-cache.yaml"

def withoutFinalSlashes (text : String) : String :=
  String.ofList (text.toList.reverse.dropWhile fun found => found == '/').reverse

/-- The file looked for in the home directory. -/
def userFile (environment : Environment) : Outcome PathName :=
  let home := withoutFinalSlashes ((environment.get? "HOME").getD "")
  let directory := PathName.ofText (if home == "" then "/" else home)
  if home.toList.head? == some '~' then
    .error (.withMessage .runtime "Could not determine home directory.")
  else .ok (directory.append [".helper-cache", "config.yaml"])

/-- The configuration file that is found first, if there is one. -/
def configFile? (surroundings : Surroundings) : Outcome (Option PathName) := do
  let existing (path : PathName) : Option PathName :=
    if surroundings.files.contains path then some path else none
  let named := (surroundings.environment.get? pathVariable).getD ""
  if named != "" then return existing (PathName.ofText named)
  else
    match existing (PathName.ofText localName) with
    | some path => return some path
    | none => return existing (← userFile surroundings.environment)

/-- A text in which every line ends in one line feed. -/
def plainLines : List Char → List Char
  | [] => []
  | '\r' :: '\n' :: rest => '\n' :: plainLines rest
  | '\r' :: rest => '\n' :: plainLines rest
  | head :: rest => head :: plainLines rest

/-- The text of a file. -/
def fileText
    (surroundings : Surroundings)
    (path : PathName) : Outcome String :=
  match (surroundings.files.locate? path).bind surroundings.files.content? with
  | some content => .ok (String.ofList (plainLines content.toList))
  | none =>
      .error (.raised (.system "IsADirectoryError")
        [.int 21, .text "Is a directory", .text path.text])

/-- The mapping in a file, with references to variables expanded. -/
def readMapping
    (surroundings : Surroundings)
    (path : PathName) : Outcome Entries := do
  let shown := path.text
  match Yaml.valueOf (← surroundings.fileText path) with
  | .error .malformed =>
      throw (.reported (.configInvalid s!"Invalid YAML in {shown}: <yaml>"))
  | .error (.failed failure) => throw failure
  | .ok value =>
      if !value.truthy then return []
      else
        match value with
        | .dict entries => surroundings.environment.expandEntries entries
        | _ => throw (.reported (.configInvalid s!"Top level of {shown} must be a mapping"))

end Surroundings

/-- Settings and the file they were read from. -/
structure LoadedSettings where
  settings : Settings
  path : Option PathName
deriving Repr

/-- A way to ask for settings. -/
inductive LoadRequest where
  | standard
  | data (value : Value)
  /-- Data that are said to come from a file. -/
  | placed (value : Value) (path : PathName)
  | file (path : Option String) (usesStandard : Bool) (overrides : Value)

namespace LoadRequest

/-- Settings from a file; without one, from the overrides alone if that is allowed. -/
def fromFile
    (surroundings : Surroundings)
    (path : Option String)
    (usesStandard : Bool)
    (overrides : Value) : Outcome LoadedSettings := do
  let found ←
    match path with
    | some text => pure (some (PathName.ofText text))
    | none => surroundings.configFile?
  match found.filter surroundings.files.contains with
  | some existing =>
      let base ← surroundings.readMapping existing
      let data ←
        if overrides.truthy then do pure (base.merge (← Entries.ofValue overrides))
        else pure base
      return ⟨← Settings.ofValue (.dict data), some existing⟩
  | none =>
      if usesStandard then
        return ⟨← Settings.ofValue (if overrides.truthy then overrides else .dict []), none⟩
      else
        let missing := (found.map PathName.text).getD Surroundings.localName
        throw (.reported (.configInvalid s!"Configuration file not found: {missing}"))

/-- What a request gives. -/
def answer
    (surroundings : Surroundings) : LoadRequest → Outcome LoadedSettings
  | .standard => do return ⟨← Settings.ofValue (.dict []), none⟩
  | .data value => do return ⟨← Settings.ofValue value, none⟩
  | .placed value path => do return ⟨← Settings.ofValue value, some path⟩
  | .file path usesStandard overrides => fromFile surroundings path usesStandard overrides

end LoadRequest

/-- A loader with what it has loaded last. -/
structure SettingsLoader where
  current : Option LoadedSettings

namespace SettingsLoader

def initial : SettingsLoader :=
  ⟨none⟩

/-- The answer to a request, and the loader after it. -/
def load
    (surroundings : Surroundings)
    (loader : SettingsLoader)
    (request : LoadRequest) : Outcome Settings × SettingsLoader :=
  match request.answer surroundings with
  | .ok loaded => (.ok loaded.settings, ⟨some loaded⟩)
  | .error failure => (.error failure, loader)

/-- The settings loaded last. -/
def settings (loader : SettingsLoader) : Outcome Settings :=
  match loader.current with
  | some loaded => .ok loaded.settings
  | none => .error (.reported (.configInvalid "Configuration not loaded"))

/-- The file that the settings loaded last were read from. -/
def path (loader : SettingsLoader) : Option PathName :=
  loader.current.bind LoadedSettings.path

end SettingsLoader

end DeferredText
