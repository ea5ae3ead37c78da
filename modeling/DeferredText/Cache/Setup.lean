import DeferredText.Config.Loader
import DeferredText.Resolve.State

/-!
Contract: making a cache from settings.

Owns: the cache that settings describe, and the cache that a configuration file
describes together with its log.

Does not own: the settings (`Config.Settings`).
-/

namespace DeferredText

namespace CacheState

/-- A cache with nothing registered, unless the settings describe no tokens. -/
def ofSettings
    (settings : Settings)
    (log : Option LogSettings) : Outcome CacheState := do
  let tokens := settings.tokens
  let shape ← PlaceholderShape.ofSettings tokens.opening tokens.closing tokens.length
  return initial shape settings.strictUndefined.truthy settings.warnsOnOverride.truthy log

/-- A cache with the settings of a file, which writes the log that the file describes. -/
def ofFile
    (surroundings : Surroundings)
    (path : Option String) : Outcome CacheState := do
  let (answer, _) := SettingsLoader.initial.load surroundings (.file path true .none)
  let settings ← answer
  let log ← settings.logging.logSettings
  ofSettings settings (some log.normalized)

end CacheState

end DeferredText
