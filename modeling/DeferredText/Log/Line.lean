import DeferredText.Log.Event
import DeferredText.Text.Casing
import DeferredText.Text.Search
import DeferredText.Value.Json

/-!
Contract: the lines of the log.

Owns: colored lines and JSON lines, and the lines an event adds under given
settings.

Does not own: where lines go.
-/

namespace DeferredText

/-- Colors of a terminal. -/
inductive Color where
  | reset
  | green
  | red
  | yellow
  | orange
  | lightBlue
  | cyan
  | magenta
deriving DecidableEq, Repr

namespace Color

/-- Number of the color in the palette of 256 colors. -/
def number? : Color → Option Nat
  | .reset => none
  | .green => some 82
  | .red => some 196
  | .yellow => some 226
  | .orange => some 208
  | .lightBlue => some 153
  | .cyan => some 51
  | .magenta => some 201

def escape (color : Color) : String :=
  let start := String.ofList [Char.ofNat 27, '[']
  match color.number? with
  | none => start ++ "0m"
  | some number => start ++ "38;5;" ++ toString number ++ "m"

/-- A text in a color, with the color reset after it. -/
def paint
    (color : Color)
    (text : String) : String :=
  color.escape ++ text ++ reset.escape

def ofLevel : LogLevel → Color
  | .debug => .lightBlue
  | .info => .cyan
  | .warn => .yellow
  | .error => .red

def ofComponent : Component → Color
  | .registry => .green
  | .render => .magenta
  | .resolve => .orange

end Color

namespace LogEntry

/-- The moment that all entries carry. -/
def timestamp : String := "2024-01-02T03:04:05.678901Z"

def coloredText
    (entry : LogEntry)
    (settings : LogSettings) : Outcome String := do
  let tag := "[" ++ String.ofList (upperCase entry.component.name.toList) ++ "]"
  let line :=
    (Color.ofComponent entry.component).paint tag ++ " " ++
      (Color.ofLevel entry.level).paint entry.message
  if !entry.context.isEmpty && settings.showArguments.truthy then
    let shown ← settings.truncate (← (Value.dict entry.context).display)
    return line ++ " " ++ Color.lightBlue.paint shown
  else return line

/-- The entry as one mapping; its context follows the four fields all entries have. -/
def jsonValue (entry : LogEntry) : Value :=
  .dict (Entries.ofPairs
    ([(.text "timestamp", .text timestamp), (.text "level", .text entry.level.name),
      (.text "component", .text entry.component.name), (.text "message", .text entry.message)] ++
      entry.context))

def jsonText (entry : LogEntry) : Outcome String :=
  Json.write Json.displayed entry.jsonValue

/-- The lines of an entry, if the settings let it through. -/
def lines
    (entry : LogEntry)
    (settings : LogSettings) : Outcome (List String) := do
  if settings.writes entry.level entry.component then
    let text ← if settings.isJson then entry.jsonText else entry.coloredText settings
    return (splitOnChar '\n' text.toList).map String.ofList
  else return []

end LogEntry

/-- The lines an event adds to the log. -/
def Event.lines
    (event : Event)
    (settings : LogSettings) : Outcome (List String) := do
  let entry ← event.entry settings
  entry.lines settings

end DeferredText
