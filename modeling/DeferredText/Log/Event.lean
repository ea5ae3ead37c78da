import DeferredText.Log.Settings

/-!
Contract: what happens during registration, rendering and resolution, as the log
tells it.

Owns: the events and, for each, its level, component, message and context.

Does not own: whether and how an entry is written (`Log.Line`).
-/

namespace DeferredText

/-- What went wrong, as far as a log entry needs it. -/
inductive Fault where
  | failure (failure : Failure)
  | value (value : Value)
deriving Repr

namespace Fault

def text : Fault → Outcome String
  | .failure cause => cause.message
  | .value reported => reported.display

def typeName : Fault → String
  | .failure cause => cause.kindName
  | .value reported => reported.typeName

end Fault

inductive Event where
  | registered (name kind : Value)
  | overridden (name previousKind kind : Value)
  | rejected (name reason : Value)
  | renderCompleted (cycle expressions pending : Value)
  | renderFailed (cycle : Value) (fault : Fault)
  | started (cycle pending : Value)
  | skipped (cycle name token : Value)
  | invoking (cycle name arguments : Value)
  | completed (cycle name duration : Value)
  | failed (cycle name : Value) (fault : Fault) (duration : Value)
  | duplicate (cycle name : Value)
  | finished (cycle resolved skipped duration : Value)
  | aborted (cycle remaining : Value)
deriving Repr

/-- An entry of the log. -/
structure LogEntry where
  level : LogLevel
  component : Component
  message : String
  context : Entries
deriving Repr

namespace Event

/-- Milliseconds as seconds with two places. -/
def seconds (milliseconds : Value) : Outcome String :=
  match milliseconds with
  | .float datum => .ok ((datum.divNat 1000).fixedText 2)
  | other =>
      match other.int? with
      | some number =>
          let datum := Binary64.ofSignedRatio number 1000
          if datum.isFinite then .ok (datum.fixedText 2)
          else .error (.withMessage .overflow "integer division result too large for a float")
      | none =>
          let described := other.typeName
          .error (.wrongType
          s!"unsupported operand type(s) for /: '{described}' and 'int'")

/-- Context of an event of resolution: its cycle and kind first. -/
def resolveContext
    (cycle : Value)
    (event : String)
    (extra : List (String × Value)) : Entries :=
  (.text "cycle_id", cycle) :: (.text "event", .text event) ::
    extra.map fun pair => (.text pair.1, pair.2)

def contextOf (fields : List (String × Value)) : Entries :=
  fields.map fun pair => (.text pair.1, pair.2)

/-- The entry an event is told by. -/
def entry
    (settings : LogSettings) : Event → Outcome LogEntry
  | .registered name kind => do
      let kindText ← kind.display
      let nameText ← name.display
      return {
        level := .debug
        component := .registry
        message := "Registered " ++ kindText ++ " helper '" ++ nameText ++ "'"
        context := contextOf
          [("event", .text "helper_registered"), ("helper_name", name), ("kind", kind)] }
  | .overridden name previousKind kind => do
      let nameText ← name.display
      let previousText ← previousKind.display
      let kindText ← kind.display
      return {
        level := .warn
        component := .registry
        message :=
          "Helper '" ++ nameText ++ "' overridden (" ++ previousText ++ " -> " ++ kindText ++ ")"
        context := contextOf
          [("event", .text "helper_overridden"), ("helper_name", name),
            ("previous_kind", previousKind), ("kind", kind)] }
  | .rejected name reason => do
      let nameText ← name.display
      let reasonText ← reason.display
      return {
        level := .error
        component := .registry
        message := "Rejected helper registration: " ++ reasonText
        context := contextOf
          [("event", .text "helper_rejected"), ("helper_name", .text nameText),
            ("reason", reason)] }
  | .renderCompleted cycle expressions pending => do
      let expressionText ← expressions.display
      let pendingText ← pending.display
      return {
        level := .debug
        component := .render
        message :=
          "Rendered " ++ expressionText ++ " expressions (" ++ pendingText ++ " async pending)"
        context := contextOf
          [("event", .text "render_completed"), ("cycle_id", cycle),
            ("expressions", expressions), ("pending", pending)] }
  | .renderFailed cycle fault => do
      let faultText ← fault.text
      return {
        level := .error
        component := .render
        message := "Render failed: " ++ faultText
        context := contextOf
          [("event", .text "render_failed"), ("cycle_id", cycle), ("error", .text faultText),
            ("error_type", .text fault.typeName)] }
  | .started cycle pending => do
      let pendingText ← pending.display
      return {
        level := .debug
        component := .resolve
        message := "Resolving " ++ pendingText ++ " async helper calls"
        context := resolveContext cycle "resolve_started" [("pending", pending)] }
  | .skipped cycle name token => do
      let nameText ← name.display
      return {
        level := .debug
        component := .resolve
        message := "Skipping '" ++ nameText ++ "': placeholder not in rendered text"
        context := resolveContext cycle "invocation_skipped"
          [("helper_name", name), ("token", token)] }
  | .invoking cycle name arguments => do
      let shown ←
        if settings.showArguments.truthy then do
          let argumentText ← settings.truncate (← arguments.display)
          pure [("args", Value.text argumentText)]
        else pure []
      let nameText ← name.display
      return {
        level := .debug
        component := .resolve
        message := "Calling async helper '" ++ nameText ++ "'"
        context := resolveContext cycle "invocation_started" (("helper_name", name) :: shown) }
  | .completed cycle name duration => do
      let spent ← seconds duration
      let nameText ← name.display
      return {
        level := .debug
        component := .resolve
        message := "Async helper '" ++ nameText ++ "' completed (" ++ spent ++ "s) ✓"
        context := resolveContext cycle "invocation_completed"
          [("helper_name", name), ("duration_ms", duration)] }
  | .failed cycle name fault duration => do
      let spent ← seconds duration
      let nameText ← name.display
      let faultText ← fault.text
      return {
        level := .error
        component := .resolve
        message := "Async helper '" ++ nameText ++ "' failed (" ++ spent ++ "s): " ++ faultText
        context := resolveContext cycle "invocation_failed"
          [("helper_name", name), ("duration_ms", duration), ("error", .text faultText),
            ("error_type", .text fault.typeName)] }
  | .duplicate cycle name => do
      let nameText ← name.display
      return {
        level := .warn
        component := .resolve
        message :=
          "Async helper '" ++ nameText ++ "' called back more than once; extra result ignored"
        context := resolveContext cycle "duplicate_callback" [("helper_name", name)] }
  | .finished cycle resolvedCount skippedCount duration => do
      let spent ← seconds duration
      let resolvedText ← resolvedCount.display
      let skippedText ← skippedCount.display
      return {
        level := .info
        component := .resolve
        message :=
          "Resolved " ++ resolvedText ++ " async helpers, skipped " ++ skippedText ++
            " (" ++ spent ++ "s) ✓"
        context := resolveContext cycle "resolve_completed"
          [("resolved", resolvedCount), ("skipped", skippedCount), ("duration_ms", duration)] }
  | .aborted cycle remaining => do
      let remainingText ← remaining.display
      return {
        level := .warn
        component := .resolve
        message := "Resolution aborted, " ++ remainingText ++ " queued calls discarded"
        context := resolveContext cycle "resolve_aborted" [("remaining", remaining)] }

end Event

end DeferredText
