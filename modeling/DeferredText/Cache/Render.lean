import DeferredText.Report.Standard
import DeferredText.Resolve.Drain
import DeferredText.Resolve.Schedule
import DeferredText.Template.Evaluate

/-!
Contract: rendering a template with deferred helpers.

Rendering opens a cycle of its own, evaluates the template in it, and then resolves
the calls recorded meanwhile. A coroutine may render inside a resolution; each
rendering returns text without its own placeholders.

Owns: resolving a text, rendering a template, and the two ways to hand over their
result: as a value or a failure, or to a completion function.

Does not own: the resolution of a waitlist (`Resolve.Drain`).
-/

namespace DeferredText

/-- A caller's completion function, called inside a cycle. -/
abbrev Notify := (current : Option Nat) → DoneCall → CacheAction Unit

namespace Cache

/-- Hands a failure to the completion function, if there is one. -/
def handFailure
    (done : Option Notify)
    (current : Option Nat)
    (failure : Failure) : CacheAction (Option String) :=
  match done with
  | none => Action.fail failure
  | some notify => do
      notify current ⟨some failure, none⟩
      return none

/-- Hands a text to the completion function, if there is one, and returns it. -/
def handText
    (done : Option Notify)
    (current : Option Nat)
    (text : String) : CacheAction (Option String) := do
  match done with
  | none => return some text
  | some notify => do
      notify current ⟨none, some text⟩
      return some text

/-- Resolves the calls of a waitlist in a text and hands the result over. -/
def resolveWaitlist
    (invoke : Drain.Invoke)
    (fuel : Nat)
    (done : Option Notify)
    (current : Option Nat)
    (index : Nat)
    (text : String) : Task CacheState (Option String) := do
  match ← (Drain.run invoke fuel index text).attempt with
  | .error failure => handFailure done current failure
  | .ok result => handText done current result

/-- The waitlist a resolution takes: a given one, else the one of the current cycle,
else the default one, which is replaced. -/
def takeWaitlist (given current : Option Nat) : CacheAction Nat := do
  match given, current with
  | some index, _ => return index
  | none, some index => return index
  | none, none => do
      let taken := (← get).defaultWaitlist
      let fresh ← CacheState.openWaitlist
      modify fun state => { state with defaultWaitlist := fresh }
      return taken

/-- The engine of a cache: the standard filters, and its strictness. -/
def engine (state : CacheState) : Engine CacheState :=
  { filters := Filter.table CacheState
    strict := state.strict }

/-- Evaluates a template inside the cycle of a waitlist. -/
def renderPass
    (limits : Limits)
    (index : Nat)
    (template data : Value) : CacheAction Rendered := do
  let state ← get
  let scope : Scope CacheState :=
    { data := data
      helpers := templateHelpers limits (some index) state.registry }
  (engine state).render scope template

/-- What a rendering does when its template could not be evaluated. -/
def renderFailed
    (done : Option Notify)
    (index : Nat)
    (failure : Failure) : CacheAction (Option String) := do
  let state ← get
  CacheState.tell (.renderFailed (.text (state.cycleId index)) (.failure failure))
  discard (CacheState.clearWaitlist index)
  handFailure done (some index) failure

/-- Notes in the log that a template was evaluated. -/
def renderCompleted
    (index : Nat)
    (rendered : Rendered) : CacheAction Unit := do
  let state ← get
  CacheState.tell
    (.renderCompleted (.text (state.cycleId index)) (.int rendered.expressions.length)
      (.int (state.waitlist index).pending.length))

/-- How implementations are run in a resolution: a nested rendering is one level less
deep. -/
def invoker
    (limits : Limits)
    (current : Option Nat)
    (index : Nat)
    (nested : NestedRender) : Drain.Invoke := fun number => do
  let state ← (get : CacheAction CacheState)
  Invoke.implementation limits current (state.cycleId index) nested number

/-- A nested rendering as a value. -/
def asValue (text : Option String) : Value :=
  (text.map Value.text).getD .none

/-- Renders a template in a cycle of its own, with renderings nested at most `depth`
deep. -/
def renderWithin
    (limits : Limits)
    (current : Option Nat) :
    Nat → Option Notify → (template data : Value) → Task CacheState (Option String)
  | 0, _, _, _ => Task.stop .exhausted
  | depth + 1, done, template, data => do
      let index ← CacheState.openWaitlist
      match ← Action.attempt (renderPass limits index template data) with
      | .error failure => renderFailed done index failure
      | .ok rendered => do
          renderCompleted index rendered
          let nested : NestedRender := fun template data => do
            let text ← renderWithin limits current depth none template data
            return asValue text
          resolveWaitlist (invoker limits current index nested) limits.steps done current index
            rendered.text

def render
    (limits : Limits)
    (current : Option Nat)
    (done : Option Notify)
    (template data : Value) : Task CacheState (Option String) :=
  renderWithin limits current limits.depth done template data

/-- Resolves a text that was rendered before. -/
def resolve
    (limits : Limits)
    (current : Option Nat)
    (done : Option Notify)
    (given : Option Nat)
    (text : String) : Task CacheState (Option String) := do
  let index ← takeWaitlist given current
  let nested : NestedRender := fun template data => do
    let text ← render limits current none template data
    return asValue text
  resolveWaitlist (invoker limits current index nested) limits.steps done current index text

/-- The completion function of a started rendering: it reports to a promise. -/
def reportTo (promise : Nat) : Notify := fun _ call => do
  let completion : Completion :=
    match call.failure with
    | some failure => .failure failure
    | none => .result (asValue call.text)
  CacheState.schedule (.settle promise completion)

/-- A rendering that was started by a helper. -/
def startRender (limits : Limits) : Starter := fun promise template data current => do
  discard (render limits current (some (reportTo promise)) template data)

end Cache

end DeferredText
