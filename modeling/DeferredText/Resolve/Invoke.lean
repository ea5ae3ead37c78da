import DeferredText.Resolve.Call
import DeferredText.Resolve.Task

/-!
Contract: running the implementation behind a recorded call.

A coroutine is awaited. Everything else is given a callback as its last argument and
owes an outcome, which is awaited.

Owns: granting the requests of coroutines and handlers.

Does not own: which calls run (`Resolve.Drain`) and when completions are delivered
(`Resolve.Schedule`).
-/

namespace DeferredText

/-- Renders a template inside a running coroutine. -/
abbrev NestedRender := (template data : Value) → Task CacheState Value

/-- Grants the requests of a coroutine. -/
def Coroutine.run
    (runRoutine : Routine → CacheAction Value)
    (render : NestedRender) : Coroutine → Task CacheState Value
  | .finish value => pure value
  | .fail failure => Task.fail failure
  | .compute routine next => do
      let outcome ← Action.attempt (runRoutine routine)
      (next outcome).run runRoutine render
  | .render template data next => do
      let outcome ← (render template data).attempt
      (next outcome).run runRoutine render

/-- Grants the requests of a handler, whose callback reports to a promise. -/
def Handler.run
    (runRoutine : Routine → CacheAction Value)
    (promise : Nat)
    (current : Option Nat) : Handler → CacheAction Unit
  | .finish => return ()
  | .fail failure => Action.fail failure
  | .compute routine next => do
      let outcome ← Action.attempt (runRoutine routine)
      (next outcome).run runRoutine promise current
  | .complete completion next => do
      CacheState.schedule (.settle promise completion)
      next.run runRoutine promise current
  | .completeLater completion next => do
      CacheState.schedule (.complete promise completion)
      next.run runRoutine promise current
  | .startRender template data next => do
      CacheState.schedule (.begin promise template data current)
      next.run runRoutine promise current

namespace Invoke

/-- A callback as an argument: only its type can be observed. -/
def callbackValue : Value := .opaqueOf "function"

/-- Runs an implementation that reports through a callback. -/
def callback
    (runRoutine : Routine → CacheAction Value)
    (current : Option Nat)
    (promise : Nat)
    (target : Callable)
    (arguments : Arguments) : CacheAction Unit := do
  let extended : Arguments :=
    { arguments with positional := arguments.positional ++ [callbackValue] }
  match target with
  | .helper implementation =>
      match implementation.behaviour with
      | .callback run => do
          CacheState.noteCall implementation.label arguments
          (run arguments).run runRoutine promise current
      | .plain run => do
          CacheState.noteCall implementation.label arguments
          discard (runRoutine (run extended))
      | .coroutine _ => return ()
  | other => discard (other.call runRoutine current extended)

/-- Runs the implementation of an invocation and waits for its result. -/
def implementation
    (limits : Limits)
    (current : Option Nat)
    (cycleId : String)
    (render : NestedRender)
    (number : Nat) : Task CacheState Value := do
  let state ← (get : CacheAction CacheState)
  match state.invocations[number]? with
  | none => return .none
  | some invocation => do
      CacheState.noteStart number
      match invocation.target with
      | .helper ⟨label, _, .coroutine run⟩ => do
          CacheState.noteCall label invocation.arguments
          (run invocation.arguments).run (runRoutine limits current) render
      | target => do
          let promise ← CacheState.makePromise invocation.name cycleId
          callback (runRoutine limits current) current promise target invocation.arguments
          Task.await promise

end Invoke

end DeferredText
