import DeferredText.Resolve.State

/-!
Contract: calling helpers while text is rendered or a deferred helper runs.

Calling a deferred helper records the call and yields a placeholder; calling any
other helper runs it to its end.

Owns: granting the requests of routines, and calling whatever is registered.

Does not own: running the implementations of deferred helpers (`Resolve.Invoke`).
-/

namespace DeferredText

/-- Something that is no function was called. -/
def notCallable (typeName : String) : Failure :=
  .wrongType s!"'{typeName}' object is not callable"

/-- Grants the requests of a routine; `callNamed` calls a helper by name. -/
def Routine.run (callNamed : String → Arguments → CacheAction Value) :
    Routine → CacheAction Value
  | .finish value => pure value
  | .fail failure => Action.fail failure
  | .advance amount next => do
      CacheState.advanceClock amount
      next.run callNamed
  | .call name arguments next => do
      let outcome ← Action.attempt (callNamed name arguments)
      (next outcome).run callNamed

/-- A handler called without a callback: its last argument takes the callback's place.
What it starts still happens, but nobody is told of it. -/
def Handler.runBare
    (runRoutine : Routine → CacheAction Value)
    (current : Option Nat)
    (callback : Value) : Handler → CacheAction Value
  | .finish => pure .none
  | .fail failure => Action.fail failure
  | .compute routine next => do
      let outcome ← Action.attempt (runRoutine routine)
      (next outcome).runBare runRoutine current callback
  | .complete _ _ => Action.fail (notCallable callback.typeName)
  | .completeLater _ next => next.runBare runRoutine current callback
  | .startRender template data next => do
      let promise ← CacheState.makePromise "" ""
      CacheState.schedule (.begin promise template data current)
      next.runBare runRoutine current callback

namespace Helper

/-- A call of a helper that is not awaited. -/
def call
    (helper : Helper)
    (runRoutine : Routine → CacheAction Value)
    (current : Option Nat)
    (arguments : Arguments) : CacheAction Value :=
  match helper.behaviour with
  | .plain run => do
      CacheState.noteCall helper.label arguments
      runRoutine (run arguments)
  | .coroutine _ => pure (.opaqueOf "coroutine")
  | .callback run =>
      match arguments.positional.getLast? with
      | none => Action.fail (.withMessage .outOfRange "tuple index out of range")
      | some callback => do
          let others := { arguments with positional := arguments.positional.dropLast }
          CacheState.noteCall helper.label others
          (run others).runBare runRoutine current callback

end Helper

/-- Why a function without parameters cannot be called with arguments. -/
def tooManyArguments
    (name : String)
    (count : Nat) : Failure :=
  let verb := if count = 1 then "was" else "were"
  .wrongType s!"{name}() takes 0 positional arguments but {count} {verb} given"

namespace Callable

/-- Calls what is registered; `current` is the waitlist of the innermost open cycle. -/
def call
    (runRoutine : Routine → CacheAction Value)
    (current : Option Nat)
    (callable : Callable)
    (arguments : Arguments) : CacheAction Value :=
  match callable with
  | .helper implementation => implementation.call runRoutine current arguments
  | .deferred name target => CacheState.record name target arguments current
  | .factory name product =>
      match arguments.positional, arguments.keywords with
      | [], [] => do
          CacheState.noteCall name .none
          return product.toValue
      | [], (keyword, _) :: _ =>
          Action.fail (.wrongType s!"{name}() got an unexpected keyword argument '{keyword}'")
      | positional, _ => Action.fail (tooManyArguments name positional.length)

end Callable

/-- Calls a helper by name, at most `depth` calls deep. -/
def callNamed
    (current : Option Nat) : Nat → String → Arguments → CacheAction Value
  | 0, _, _ => throw .exhausted
  | depth + 1, name, arguments => do
      match (← get).registry.lookup name with
      | .none => Action.fail (notCallable "NoneType")
      | .group _ => Action.fail (notCallable "mappingproxy")
      | .helper callable =>
          callable.call (Routine.run (callNamed current depth)) current arguments

/-- How deep helpers may call each other and renderings may nest, and how many
invocations and deliveries one resolution may take. -/
structure Limits where
  depth : Nat
  steps : Nat

/-- Runs a routine inside the given cycle. -/
def runRoutine
    (limits : Limits)
    (current : Option Nat)
    (routine : Routine) : CacheAction Value :=
  routine.run (callNamed current limits.depth)

/-- The registered helpers as operations that a template can call. -/
def templateHelpers
    (limits : Limits)
    (current : Option Nat)
    (registry : Registry)
    (name : String) : Option (Operation CacheState) :=
  (registry.callable? name).map fun callable arguments =>
    callable.call (runRoutine limits current) current arguments

end DeferredText
