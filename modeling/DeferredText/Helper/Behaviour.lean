import DeferredText.Action

/-!
Contract: what a running helper does, one request at a time.

A helper is described by the requests it makes of its surroundings and by how it
goes on with each answer, so a statement about all helpers is a statement about
all values of these types.

Owns: routines, which answer at once; coroutines, which may wait for a rendering;
handlers, which answer through a callback; helpers of the three kinds; and what can
be registered.

Does not own: how requests are granted (`Resolve.Call`, `Resolve.Drain`).
-/

namespace DeferredText

/-- A computation that answers at once. -/
inductive Routine where
  | finish (value : Value)
  | fail (failure : Failure)
  /-- Lets the clock advance. -/
  | advance (amount : Int) (next : Routine)
  /-- Calls a registered helper by name. -/
  | call (name : String) (arguments : Arguments) (next : Outcome Value → Routine)

/-- Goes on with a value, or fails. -/
def Routine.ofOutcome
    (outcome : Outcome α)
    (next : α → Routine) : Routine :=
  match outcome with
  | .ok value => next value
  | .error failure => .fail failure

/-- A computation that may wait for renderings. -/
inductive Coroutine where
  | finish (value : Value)
  | fail (failure : Failure)
  | compute (routine : Routine) (next : Outcome Value → Coroutine)
  | render (template data : Value) (next : Outcome Value → Coroutine)

/-- Goes on with a value, or fails. -/
def Coroutine.ofOutcome
    (outcome : Outcome α)
    (next : α → Coroutine) : Coroutine :=
  match outcome with
  | .ok value => next value
  | .error failure => .fail failure

/-- What a helper reports through its callback: an error, or else a result. -/
inductive Completion where
  | result (value : Value)
  /-- An error that is any value but none. -/
  | error (value : Value)
  | failure (failure : Failure)
deriving Repr

namespace Completion

/-- A callback given both an error and a result; no error means success. -/
def ofPair
    (error result : Value) : Completion :=
  if error.isNone then .result result else .error error

end Completion

/-- A computation that answers through its callback, now or later, any number of times. -/
inductive Handler where
  | finish
  | fail (failure : Failure)
  | compute (routine : Routine) (next : Outcome Value → Handler)
  | complete (completion : Completion) (next : Handler)
  /-- Answers after what is already due. -/
  | completeLater (completion : Completion) (next : Handler)
  /-- Starts a rendering whose outcome goes to the callback. -/
  | startRender (template data : Value) (next : Handler)

/-- What a helper does with its arguments. -/
inductive Behaviour where
  | plain (run : Arguments → Routine)
  | coroutine (run : Arguments → Coroutine)
  | callback (run : Arguments → Handler)

/-- What kind of callable a helper is; only functions have a name of their own. -/
inductive Shape where
  | function
  | partialApplication
  | callableObject
deriving DecidableEq, Repr

structure Helper where
  label : String
  shape : Shape
  behaviour : Behaviour

/-- How the implementation of a deferred helper is run. -/
inductive CallStyle where
  | callback
  | coroutine
deriving DecidableEq, Repr

namespace CallStyle

def name : CallStyle → String
  | .callback => "callback"
  | .coroutine => "coroutine"

end CallStyle

mutual

/-- Whatever can be registered under a name. -/
inductive Callable where
  | helper (helper : Helper)
  /-- Stands in for a deferred helper: calling it records the call. -/
  | deferred (name : String) (target : Callable)
  /-- Takes no arguments and makes a source of helpers. -/
  | factory (name : String) (product : Source)

/-- Where helpers are registered from. -/
inductive Source where
  | callable (callable : Callable)
  | mapping (entries : List (Value × Source))
  | list (items : List Source)
  | tuple (items : List Source)
  | plain (value : Value)

end

instance : Inhabited Source := ⟨.plain .none⟩

namespace Callable

/-- Coroutines are awaited; everything else gets a completion callback. -/
def style : Callable → CallStyle
  | .helper implementation =>
      match implementation.behaviour with
      | .coroutine _ => .coroutine
      | _ => .callback
  | _ => .callback

/-- The name a callable has by itself. -/
def ownName? : Callable → Option String
  | .helper implementation =>
      match implementation.shape with
      | .function => some implementation.label
      | _ => none
  | .deferred name target => some (target.ownName?.getD name)
  | .factory name _ => some name

/-- The name of the type of a callable. -/
def typeName : Callable → String
  | .helper implementation =>
      match implementation.shape with
      | .function => "function"
      | .partialApplication => "partial"
      | .callableObject => "Callable"
  | _ => "function"

/-- The name of the type of a callable together with where the type belongs. -/
def qualifiedTypeName : Callable → String
  | .helper ⟨_, .partialApplication, _⟩ => "functools.partial"
  | callable => callable.typeName

end Callable

namespace Source

/-- The type name of what a source is. -/
def typeName : Source → String
  | .callable registered => registered.typeName
  | .mapping _ => "dict"
  | .list _ => "list"
  | .tuple _ => "tuple"
  | .plain value => value.typeName

mutual

/-- A plain value seen as a source: containers are walked, all else is a leaf. -/
def ofValue : Value → Source
  | .list items => .list (ofItems items)
  | .tuple items => .tuple (ofItems items)
  | .dict entries => .mapping (ofEntries entries)
  | value => .plain value

def ofItems : List Value → List Source
  | [] => []
  | item :: rest => ofValue item :: ofItems rest

def ofEntries : List (Value × Value) → List (Value × Source)
  | [] => []
  | (key, value) :: rest => (key, ofValue value) :: ofEntries rest

end

mutual

/-- A source seen as a value; what can be called shows only its type. -/
def toValue : Source → Value
  | .callable registered => .opaqueOf registered.typeName
  | .mapping entries => .dict (toEntries entries)
  | .list items => .list (toItems items)
  | .tuple items => .tuple (toItems items)
  | .plain value => value

def toItems : List Source → List Value
  | [] => []
  | item :: rest => item.toValue :: toItems rest

def toEntries : List (Value × Source) → List (Value × Value)
  | [] => []
  | (key, source) :: rest => (key, source.toValue) :: toEntries rest

end

end Source

end DeferredText
