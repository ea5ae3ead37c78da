import DeferredText.Log.Line
import DeferredText.Placeholder.Supply
import DeferredText.Registry.Table
import DeferredText.Waitlist

/-!
Contract: the state of one cache between and during renderings.

Calls of deferred helpers are invocations, numbered in the order they were recorded;
waitlists hold these numbers. Promises are the outcomes that callback helpers still
owe, and `ready` holds what is due to happen next, oldest first.

Owns: invocations, promises, deliveries, the state, and its elementary changes.

Does not own: the order in which deliveries happen (`Resolve.Schedule`).
-/

namespace DeferredText

inductive InvocationStatus where
  | pending
  | skipped
  | completed
  | failed
deriving DecidableEq, Repr

namespace InvocationStatus

def name : InvocationStatus → String
  | .pending => "pending"
  | .skipped => "skipped"
  | .completed => "completed"
  | .failed => "failed"

end InvocationStatus

/-- A recorded call of a deferred helper. -/
structure Invocation where
  token : String
  name : String
  arguments : Arguments
  target : Callable
  style : CallStyle
  status : InvocationStatus

/-- The outcome that a callback helper owes, once it is decided. -/
structure Promise where
  helperName : String
  cycleId : String
  outcome : Option (Outcome Value)

/-- Something due to happen. -/
inductive Delivery where
  /-- A completion reaches its promise. -/
  | settle (promise : Nat) (completion : Completion)
  /-- A helper's postponed call of its callback. -/
  | complete (promise : Nat) (completion : Completion)
  /-- A rendering starts whose outcome goes to a callback. -/
  | begin (promise : Nat) (template data : Value) (current : Option Nat)
  /-- What waits for a promise goes on. -/
  | resume (promise : Nat)

/-- A call of a helper as it is noted when the helper starts. -/
structure CallNote where
  label : String
  arguments : Arguments
deriving Repr

/-- A call of a caller's completion function: an error, or the finished text. -/
structure DoneCall where
  failure : Option Failure
  text : Option String
deriving Repr

structure CacheState where
  shape : PlaceholderShape
  strict : Bool
  warnsOnOverride : Bool
  log : Option LogSettings
  supply : Supply
  cyclesNamed : Nat
  clock : Int
  registry : Registry
  waitlists : List (Waitlist Nat)
  defaultWaitlist : Nat
  invocations : List Invocation
  promises : List Promise
  ready : List Delivery
  calls : List CallNote
  lines : List String
  delivered : List DoneCall
  /-- The invocations whose implementation was started, in that order. -/
  started : List Nat
  /-- The events that the log was told of and could not write, in that order. -/
  unwritten : List Event

/-- An action on a cache. -/
abbrev CacheAction := Action CacheState

namespace CacheState

/-- A cache with nothing registered; its default waitlist is the first cycle. -/
def initial
    (shape : PlaceholderShape)
    (strict warnsOnOverride : Bool)
    (log : Option LogSettings) : CacheState :=
  { shape := shape
    strict := strict
    warnsOnOverride := warnsOnOverride
    log := log
    supply := .initial
    cyclesNamed := 1
    clock := 0
    registry := .empty
    waitlists := [.empty (cycleName 1)]
    defaultWaitlist := 0
    invocations := []
    promises := []
    ready := []
    calls := []
    lines := []
    delivered := []
    started := []
    unwritten := [] }

/-- Opens a waitlist under a fresh cycle id. -/
def openWaitlist : CacheAction Nat := do
  let state ← get
  let number := state.cyclesNamed + 1
  set { state with
    cyclesNamed := number
    waitlists := state.waitlists ++ [Waitlist.empty (cycleName number)] }
  return state.waitlists.length

def waitlist
    (state : CacheState)
    (index : Nat) : Waitlist Nat :=
  state.waitlists.getD index (.empty "")

def setWaitlist
    (state : CacheState)
    (index : Nat)
    (waitlist : Waitlist Nat) : CacheState :=
  { state with waitlists := state.waitlists.set index waitlist }

def cycleId
    (state : CacheState)
    (index : Nat) : String :=
  (state.waitlist index).cycleId

/-- The invocations queued in a waitlist, oldest first. -/
def queued
    (state : CacheState)
    (index : Nat) : List Invocation :=
  (state.waitlist index).pending.filterMap fun number => state.invocations[number]?

/-- The waitlist that calls made now are recorded in. -/
def recording
    (state : CacheState)
    (current : Option Nat) : Nat :=
  current.getD state.defaultWaitlist

/-- Takes the oldest invocation off a waitlist. -/
def takeNext (index : Nat) : CacheAction (Option Nat) := do
  let state ← get
  match (state.waitlist index).take? with
  | none => return none
  | some (number, rest) =>
      set (state.setWaitlist index rest)
      return some number

/-- Discards everything queued in a waitlist and says how much that was. -/
def clearWaitlist (index : Nat) : CacheAction Nat := do
  let state ← get
  let (dropped, rest) := (state.waitlist index).clear
  set (state.setWaitlist index rest)
  return dropped

/-- Changes a recorded invocation. -/
def updateInvocation
    (number : Nat)
    (change : Invocation → Invocation) : CacheAction Unit :=
  modify fun state => { state with invocations := state.invocations.modify number change }

def setStatus
    (number : Nat)
    (status : InvocationStatus) : CacheAction Unit :=
  updateInvocation number fun invocation => { invocation with status := status }

/-- The arguments of a recorded call as they are now. -/
def argumentsOf (number : Nat) : CacheAction Arguments := do
  let state ← get
  return (state.invocations[number]?.map Invocation.arguments).getD .none

/-- Records a call and returns the placeholder that stands for its result. -/
def record
    (name : String)
    (target : Callable)
    (arguments : Arguments)
    (current : Option Nat) : CacheAction Value := do
  let state ← get
  let (token, supply) := Supply.token state.shape state.supply
  let index := state.recording current
  let number := state.invocations.length
  let invocation : Invocation :=
    { token := token
      name := name
      arguments := arguments
      target := target
      style := target.style
      status := .pending }
  let recorded := { state with
    supply := supply
    invocations := state.invocations ++ [invocation] }
  set (recorded.setWaitlist index ((state.waitlist index).append number))
  return .text token

/-- Notes that a helper starts. -/
def noteCall
    (label : String)
    (arguments : Arguments) : CacheAction Unit :=
  modify fun state => { state with calls := state.calls ++ [⟨label, arguments⟩] }

/-- Notes that the implementation of an invocation starts. -/
def noteStart (number : Nat) : CacheAction Unit :=
  modify fun state => { state with started := state.started ++ [number] }

/-- Writes an event to the log, if there is one. -/
def tell (event : Event) : CacheAction Unit := do
  let state ← get
  match state.log with
  | none => return ()
  | some settings =>
      match event.lines settings with
      | .ok lines => set { state with lines := state.lines ++ lines }
      | .error failure => do
          set { state with unwritten := state.unwritten ++ [event] }
          Action.fail failure

/-- Puts a delivery behind all that is due already. -/
def schedule (delivery : Delivery) : CacheAction Unit :=
  modify fun state => { state with ready := state.ready ++ [delivery] }

/-- Makes a promise for the outcome of a helper. -/
def makePromise (helperName cycleId : String) : CacheAction Nat := do
  let state ← get
  let promise : Promise :=
    { helperName := helperName
      cycleId := cycleId
      outcome := none }
  set { state with promises := state.promises ++ [promise] }
  return state.promises.length

def advanceClock (amount : Int) : CacheAction Unit :=
  modify fun state => { state with clock := state.clock + amount }

/-- The clock as a number of seconds. -/
def seconds (clock : Int) : Binary64 :=
  Binary64.ofSignedRatio clock 1024

/-- Whole milliseconds between two readings of the clock. -/
def elapsed (start finish : Int) : Int :=
  let difference := (seconds finish).add (seconds start).neg
  ((difference.mul (Binary64.ofInt 1000)).truncate?).getD 0

/-- Whole milliseconds since a reading of the clock. -/
def elapsedSince (start : Int) : CacheAction Value := do
  return .int (elapsed start (← get).clock)

end CacheState

end DeferredText
