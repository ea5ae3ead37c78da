import DeferredText.Cache.Register
import DeferredText.Cache.Render
import DeferredText.Helper.Script

/-!
Contract: a cache in use, one request after the other.

A session keeps the cycles that its user has opened, innermost first. Every request
is made inside the innermost one. After a request, what became due meanwhile is let
happen for a few turns.

Owns: open cycles, running requests, and collecting what was called and logged.

Does not own: the requests themselves (`Cache.Register`, `Cache.Render`).
-/

namespace DeferredText

structure Session where
  world : World
  cycles : List Nat
  limits : Limits

/-- What was called, logged and handed to completion functions during a request. -/
structure Trace where
  calls : List CallNote
  lines : List String
  delivered : List DoneCall

namespace Session

def standardLimits : Limits :=
  { depth := 500
    steps := 1000000 }

def start (state : CacheState) : Session :=
  { world := .ofState state
    cycles := []
    limits := standardLimits }

/-- The waitlist of the innermost open cycle. -/
def current (session : Session) : Option Nat :=
  session.cycles.head?

def state (session : Session) : CacheState :=
  session.world.state

def withState
    (session : Session)
    (state : CacheState) : Session :=
  { session with world := { session.world with state := state } }

/-- The waitlist that calls made now are recorded in. -/
def recording (session : Session) : Nat :=
  session.state.recording session.current

/-- Runs a request that never waits. -/
def act
    (session : Session)
    (action : CacheAction α) : Except Stop α × Session :=
  match action session.state with
  | (result, state) => (result, session.withState state)

/-- Runs a request that may wait. -/
def perform
    (session : Session)
    (task : Task CacheState α) : Except Stop α × Session :=
  let (result, world) :=
    session.world.run (Cache.startRender session.limits) session.limits.steps task
  (result, { session with world := world })

/-- Opens a cycle, on a given waitlist or a fresh one, and returns its waitlist. -/
def openCycle
    (session : Session)
    (given : Option Nat) : Except Stop Nat × Session :=
  match given with
  | some index => (.ok index, { session with cycles := index :: session.cycles })
  | none =>
      match session.act CacheState.openWaitlist with
      | (.ok index, next) => (.ok index, { next with cycles := index :: next.cycles })
      | other => other

/-- Closes the innermost cycle. -/
def closeCycle (session : Session) : Session :=
  { session with cycles := session.cycles.tail }

/-- Lets happen what is due, and what becomes due by it, for the given number of turns. -/
def takeTurns
    (session : Session) : Nat → Session
  | 0 => session
  | count + 1 =>
      let world := session.world.turn (Cache.startRender session.limits)
      takeTurns { session with world := world } count

/-- What has been noted since the last time, which is forgotten. -/
def collect (session : Session) : Trace × Session :=
  let state := session.state
  let trace : Trace :=
    { calls := state.calls
      lines := state.lines
      delivered := state.delivered }
  (trace, session.withState { state with calls := [], lines := [], delivered := [] })

/-- A completion function that notes what it is given and may run a script then. -/
def notify
    (session : Session)
    (script : Option Script) : Notify := fun current call => do
  modify fun state => { state with delivered := state.delivered ++ [call] }
  match script with
  | none => return ()
  | some body => discard (runRoutine session.limits current (body.routine .none))

def register
    (session : Session)
    (isAsync : Bool)
    (name : Value)
    (source : Source) : Except Stop Entry × Session :=
  session.act (Cache.register isAsync name source)

def registerBatch
    (session : Session)
    (isAsync : Bool)
    (source : Source) : Except Stop (List String) × Session :=
  session.act (Cache.registerBatch session.limits session.current isAsync source)

def registerGroup
    (session : Session)
    (isAsync : Bool)
    (group : Value)
    (source : Source) : Except Stop (List String) × Session :=
  session.act (Cache.registerGroup session.limits session.current isAsync group source)

def shortForm
    (session : Session)
    (isAsync : Bool)
    (first second : Source) : Except Stop Cache.ShortAnswer × Session :=
  session.act (Cache.shortForm session.limits session.current isAsync first second)

/-- Answers a question about the registered helpers. -/
def ask
    (session : Session)
    (question : Registry → Outcome α) : Except Stop α × Session :=
  session.act (Action.ofOutcome (question session.state.registry))

def unregister
    (session : Session)
    (name : Value) : Except Stop Bool × Session :=
  session.act (Cache.unregister name)

def call
    (session : Session)
    (name : Value)
    (arguments : Arguments) : Except Stop Value × Session :=
  session.act (Cache.callFound session.limits session.current name arguments)

def render
    (session : Session)
    (done : Option Notify)
    (template data : Value) : Except Stop (Option String) × Session :=
  session.perform (Cache.render session.limits session.current done template data)

def resolve
    (session : Session)
    (done : Option Notify)
    (given : Option Nat)
    (text : String) : Except Stop (Option String) × Session :=
  session.perform (Cache.resolve session.limits session.current done given text)

end Session

end DeferredText
