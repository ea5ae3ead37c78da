import DeferredText.Cache.Session

/-!
Contract: whole sessions, command by command.

A user registers and removes helpers, looks them up and calls them, opens and closes cycles,
renders and resolves, and lets time pass; each command has an answer, a result or the reason
why there is none, and leaves the session in which the next one is carried out.

Owns: commands, their answers, and the run of a list of them.

Does not own: what single commands do (`Cache.Session`).
-/

namespace DeferredText

namespace Session

/-- What a user may ask of a session. -/
inductive Command where
  | register (isAsync : Bool) (name : Value) (source : Source)
  | registerBatch (isAsync : Bool) (source : Source)
  | registerGroup (isAsync : Bool) (group : Value) (source : Source)
  | shortForm (isAsync : Bool) (first second : Source)
  | unregister (name : Value)
  | lookUp (name : Value)
  | call (name : Value) (arguments : Arguments)
  | openCycle (given : Option Nat)
  | closeCycle
  | render (done : Option (Option Script)) (template data : Value)
  | resolve (done : Option (Option Script)) (given : Option Nat) (text : String)
  | wait (turns : Nat)

/-- What a session answers to a command. -/
inductive Answer where
  | entry (entry : Entry)
  | names (names : List String)
  | short (answer : Cache.ShortAnswer)
  | removed (present : Bool)
  | found (found : Cache.Found)
  | value (value : Value)
  | cycle (index : Nat)
  | text (text : Option String)
  | nothing

/-- Wraps the result of a request. -/
def answered {α : Type}
    (wrap : α → Answer)
    (asked : Except Stop α × Session) : Except Stop Answer × Session :=
  (asked.1.map wrap, asked.2)

/-- Carries out a command. -/
def obey
    (session : Session) : Command → Except Stop Answer × Session
  | .register isAsync name source => answered .entry (session.register isAsync name source)
  | .registerBatch isAsync source => answered .names (session.registerBatch isAsync source)
  | .registerGroup isAsync group source =>
      answered .names (session.registerGroup isAsync group source)
  | .shortForm isAsync first second => answered .short (session.shortForm isAsync first second)
  | .unregister name => answered .removed (session.unregister name)
  | .lookUp name => answered .found (session.ask fun registry => Cache.lookup registry name)
  | .call name arguments => answered .value (session.call name arguments)
  | .openCycle given => answered .cycle (session.openCycle given)
  | .closeCycle => (.ok .nothing, session.closeCycle)
  | .render done template data =>
      answered .text (session.render (done.map session.notify) template data)
  | .resolve done given text =>
      answered .text (session.resolve (done.map session.notify) given text)
  | .wait turns => (.ok .nothing, session.takeTurns turns)

/-- Carries out commands one after the other, whether they succeed or fail. -/
def obeyAll
    (session : Session) : List Command → List (Except Stop Answer) × Session
  | [] => ([], session)
  | command :: rest =>
      let (answer, next) := session.obey command
      let (answers, last) := next.obeyAll rest
      (answer :: answers, last)

/-- A session with a cache in which no task waits and no cycle is open. -/
def begin
    (limits : Limits)
    (state : CacheState) : Session :=
  { world := .ofState state
    cycles := []
    limits := limits }

end Session

end DeferredText
