import DeferredText.Helper.Behaviour
import DeferredText.Report.Catalog
import DeferredText.Text.Casing

/-!
Contract: helpers written as data.

A script is a small program that computes a value from the arguments of a call. The
same scripts serve as routines, as coroutines and inside handlers.

Owns: scripts, actions of handlers, and what they do as requests.

Does not own: granting requests (`Resolve.Call`, `Resolve.Invoke`).
-/

namespace DeferredText

inductive Script where
  | constant (value : Value)
  /-- The positional argument at an index, absent if there are fewer. -/
  | positional (index : Nat)
  /-- A keyword argument, absent if it is not given. -/
  | keyword (name : String)
  | allPositional
  | allKeywords
  /-- The texts of several values, one after the other. -/
  | joined (parts : List Script)
  | upper (part : Script)
  | quotedText (part : Script)
  | typeName (part : Script)
  | list (parts : List Script)
  | fail (kind : ErrorKind) (arguments : List Value)
  /-- Fails with a report made from a standard template. -/
  | report (code : String) (context : Entries)
  | call (name : String) (arguments : List Script)
  | tick (amount : Int) (next : Script)
  /-- Renders a template; only a coroutine can wait for it. -/
  | render (template : Script) (data : Value)

instance : Inhabited Script := ⟨.constant .none⟩

namespace Script

def upperText (value : Value) : Outcome Value := do
  return .text (String.ofList (upperCase (← value.display).toList))

/-- The failure of a report made from a standard template. -/
def reportFailure
    (code : String)
    (context : Entries) : Failure :=
  match ReportCatalog.standard.create code context none with
  | .ok made => .reported made
  | .error failure => failure

mutual

/-- Computes the value of a script and goes on with it. -/
def andThen
    (arguments : Arguments) : Script → (Value → Routine) → Routine
  | .constant value, next => next value
  | .positional index, next => next (arguments.positional.getD index .none)
  | .keyword name, next => next ((arguments.keyword? name).getD .none)
  | .allPositional, next => next (.list arguments.positional)
  | .allKeywords, next => next (.dict arguments.keywordEntries)
  | .joined parts, next => joinedThen arguments "" parts fun text => next (.text text)
  | .upper part, next =>
      andThen arguments part fun value => Routine.ofOutcome (upperText value) next
  | .quotedText part, next =>
      andThen arguments part fun value =>
        Routine.ofOutcome value.quoted fun text => next (.text text)
  | .typeName part, next =>
      andThen arguments part fun value => next (.text value.typeName)
  | .list parts, next => allThen arguments [] parts fun values => next (.list values)
  | .fail kind values, _ => .fail (.raised kind values)
  | .report code context, _ => .fail (reportFailure code context)
  | .call name parts, next =>
      allThen arguments [] parts fun values =>
        .call name (.ofPositional values) fun outcome => Routine.ofOutcome outcome next
  | .tick amount part, next => .advance amount (andThen arguments part next)
  | .render _ _, next => next .none

/-- Joins the texts of scripts behind a text. -/
def joinedThen
    (arguments : Arguments)
    (joined : String) : List Script → (String → Routine) → Routine
  | [], next => next joined
  | part :: rest, next =>
      andThen arguments part fun value =>
        Routine.ofOutcome value.display fun text =>
          joinedThen arguments (joined ++ text) rest next

/-- Collects the values of scripts behind others. -/
def allThen
    (arguments : Arguments)
    (collected : List Value) : List Script → (List Value → Routine) → Routine
  | [], next => next collected
  | part :: rest, next =>
      andThen arguments part fun value =>
        allThen arguments (collected ++ [value]) rest next

end

/-- A script as a computation that answers at once. -/
def routine
    (script : Script)
    (arguments : Arguments) : Routine :=
  andThen arguments script .finish

mutual

/-- Computes the value of a script, waiting for the renderings in it. -/
def awaitThen
    (arguments : Arguments) : Script → (Value → Coroutine) → Coroutine
  | .joined parts, next => awaitJoinedThen arguments "" parts fun text => next (.text text)
  | .upper part, next =>
      awaitThen arguments part fun value => Coroutine.ofOutcome (upperText value) next
  | .tick amount part, next =>
      .compute (.advance amount (.finish .none)) fun _ => awaitThen arguments part next
  | .render template data, next =>
      .compute (routine template arguments) fun outcome =>
        Coroutine.ofOutcome outcome fun text =>
          .render text data fun rendered => Coroutine.ofOutcome rendered next
  | other, next =>
      .compute (routine other arguments) fun outcome => Coroutine.ofOutcome outcome next

def awaitJoinedThen
    (arguments : Arguments)
    (joined : String) : List Script → (String → Coroutine) → Coroutine
  | [], next => next joined
  | part :: rest, next =>
      awaitThen arguments part fun value =>
        Coroutine.ofOutcome value.display fun text =>
          awaitJoinedThen arguments (joined ++ text) rest next

end

/-- A script as a computation that may wait. -/
def coroutine
    (script : Script)
    (arguments : Arguments) : Coroutine :=
  awaitThen arguments script .finish

end Script

/-- What a scripted handler reports. -/
structure ScriptedReport where
  error : Script
  result : Script

/-- One action of a scripted handler. -/
inductive ScriptAction where
  | complete (report : ScriptedReport)
  | completeLater (report : ScriptedReport)
  | tick (amount : Int)
  | fail (kind : ErrorKind) (arguments : List Value)
  | failReport (code : String) (context : Entries)
  | startRender (template : Script) (data : Value)

namespace ScriptAction

/-- Goes on with a computed value, or fails. -/
def computed
    (routine : Routine)
    (next : Value → Handler) : Handler :=
  .compute routine fun outcome =>
    match outcome with
    | .ok value => next value
    | .error failure => .fail failure

/-- Computes what is reported: the error first, then the result. -/
def completion
    (arguments : Arguments)
    (report : ScriptedReport)
    (next : Completion → Handler) : Handler :=
  computed (report.error.routine arguments) fun error =>
    computed (report.result.routine arguments) fun result =>
      next (Completion.ofPair error result)

/-- The actions of a handler, one after the other. -/
def handler
    (arguments : Arguments) : List ScriptAction → Handler
  | [] => .finish
  | .complete report :: rest =>
      completion arguments report fun reported => .complete reported (handler arguments rest)
  | .completeLater report :: rest =>
      completion arguments report fun reported => .completeLater reported (handler arguments rest)
  | .tick amount :: rest =>
      .compute (.advance amount (.finish .none)) fun _ => handler arguments rest
  | .fail kind values :: _ => .fail (.raised kind values)
  | .failReport code context :: _ => .fail (Script.reportFailure code context)
  | .startRender template data :: rest =>
      computed (template.routine arguments) fun text =>
        .startRender text data (handler arguments rest)

end ScriptAction

/-- What a scripted helper does. -/
inductive ScriptedBody where
  | plain (script : Script)
  | coroutine (script : Script)
  | callback (actions : List ScriptAction)

namespace ScriptedBody

def behaviour : ScriptedBody → Behaviour
  | .plain script => .plain script.routine
  | .coroutine script => .coroutine script.coroutine
  | .callback actions => .callback fun arguments => ScriptAction.handler arguments actions

end ScriptedBody

end DeferredText
