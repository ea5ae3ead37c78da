import DeferredText.Resolve.State
import DeferredText.Resolve.Substitute
import DeferredText.Resolve.Task

/-!
Contract: resolving the calls of one waitlist.

Calls are taken oldest first, one at a time. A call is needed if its placeholder is
in the text or in an argument of a call still queued; a call that is not needed is
skipped. The first failure discards what is queued.

Owns: which calls run, substitution of results, the status of each call, and the log
of the whole. What running a call means is a parameter.

Does not own: running implementations (`Resolve.Invoke`).
-/

namespace DeferredText

namespace Arguments

def mentions
    (arguments : Arguments)
    (token : String) : Bool :=
  Value.itemsMention token arguments.positional ||
    arguments.keywords.any fun pair => pair.2.mentions token

def substitute
    (results : Results)
    (arguments : Arguments) : Arguments :=
  { positional := Value.substituteItems results arguments.positional
    keywords := arguments.keywords.map fun pair => (pair.1, pair.2.substitute results) }

end Arguments

/-- How far the resolution of a waitlist has come. -/
structure Progress where
  text : String
  results : Results
  resolved : Nat
  skipped : Nat
deriving DecidableEq, Repr

namespace Progress

def start (text : String) : Progress :=
  { text := text
    results := []
    resolved := 0
    skipped := 0 }

/-- Puts the result of a call in place of its placeholder. -/
def complete
    (progress : Progress)
    (token result : String) : Progress :=
  { progress with
    text := replaceText token result progress.text
    results := progress.results.set token result
    resolved := progress.resolved + 1 }

def skip (progress : Progress) : Progress :=
  { progress with skipped := progress.skipped + 1 }

end Progress

/-- The text a returned value stands for; an absent value leaves no trace. -/
def resultText (value : Value) : Outcome String :=
  match value with
  | .none => .ok ""
  | present => present.display

namespace Drain

/-- Runs the implementation of an invocation, given by its number. -/
abbrev Invoke := Nat → Task CacheState Value

/-- Whether a call has to run, given the calls queued behind it. -/
def isNeeded
    (text token : String)
    (queued : List Invocation) : Bool :=
  containsText token text || queued.any fun invocation => invocation.arguments.mentions token

/-- Puts results into the arguments of a call that is about to run. -/
def prepare
    (number : Nat)
    (results : Results) : CacheAction Unit :=
  if results.isEmpty then return ()
  else
    CacheState.updateInvocation number fun invocation =>
      { invocation with arguments := invocation.arguments.substitute results }

/-- Ends the resolution of a waitlist after a call failed. -/
def abort
    (index number : Nat)
    (cycle name : Value)
    (started : Int)
    (failure : Failure) : CacheAction Progress := do
  CacheState.setStatus number .failed
  let remaining ← CacheState.clearWaitlist index
  CacheState.tell (.failed cycle name (.failure failure) (← CacheState.elapsedSince started))
  CacheState.tell (.aborted cycle (.int remaining))
  Action.fail failure

/-- Goes on after a call has returned. -/
def accept
    (number : Nat)
    (cycle name : Value)
    (token : String)
    (started : Int)
    (progress : Progress)
    (value : Value) : CacheAction Progress := do
  CacheState.setStatus number .completed
  let result ← Action.ofOutcome (resultText value)
  CacheState.tell (.completed cycle name (← CacheState.elapsedSince started))
  return progress.complete token result

/-- Skips or runs one call taken off the waitlist. -/
def step
    (invoke : Invoke)
    (index number : Nat)
    (progress : Progress) : Task CacheState Progress := do
  let state ← (get : CacheAction CacheState)
  match state.invocations[number]? with
  | none => return progress
  | some invocation =>
      let cycle := Value.text (state.cycleId index)
      let name := Value.text invocation.name
      let token := invocation.token
      if isNeeded progress.text token (state.queued index) then do
        prepare number progress.results
        let arguments ← CacheState.argumentsOf number
        CacheState.tell (.invoking cycle name (.tuple arguments.positional))
        match ← (invoke number).attempt with
        | .error failure => abort index number cycle name state.clock failure
        | .ok value => accept number cycle name token state.clock progress value
      else do
        CacheState.setStatus number .skipped
        CacheState.tell (.skipped cycle name (.text token))
        return progress.skip

/-- Takes calls off the waitlist until none is left, at most `fuel` of them. -/
def loop
    (invoke : Invoke)
    (index : Nat) : Nat → Progress → Task CacheState Progress
  | 0, _ => Task.stop .exhausted
  | fuel + 1, progress => do
      match ← CacheState.takeNext index with
      | none => return progress
      | some number => do
          let further ← step invoke index number progress
          loop invoke index fuel further

/-- The text with every placeholder of the waitlist replaced. -/
def run
    (invoke : Invoke)
    (fuel index : Nat)
    (text : String) : Task CacheState String := do
  let state ← (get : CacheAction CacheState)
  let cycle := Value.text (state.cycleId index)
  CacheState.tell (.started cycle (.int (state.waitlist index).pending.length))
  let progress ← loop invoke index fuel (.start text)
  CacheState.tell
    (.finished cycle (.int progress.resolved) (.int progress.skipped)
      (← CacheState.elapsedSince state.clock))
  return progress.text

end Drain

end DeferredText
