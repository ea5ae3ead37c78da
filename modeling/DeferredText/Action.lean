import DeferredText.Failure

/-!
Contract: computations that change a state and may stop early.

Owns: the ways a computation stops, the action type, and moving between actions and
pure outcomes.

Does not own: computations that wait (`Resolve.Task`).
-/

namespace DeferredText

/-- Why a computation ended without a result. The last two are not failures of the
program that is run: a bound on its steps was reached, or it waits forever. -/
inductive Stop where
  | failed (failure : Failure)
  | exhausted
  | stalled
deriving Repr

/-- A computation over a state `σ`; the state survives an early stop. -/
abbrev Action (σ α : Type) := ExceptT Stop (StateM σ) α

namespace Action

variable {σ α : Type}

def fail (failure : Failure) : Action σ α :=
  throw (.failed failure)

def ofOutcome : Outcome α → Action σ α
  | .ok value => pure value
  | .error failure => fail failure

/-- Runs an action and hands a failure over as a value. -/
def attempt (action : Action σ α) : Action σ (Outcome α) := fun state =>
  match action state with
  | (.ok value, next) => (.ok (.ok value), next)
  | (.error (.failed failure), next) => (.ok (.error failure), next)
  | (.error stop, next) => (.error stop, next)

/-- Replaces the failure of an action. -/
def mapFailure
    (change : Failure → Failure)
    (action : Action σ α) : Action σ α := fun state =>
  match action state with
  | (.error (.failed failure), next) => (.error (.failed (change failure)), next)
  | other => other

end Action

/-- What a helper or filter is called with. -/
structure Arguments where
  positional : List Value
  keywords : List (String × Value)
deriving Repr

namespace Arguments

def none : Arguments := ⟨[], []⟩

def ofPositional (values : List Value) : Arguments := ⟨values, []⟩

/-- Sets a keyword argument, which keeps the place of its first mention. -/
def setKeyword : List (String × Value) → String → Value → List (String × Value)
  | [], name, value => [(name, value)]
  | pair :: rest, name, value =>
      if pair.1 == name then (name, value) :: rest else pair :: setKeyword rest name value

def keyword?
    (arguments : Arguments)
    (name : String) : Option Value :=
  (arguments.keywords.find? fun pair => pair.1 == name).map Prod.snd

/-- The keyword arguments as a mapping. -/
def keywordEntries (arguments : Arguments) : Entries :=
  arguments.keywords.map fun pair => (.text pair.1, pair.2)

end Arguments

/-- Something that can be called: a helper or a filter. -/
abbrev Operation (σ : Type) := Arguments → Action σ Value

end DeferredText
