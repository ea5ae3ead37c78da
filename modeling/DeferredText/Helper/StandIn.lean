import DeferredText.Helper.Behaviour

/-!
Contract: what templates see of a deferred helper.

The stand-in of an implementation never runs it. It shows the parameters of the
implementation without the completion callback, and a call of it is only recorded.

Owns: parameters, the signature of an implementation and of its stand-in, and how
the implementation will be called.

Does not own: recording calls on a waitlist (`Resolve.Call`).
-/

namespace DeferredText

inductive ParameterKind where
  | positionalOnly
  | positionalOrKeyword
  | morePositional
  | keywordOnly
  | moreKeywords
deriving DecidableEq, Repr

namespace ParameterKind

def name : ParameterKind → String
  | .positionalOnly => "POSITIONAL_ONLY"
  | .positionalOrKeyword => "POSITIONAL_OR_KEYWORD"
  | .morePositional => "VAR_POSITIONAL"
  | .keywordOnly => "KEYWORD_ONLY"
  | .moreKeywords => "VAR_KEYWORD"

/-- Whether one positional argument is given to the parameter. -/
def isPositional (kind : ParameterKind) : Bool :=
  kind == .positionalOnly || kind == .positionalOrKeyword

end ParameterKind

structure Parameter where
  name : String
  kind : ParameterKind
  standard : Option Value
deriving Repr

abbrev Parameters := List Parameter

namespace Parameters

/-- The parameters without the last one that takes a positional argument. -/
def withoutCallback : Parameters → Parameters
  | [] => []
  | parameter :: rest =>
      if parameter.kind.isPositional && !(rest.any fun later => later.kind.isPositional) then rest
      else parameter :: withoutCallback rest

/-- The parameters left when the first positional arguments are given; none if there are
too many of them. -/
def bound? : Nat → Parameters → Option Parameters
  | 0, parameters => some parameters
  | _ + 1, [] => none
  | count + 1, parameter :: rest =>
      if parameter.kind.isPositional then bound? count rest
      else if parameter.kind == .morePositional then some (parameter :: rest)
      else none

end Parameters

/-- What an implementation is. -/
inductive ImplementationForm where
  | function (name : String)
  /-- A function that yields values one after the other. -/
  | generator (name : String)
  | object
  | boundMethod (name : String)
  | type (name : String)
  /-- A function with its first arguments given. -/
  | withArguments (count : Nat)
  /-- A function whose parameters cannot be inspected. -/
  | sealed (name : String)
deriving DecidableEq, Repr

/-- A function that a stand-in is made for. -/
structure Implementation where
  form : ImplementationForm
  isCoroutine : Bool
  parameters : Parameters
deriving Repr

namespace Implementation

/-- Coroutine functions are awaited; everything else gets a completion callback. -/
def style (implementation : Implementation) : CallStyle :=
  if implementation.isCoroutine then .coroutine else .callback

/-- The name that an implementation has by itself. -/
def ownName? (implementation : Implementation) : Option String :=
  match implementation.form with
  | .function name => some name
  | .generator name => some name
  | .boundMethod name => some name
  | .type name => some name
  | .sealed name => some name
  | .object => none
  | .withArguments _ => none

/-- The parameters that callers see, if they can be found out. -/
def parameters? (implementation : Implementation) : Option Parameters :=
  match implementation.form with
  | .sealed _ => none
  | .withArguments count => implementation.parameters.bound? count
  | _ => some implementation.parameters

/-- The parameters of a stand-in for an implementation that is run in a given way. -/
def shownParameters?
    (implementation : Implementation)
    (style : CallStyle) : Option Parameters :=
  implementation.parameters?.map fun parameters =>
    match style with
    | .callback => parameters.withoutCallback
    | .coroutine => parameters

end Implementation

/-- A recorded call: the name of the helper, how it is run, and its arguments. -/
structure RecordedCall where
  helperName : String
  style : CallStyle
  arguments : Arguments
deriving Repr

/-- What is registered in place of a deferred helper. -/
structure StandIn where
  helperName : String
  /-- The name of the implementation, or else of the helper. -/
  name : String
  style : CallStyle
  parameters : Option Parameters
deriving Repr

namespace StandIn

def make
    (helperName : String)
    (implementation : Implementation) : StandIn :=
  { helperName := helperName
    name := implementation.ownName?.getD helperName
    style := implementation.style
    parameters := implementation.shownParameters? implementation.style }

/-- What a call of a stand-in records. -/
def call
    (standIn : StandIn)
    (arguments : Arguments) : RecordedCall :=
  { helperName := standIn.helperName
    style := standIn.style
    arguments := arguments }

end StandIn

end DeferredText
