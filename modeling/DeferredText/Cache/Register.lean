import DeferredText.Report.Standard
import DeferredText.Resolve.Call

/-!
Contract: putting helpers into a cache and finding them again.

A request is refused with a report if its name is no helper name or what it names
cannot be called. A batch is registered from left to right; what was registered
before a refusal stays.

Owns: single registrations, batches and groups, and the short forms that register or
look up depending on what they are given.

Does not own: the table itself (`Registry.Table`).
-/

namespace DeferredText

namespace Cache

/-- The text of a value that is a text. -/
def nameOnly (name : Value) : Value :=
  match name with
  | .text content => .text content
  | _ => .none

/-- Refuses a registration and says so in the log. -/
def refuse
    (name : Value)
    (reason : String) : CacheAction α := do
  CacheState.tell (.rejected name (.text reason))
  Action.fail (.reported (.invalidArgument reason (nameOnly name)))

def refuseName (name : Value) : CacheAction α := do
  let shown ← Action.ofOutcome name.quoted
  refuse name ("helper name must be identifier-like, got " ++ shown)

/-- What a request may register: a helper name together with something callable. -/
def validated
    (name : Value)
    (source : Source) : CacheAction (String × Callable) := do
  match name with
  | .text content =>
      if isHelperName content then
        match source with
        | .callable callable => return (content, callable)
        | other => refuse name ("helper '" ++ content ++ "' must be callable, got " ++ other.typeName)
      else refuseName name
  | other => refuseName other

/-- Stores an entry and notes it in the log. -/
def store (entry : Entry) : CacheAction Entry := do
  let state ← get
  let previous := state.registry.find? entry.name
  set { state with registry := state.registry.store entry }
  let name := Value.text entry.name
  let kind := Value.text entry.kind.name
  match previous with
  | some replaced =>
      if state.warnsOnOverride then
        CacheState.tell (.overridden name (.text replaced.kind.name) kind)
  | none => pure ()
  CacheState.tell (.registered name kind)
  return entry

/-- The entry of a helper: a deferred one is reached through a stand-in. -/
def entryOf
    (isAsync : Bool)
    (name : String)
    (callable : Callable) : Outcome Entry :=
  if isAsync then Entry.make name (.deferred name callable) true (some callable)
  else Entry.make name callable false none

def register
    (isAsync : Bool)
    (name : Value)
    (source : Source) : CacheAction Entry := do
  let (helperName, callable) ← validated name source
  store (← Action.ofOutcome (entryOf isAsync helperName callable))

/-- A name below a group. -/
def memberName
    (group : Option String)
    (name : String) : String :=
  match group with
  | none => name
  | some start => start ++ "." ++ name

/-- What a factory made has to be a collection. -/
def refuseProduct
    (factoryName : Option String)
    (typeName : String) : CacheAction α :=
  refuse ((factoryName.map Value.text).getD .none)
    ("helper factory must return a mapping, got " ++ typeName)

/-- Refuses a source that is no collection and cannot be called. -/
def refuseSource (value : Value) : CacheAction α := do
  match value with
  | .text content =>
      let shown ← Action.ofOutcome (Value.text content).quoted
      refuse .none ("cannot load helpers from " ++ shown ++ "; pass functions, not paths")
  | other =>
      refuse .none
        ("expected a mapping, function or list of helpers, got " ++ other.typeName)

/-- Refuses a member of a mapping that is neither callable nor a mapping. -/
def refuseMember
    (name typeName : String) : CacheAction α :=
  refuse (.text name)
    ("helper '" ++ name ++ "' must be callable or a mapping of helpers, got " ++ typeName)

/-- Keys of a mapping of helpers are texts. -/
def memberKey (key : Value) : CacheAction String := do
  match key with
  | .text content => return content
  | other => do
      let shown ← Action.ofOutcome other.quoted
      refuse other ("helper name must be a string, got " ++ shown)

mutual

/-- Registers a source from left to right and returns the names; `expand` registers
what a called helper returned. -/
def walk
    (expand : Option String → Value → CacheAction (List String))
    (callHelper : Callable → CacheAction Value)
    (isAsync : Bool)
    (group : Option String) : Source → CacheAction (List String)
  | .mapping entries => walkEntries expand callHelper isAsync group entries
  | .list items => walkItems expand callHelper isAsync group items
  | .tuple items => walkItems expand callHelper isAsync group items
  | .callable (.factory name product) => do
      CacheState.noteCall name .none
      match product with
      | .mapping entries => walkEntries expand callHelper isAsync group entries
      | .list items => walkItems expand callHelper isAsync group items
      | .tuple items => walkItems expand callHelper isAsync group items
      | other => refuseProduct (some name) other.typeName
  | .callable callable => do
      let produced ← callHelper callable
      match produced with
      | .dict _ | .list _ | .tuple _ => expand group produced
      | other => refuseProduct callable.ownName? other.typeName
  | .plain value => refuseSource value

def walkItems
    (expand : Option String → Value → CacheAction (List String))
    (callHelper : Callable → CacheAction Value)
    (isAsync : Bool)
    (group : Option String) : List Source → CacheAction (List String)
  | [] => return []
  | item :: rest => do
      let first ← walk expand callHelper isAsync group item
      let further ← walkItems expand callHelper isAsync group rest
      return first ++ further

def walkEntries
    (expand : Option String → Value → CacheAction (List String))
    (callHelper : Callable → CacheAction Value)
    (isAsync : Bool)
    (group : Option String) : List (Value × Source) → CacheAction (List String)
  | [] => return []
  | (key, member) :: rest => do
      let name := memberName group (← memberKey key)
      let first ←
        match member with
        | .mapping entries => walkEntries expand callHelper isAsync (some name) entries
        | .callable callable => do
            let entry ← register isAsync (.text name) (.callable callable)
            pure [entry.name]
        | other => refuseMember name other.typeName
      let further ← walkEntries expand callHelper isAsync group rest
      return first ++ further

end

/-- A call without arguments, outside any particular rendering. -/
def callBare
    (limits : Limits)
    (current : Option Nat)
    (callable : Callable) : CacheAction Value :=
  callable.call (runRoutine limits current) current .none

/-- Registers a returned collection, which holds nothing that can be called. -/
def walkReturned
    (isAsync : Bool)
    (group : Option String)
    (value : Value) : CacheAction (List String) :=
  walk (fun _ produced => refuseSource produced) (fun _ => return .none) isAsync group
    (Source.ofValue value)

def walkSource
    (limits : Limits)
    (current : Option Nat)
    (isAsync : Bool)
    (group : Option String)
    (source : Source) : CacheAction (List String) :=
  walk (walkReturned isAsync) (callBare limits current) isAsync group source

def registerBatch
    (limits : Limits)
    (current : Option Nat)
    (isAsync : Bool)
    (source : Source) : CacheAction (List String) :=
  walkSource limits current isAsync none source

/-- Registers a source below a group prefix. -/
def registerGroup
    (limits : Limits)
    (current : Option Nat)
    (isAsync : Bool)
    (group : Value)
    (source : Source) : CacheAction (List String) := do
  match group with
  | .text content =>
      if isHelperName content then walkSource limits current isAsync (some content) source
      else refuseGroup group
  | other => refuseGroup other
where
  refuseGroup (name : Value) : CacheAction (List String) := do
    let shown ← Action.ofOutcome name.quoted
    refuse name ("group prefix must be identifier-like, got " ++ shown)

/-- What a look-up finds. -/
inductive Found where
  | nothing
  | callable (callable : Callable)
  | group (members : List (String × Callable))

/-- Looks up a name that may be any value; no name means all helpers. -/
def lookup
    (registry : Registry)
    (name : Value) : Outcome Found :=
  match name with
  | .none => .ok (.group registry.view)
  | .text content =>
      match registry.lookup content with
      | .none => .ok .nothing
      | .helper callable => .ok (.callable callable)
      | .group members => .ok (.group members)
  | other =>
      match other.unhashable? with
      | some typeName => .error (.unhashable typeName)
      | none =>
          match other with
          | .tuple _ => .error (.wrongType "can only concatenate tuple (not \"str\") to tuple")
          | .bytes _ => .error (.wrongType "can't concat str to bytes")
          | _ =>
              let described := other.typeName
              .error (.wrongType
                s!"unsupported operand type(s) for +: '{described}' and 'str'")

/-- The text of a name, if it is one that a table could hold. -/
def tableKey (name : Value) : Outcome (Option String) :=
  match name.unhashable? with
  | some typeName => .error (.unhashable typeName)
  | none => .ok name.text?

def entry?
    (registry : Registry)
    (name : Value) : Outcome (Option Entry) := do
  return (← tableKey name).bind registry.find?

/-- The implementation behind a deferred helper. -/
def implementation?
    (registry : Registry)
    (name : Value) : Outcome (Option Callable) := do
  return (← tableKey name).bind registry.implementation?

def isDeferred
    (registry : Registry)
    (name : Value) : Outcome Bool := do
  return ((← tableKey name).map registry.isDeferred).getD false

def contains
    (registry : Registry)
    (name : Value) : Outcome Bool := do
  return ((← tableKey name).map registry.contains).getD false

/-- Removes a helper and says whether there was one. -/
def unregister (name : Value) : CacheAction Bool := do
  let state ← get
  match ← Action.ofOutcome (tableKey name) with
  | none => return false
  | some content =>
      if state.registry.contains content then
        set { state with registry := state.registry.remove content }
        return true
      else return false

/-- Helpers and groups cannot be assigned through what a look-up gives out. -/
def assign
    (registry : Registry)
    (group : Value) : Outcome Unit := do
  let described :=
    match ← lookup registry group with
    | .nothing => "NoneType"
    | .group _ => "mappingproxy"
    | .callable callable => callable.qualifiedTypeName
  throw (.wrongType s!"'{described}' object does not support item assignment")

/-- What a short form answers. -/
inductive ShortAnswer where
  | found (found : Found)
  | names (names : List String)
  | source (source : Source)

/-- Whether an argument is left out. -/
def isAbsent : Source → Bool
  | .plain .none => true
  | _ => false

/-- The short form: looks up, or registers one helper, a group or a batch. -/
def shortForm
    (limits : Limits)
    (current : Option Nat)
    (isAsync : Bool)
    (first second : Source) : CacheAction ShortAnswer := do
  match first with
  | .plain (.text name) =>
      match second with
      | .plain .none => do
          let registry := (← get).registry
          return .found (← Action.ofOutcome (lookup registry (.text name)))
      | .mapping entries => do
          return .names
            (← registerGroup limits current isAsync (.text name) (.mapping entries))
      | other => do
          discard (register isAsync (.text name) other)
          return .source other
  | other =>
      if isAbsent other && isAbsent second then do
        return .found (.group (← get).registry.view)
      else
        match isAbsent second, other with
        | true, .callable callable =>
            match callable.ownName? with
            | some name => do
                discard (register isAsync (.text name) other)
                return .source other
            | none => return .names (← registerBatch limits current isAsync other)
        | _, _ => return .names (← registerBatch limits current isAsync other)

/-- Calls what a look-up finds. -/
def callFound
    (limits : Limits)
    (current : Option Nat)
    (name : Value)
    (arguments : Arguments) : CacheAction Value := do
  let registry := (← get).registry
  match ← Action.ofOutcome (lookup registry name) with
  | .nothing => Action.fail (notCallable "NoneType")
  | .group _ => Action.fail (notCallable "mappingproxy")
  | .callable callable => callable.call (runRoutine limits current) current arguments

end Cache

end DeferredText
