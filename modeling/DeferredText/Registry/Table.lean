import DeferredText.Helper.Behaviour
import DeferredText.Text.Identifier
import DeferredText.Text.Search

/-!
Contract: the mapping from names to helpers.

An entry holds what templates call and, for a deferred helper, the implementation
behind it. What templates call is kept once more in a table of its own. Both tables keep
the order of the first registrations.

Owns: valid names, entries, the tables with their operations, and lookup of helpers
and groups.

Does not own: registration requests and their errors (`Cache.Register`).
-/

namespace DeferredText

/-- A name is a dot-separated run of identifiers. -/
def isHelperName (name : String) : Bool :=
  name != "" && (splitOnChar '.' name.toList).all isIdentifier

/-- `isHelperName` for any value; only texts can be names. -/
def isValidName : Value → Bool
  | .text name => isHelperName name
  | _ => false

/-- Whether a helper answers in place or later. -/
inductive HelperKind where
  | sync
  | async
deriving DecidableEq, Repr

namespace HelperKind

def name : HelperKind → String
  | .sync => "sync"
  | .async => "async"

end HelperKind

/-- A registered helper. Only a deferred one has an implementation behind it. -/
structure Entry where
  name : String
  callable : Callable
  isDeferred : Bool
  implementation : Option Callable

namespace Entry

def kind (entry : Entry) : HelperKind :=
  if entry.isDeferred then .async else .sync

/-- An entry whose kind is stated; the implementation has to match it. -/
def make
    (name : String)
    (callable : Callable)
    (isAsync : Bool)
    (implementation : Option Callable) : Outcome Entry :=
  if isAsync && implementation.isNone then
    .error (.badValue s!"Async helper '{name}' requires a real implementation")
  else if !isAsync && implementation.isSome then
    .error (.badValue s!"Sync helper '{name}' must not carry a real implementation")
  else .ok ⟨name, callable, isAsync, implementation⟩

end Entry

/-- What is kept under names, in the order in which the names were put in. -/
abbrev Table (α : Type) := List (String × α)

namespace Table

variable {α : Type}

def get?
    (table : Table α)
    (name : String) : Option α :=
  (List.find? (fun row => row.1 == name) table).map Prod.snd

def names (table : Table α) : List String :=
  List.map Prod.fst table

/-- Replaces what is kept under a name, which keeps its place, or adds it at the end. -/
def put : Table α → String → α → Table α
  | [], name, value => [(name, value)]
  | row :: rest, name, value =>
      if row.1 == name then (row.1, value) :: rest else row :: put rest name value

def remove
    (table : Table α)
    (name : String) : Table α :=
  List.filter (fun row => row.1 != name) table

end Table

/-- Registered helpers in the order of their first registration: their entries, and apart from
them what templates call. -/
structure Registry where
  entries : Table Entry
  callables : Table Callable

namespace Registry

def empty : Registry := ⟨[], []⟩

def find?
    (registry : Registry)
    (name : String) : Option Entry :=
  registry.entries.get? name

def names (registry : Registry) : List String :=
  registry.entries.names

def contains
    (registry : Registry)
    (name : String) : Bool :=
  (registry.find? name).isSome

/-- Replaces the helper of the same name, which keeps its place, or adds it at the end. -/
def store
    (registry : Registry)
    (entry : Entry) : Registry :=
  { entries := registry.entries.put entry.name entry
    callables := registry.callables.put entry.name entry.callable }

def remove
    (registry : Registry)
    (name : String) : Registry :=
  { entries := registry.entries.remove name
    callables := registry.callables.remove name }

/-- A registry in which entries have been stored one after the other. -/
def ofEntries (entries : List Entry) : Registry :=
  entries.foldl store empty

def callable?
    (registry : Registry)
    (name : String) : Option Callable :=
  registry.callables.get? name

def isDeferred
    (registry : Registry)
    (name : String) : Bool :=
  ((registry.find? name).map Entry.isDeferred).getD false

/-- The implementation behind a deferred helper. -/
def implementation?
    (registry : Registry)
    (name : String) : Option Callable :=
  ((registry.find? name).filter Entry.isDeferred).bind Entry.implementation

/-- All helpers as templates see them. -/
def view (registry : Registry) : List (String × Callable) :=
  registry.callables

/-- The part of a name after a group prefix and a dot. -/
def memberName?
    (group : String)
    (name : String) : Option String :=
  let start := group.toList ++ ['.']
  if start.isPrefixOf name.toList then some (String.ofList (name.toList.drop start.length))
  else none

/-- The helpers below a group prefix, by the rest of their names. -/
def members
    (registry : Registry)
    (group : String) : List (String × Callable) :=
  registry.callables.filterMap fun row =>
    (memberName? group row.1).map fun rest => (rest, row.2)

/-- What a name stands for. -/
inductive Lookup where
  | none
  | helper (callable : Callable)
  | group (members : List (String × Callable))

/-- A helper of exactly this name comes before a group with this prefix. -/
def lookup
    (registry : Registry)
    (name : String) : Lookup :=
  match registry.callable? name with
  | some callable => .helper callable
  | Option.none =>
      match registry.members name with
      | [] => .none
      | members => .group members

end Registry

end DeferredText
