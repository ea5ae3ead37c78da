import DeferredText.Report.Standard

/-!
Contract: references to environment variables inside configuration text.

A text is a sequence of plain characters and references. Every reference is replaced
by one look into the environment; what is put in is not read again.

Owns: the pieces of a text, their expansion, and expansion at every depth of a value.

Does not own: which texts are expanded (`Config.Loader`).
-/

namespace DeferredText

/-- Variables and their values. -/
abbrev Environment := List (String × String)

def Environment.get?
    (environment : Environment)
    (name : String) : Option String :=
  (List.find? (fun entry => entry.1 == name) environment).map Prod.snd

/-- What happens where a variable is not set. -/
inductive Fallback where
  | required
  | default (text : List Char)
  | complaint (message : List Char)
deriving DecidableEq, Repr

structure Reference where
  name : List Char
  fallback : Fallback
deriving DecidableEq, Repr

/-- A part of a text with references. -/
inductive EnvironmentPart where
  | plain (character : Char)
  | lookup (reference : Reference)
deriving DecidableEq, Repr

namespace Reference

/-- Whether a character may stand in the name of a variable. -/
def isNameCharacter (character : Char) : Bool :=
  character != '\x7d' && character != ':'

/-- The reference whose name starts a text, and what follows its brace. -/
def read? (text : List Char) : Option (Reference × List Char) :=
  let name := text.takeWhile isNameCharacter
  if name.isEmpty then none
  else
    match text.dropWhile isNameCharacter with
    | '\x7d' :: rest => some (⟨name, .required⟩, rest)
    | ':' :: mark :: rest =>
        let argument := rest.takeWhile fun character => character != '\x7d'
        match rest.dropWhile fun character => character != '\x7d' with
        | [] => none
        | _ :: after =>
            if mark = '-' then some (⟨name, .default argument⟩, after)
            else if mark = '?' then some (⟨name, .complaint argument⟩, after)
            else none
    | _ => none

/-- What is reported if the variable has no value. -/
def missing (name : String) : String :=
  s!"Required environment variable {name} not set"

/-- The text that takes the place of a reference. -/
def expand
    (environment : Environment)
    (reference : Reference) : Outcome (List Char) :=
  let name := String.ofList reference.name
  match environment.get? name with
  | some value => .ok value.toList
  | none =>
      match reference.fallback with
      | .default text => .ok text
      | .required => .error (.reported (.configInvalid (missing name)))
      | .complaint message =>
          let detail := if message.isEmpty then missing name else String.ofList message
          .error (.reported (.configInvalid detail))

end Reference

namespace EnvironmentPart

/-- The pieces of a text from left to right; the next `skipped` characters belong to a
reference already read. -/
def partsFrom : Nat → List Char → List EnvironmentPart
  | _, [] => []
  | skipped + 1, _ :: rest => partsFrom skipped rest
  | 0, head :: rest =>
      match head, rest with
      | '$', '\x7b' :: inner =>
          match Reference.read? inner with
          | some (reference, after) =>
              .lookup reference :: partsFrom (rest.length - after.length) rest
          | none => .plain head :: partsFrom 0 rest
      | _, _ => .plain head :: partsFrom 0 rest

def partsOf (text : List Char) : List EnvironmentPart :=
  partsFrom 0 text

def expand
    (environment : Environment) : EnvironmentPart → Outcome (List Char)
  | .plain character => .ok [character]
  | .lookup reference => reference.expand environment

end EnvironmentPart

namespace Environment

/-- A text with its references replaced; the first one that fails decides. -/
def expand
    (environment : Environment)
    (text : String) : Outcome String := do
  let parts ← (EnvironmentPart.partsOf text.toList).mapM (EnvironmentPart.expand environment)
  return String.ofList parts.flatten

mutual

/-- A value with every text in it expanded. Keys stay as they are. -/
def expandValue
    (environment : Environment) : Value → Outcome Value
  | .text content => do return .text (← environment.expand content)
  | .list items => do return .list (← expandItems environment items)
  | .dict entries => do return .dict (← expandEntries environment entries)
  | other => .ok other

def expandItems
    (environment : Environment) : List Value → Outcome (List Value)
  | [] => .ok []
  | item :: rest => do
      return (← expandValue environment item) :: (← expandItems environment rest)

def expandEntries
    (environment : Environment) : List (Value × Value) → Outcome Entries
  | [] => .ok []
  | (key, value) :: rest => do
      return (key, ← expandValue environment value) :: (← expandEntries environment rest)

end

end Environment

end DeferredText
