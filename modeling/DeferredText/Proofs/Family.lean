import DeferredText.Cache.Render
import DeferredText.Proofs.Written

/-!
Contract: helpers that can be deferred or called directly, and templates made of them.

The helpers of a family answer with plain texts. In one registry they are deferred, in
another one the same helpers are called directly. Other helpers glue texts together and
are the same in both.

Owns: families of helpers with what glues their answers together, and the expressions and
templates that call them.

Does not own: what such templates evaluate to (`Proofs.Lockstep`).
-/

namespace DeferredText

/-! ### Helpers of two caches -/

/-- How a deferred helper hands over its answer. -/
inductive Manner where
  | coroutine
  | callback
  | later
deriving DecidableEq, Repr

/-- A helper that always answers with a text. -/
structure Member where
  label : String
  shape : Shape
  manner : Manner
  answer : Arguments → String

namespace Member

def behaviour (member : Member) : Behaviour :=
  match member.manner with
  | .coroutine => .coroutine fun arguments => .finish (.text (member.answer arguments))
  | .callback =>
      .callback fun arguments => .complete (.result (.text (member.answer arguments))) .finish
  | .later =>
      .callback fun arguments => .completeLater (.result (.text (member.answer arguments))) .finish

/-- The implementation behind the deferred helper. -/
def deferred (member : Member) : Callable :=
  .helper ⟨member.label, member.shape, member.behaviour⟩

/-- The helper that answers in place. -/
def direct (member : Member) : Callable :=
  .helper ⟨member.label, member.shape, .plain fun arguments =>
    .finish (.text (member.answer arguments))⟩

end Member

/-- A part of a text that is glued together: a fixed text, or an argument. -/
inductive Portion where
  | fixed (content : String)
  | argument (position : Nat)
deriving DecidableEq, Repr

namespace Portion

def written
    (texts : List String) : Portion → String
  | .fixed content => content
  | .argument position => texts.getD position ""

/-- The text that the pieces make of the texts of the arguments. -/
def assemble
    (texts : List String) : List Portion → String
  | [] => ""
  | piece :: rest => piece.written texts ++ assemble texts rest

end Portion

namespace Arguments

/-- So many positional arguments, and then the named ones. -/
def pack
    (count : Nat)
    (names : List String)
    (values : List Value) : Arguments :=
  ⟨values.take count, names.zip (values.drop count)⟩

end Arguments

/-- A helper that glues texts together. -/
structure Glue where
  label : String
  shape : Shape
  run : Arguments → Routine

namespace Glue

def callable (glue : Glue) : Callable :=
  .helper ⟨glue.label, glue.shape, .plain glue.run⟩

/-- Given so many positional and these named arguments, all of them texts, the helper
returns what the pieces make of them, and none of them is left out. -/
structure Joins
    (glue : Glue)
    (count : Nat)
    (names : List String)
    (pieces : List Portion) : Prop where
  run : ∀ texts : List String, texts.length = count + names.length →
    glue.run (.pack count names (texts.map .text)) = .finish (.text (Portion.assemble texts pieces))
  fixed : ∀ content, .fixed content ∈ pieces → IsPlain content
  used : ∀ position < count + names.length, .argument position ∈ pieces

end Glue

/-- A family of helpers with plain answers, and what glues them together, by name. -/
structure Library where
  family : String → Option Member
  glue : String → Option Glue
  /-- Whether a helper of this label is one of the family. -/
  isFamily : String → Bool
  ofFamily : ∀ name member, family name = some member → isFamily member.label = true
  ofGlue : ∀ name glued, glue name = some glued → isFamily glued.label = false
  plain : ∀ name member, family name = some member → ∀ arguments, IsPlain (member.answer arguments)

namespace Library

/-- The family is deferred in one registry and direct in the other one. -/
structure Fits
    (library : Library)
    (deferred direct : Registry) : Prop where
  defers : ∀ name member, library.family name = some member →
    deferred.callable? name = some (.deferred name member.deferred)
  answers : ∀ name member, library.family name = some member →
    direct.callable? name = some member.direct
  gluesDeferred : ∀ name glued, library.glue name = some glued →
    deferred.callable? name = some glued.callable
  gluesDirect : ∀ name glued, library.glue name = some glued →
    direct.callable? name = some glued.callable

/-- The notes of calls of the family. -/
def ofNotes
    (library : Library)
    (notes : List CallNote) : List CallNote :=
  notes.filter fun note => library.isFamily note.label

/-- A call that was recorded for a helper of the family. -/
def Defers
    (library : Library)
    (call : Invocation) : Prop :=
  ∃ member, library.family call.name = some member ∧ call.target = member.deferred

/-- How the call is noted when it is run with tokens replaced. -/
def note
    (library : Library)
    (results : Results)
    (call : Invocation) : CallNote :=
  ⟨((library.family call.name).map Member.label).getD "", call.arguments.substitute results⟩

/-- The results hold the answers of the calls. -/
def Solves
    (library : Library)
    (results : Results)
    (calls : List Invocation) : Prop :=
  ∀ call ∈ calls, ∀ member, library.family call.name = some member →
    (call.token, member.answer (call.arguments.substitute results)) ∈ results

end Library

/-! ### Plain templates -/

/-- Expressions made of plain texts, of names of plain texts, and of calls of helpers of the
library; those that are no texts themselves are passed on inside of lists, tuples, and
mappings with distinct constant keys. -/
inductive Plain
    (library : Library)
    (data : Value) : (isText : Bool) → Expr → Prop where
  | constant {isText : Bool} {content : String} (plain : IsPlain content) :
      Plain library data isText (.constant (.text content))
  | name {isText : Bool} {identifier content : String} {access : Access}
      (binds : data.bindsName identifier = .ok true)
      (bound : data.boundTo identifier = .ok (.text content)) (plain : IsPlain content) :
      Plain library data isText (.name identifier access)
  | family {isText : Bool} {callee : Expr} {arguments : List Expr}
      {keywords : List (Option String × Expr)} {name : String} {names : List String}
      {member : Member} (called : callee.dottedName? = some name)
      (isMember : library.family name = some member)
      (named : keywords.map Prod.fst = names.map some) (distinct : names.Nodup)
      (each : ∀ passed ∈ arguments ++ keywords.map Prod.snd, Plain library data false passed) :
      Plain library data isText (.call callee arguments keywords)
  | glue {isText : Bool} {callee : Expr} {arguments : List Expr}
      {keywords : List (Option String × Expr)} {name : String} {names : List String}
      {glued : Glue} {pieces : List Portion} (called : callee.dottedName? = some name)
      (isGlue : library.glue name = some glued)
      (named : keywords.map Prod.fst = names.map some) (distinct : names.Nodup)
      (joins : glued.Joins arguments.length names pieces)
      (each : ∀ passed ∈ arguments ++ keywords.map Prod.snd, Plain library data true passed) :
      Plain library data isText (.call callee arguments keywords)
  | list {items : List Expr} {access : Access}
      (each : ∀ item ∈ items, Plain library data false item) :
      Plain library data false (.list items access)
  | tuple {items : List Expr} {access : Access}
      (each : ∀ item ∈ items, Plain library data false item) :
      Plain library data false (.tuple items access)
  | dict {pairs : List (Option Expr × Expr)} {keys : List Value}
      (keyed : pairs.map Prod.fst = keys.map fun key => some (.constant key))
      (hashable : ∀ key ∈ keys, key.unhashable? = none)
      (distinct : keys.Pairwise fun earlier later => later.same earlier = false)
      (each : ∀ item ∈ pairs.map Prod.snd, Plain library data false item) :
      Plain library data false (.dict pairs)

end DeferredText
