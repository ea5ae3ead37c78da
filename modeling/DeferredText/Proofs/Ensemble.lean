import DeferredText.Proofs.Agreement
import DeferredText.Proofs.Finished
import Mathlib.Algebra.Order.BigOperators.Group.List
import Mathlib.Algebra.Order.Group.Nat

/-!
Contract: helpers that have templates rendered in which they call each other.

An ensemble has helpers that answer by themselves, in place or deferred, and helpers that
have a template of their own rendered with data of their own. Templates nest only so deep: a
helper of one template that has another one rendered is of a lower rank. So what a template
comes to is known before anything is rendered.

Owns: passages of templates, ensembles, the text that a template comes to when the texts of
its helpers are spliced in, and how many calls are recorded on the way.

Does not own: evaluation of passages (`Proofs.Splicing`) and nested renderings
(`Proofs.Nesting`).
-/

namespace DeferredText

/-! ### Passages -/

/-- Nothing in the text has the form of a token. -/
def FreeOfTokens (text : String) : Prop :=
  ∀ token, IsToken token → containsText token text = false

theorem IsPlain.freeOfTokens {text : String} (plain : IsPlain text) : FreeOfTokens text :=
  fun _ isToken => isToken.notIn_plain plain

/-- An argument that is a constant text, or a name of a text of the data. -/
inductive Passes (data : Value) : Expr → String → Prop where
  | constant {content : String} (free : FreeOfTokens content) :
      Passes data (.constant (.text content)) content
  | name {identifier content : String} {access : Access}
      (binds : data.bindsName identifier = .ok true)
      (bound : data.boundTo identifier = .ok (.text content)) (plain : IsPlain content) :
      Passes data (.name identifier access) content

theorem Passes.free {data : Value} {expression : Expr} {content : String}
    (passes : Passes data expression content) : FreeOfTokens content := by
  cases passes with
  | constant free => exact free
  | name _ _ plain => exact plain.freeOfTokens

/-- Texts as arguments; a repeated name keeps its place and takes the last text. -/
def Arguments.passing
    (positional : List String)
    (named : List (String × String)) : Arguments :=
  { positional := positional.map .text
    keywords := named.foldl (fun collected pair =>
      setKeyword collected pair.1 (.text pair.2)) [] }

/-- What a template is made of: letters, texts of its data, and calls. -/
inductive Passage where
  | letter (character : Char)
  | datum (content : String)
  | call (name : String) (arguments : Arguments)

/-- The passage that a segment of a template stands for. -/
inductive Passage.Reads (data : Value) : Segment → Passage → Prop where
  | letter {character : Char} (own : character ≠ '_') :
      Reads data (.literal character) (.letter character)
  | datum {body : List Char} {identifier content : String} {access : Access}
      (reads : Template.readExpression (String.ofList (trimBlank body)) =
        .ok (.name identifier access))
      (binds : data.bindsName identifier = .ok true)
      (bound : data.boundTo identifier = .ok (.text content)) (plain : IsPlain content) :
      Reads data (.expression body) (.datum content)
  | call {body : List Char} {callee : Expr} {arguments : List Expr}
      {keywords : List (Option String × Expr)} {name : String} {positional : List String}
      {named : List (String × String)}
      (reads : Template.readExpression (String.ofList (trimBlank body)) =
        .ok (.call callee arguments keywords))
      (called : callee.dottedName? = some name)
      (passes : List.Forall₂ (Passes data) arguments positional)
      (names : List.Forall₂ (fun keyword pair =>
        keyword.1 = some pair.1 ∧ Passes data keyword.2 pair.2) keywords named) :
      Reads data (.expression body) (.call name (.passing positional named))

/-! ### Ensembles -/

/-- A helper that has a template rendered: it waits for the text, or it leaves the outcome
of the rendering to its callback. -/
structure Partial where
  label : String
  shape : Shape
  waits : Bool
  template : String
  data : Value
  passages : List Passage

namespace Partial

def behaviour (inner : Partial) : Behaviour :=
  if inner.waits then
    .coroutine fun _ =>
      .render (.text inner.template) inner.data fun outcome => .ofOutcome outcome .finish
  else .callback fun _ => .startRender (.text inner.template) inner.data .finish

/-- The implementation behind the deferred helper. -/
def target (inner : Partial) : Callable :=
  .helper ⟨inner.label, inner.shape, inner.behaviour⟩

/-- The template is made of the passages. -/
def IsMade (inner : Partial) : Prop :=
  List.Forall₂ (Passage.Reads (templateData inner.data)) (Segment.cut inner.template.toList)
    inner.passages

end Partial

/-- What a helper does in an ensemble: it answers in place, or when it is called later, or it
is called later and has a template rendered. -/
inductive Duty where
  | direct (member : Member)
  | deferred (member : Member)
  | nesting (inner : Partial)

namespace Duty

/-- The implementation that is run later, if there is one. -/
def target? : Duty → Option Callable
  | .direct _ => none
  | .deferred member => some member.deferred
  | .nesting inner => some inner.target

/-- What is registered under the name of the helper. -/
def callable
    (name : String) : Duty → Callable
  | .direct member => member.direct
  | .deferred member => .deferred name member.deferred
  | .nesting inner => .deferred name inner.target

end Duty

/-- Helpers by name, whose answers are plain and whose templates nest only so deep. -/
structure Ensemble where
  duty : String → Option Duty
  rank : String → Nat
  plain : ∀ name member, duty name = some (.direct member) ∨ duty name = some (.deferred member) →
    ∀ arguments, IsPlain (member.answer arguments)
  made : ∀ name inner, duty name = some (.nesting inner) → inner.IsMade
  known : ∀ name inner, duty name = some (.nesting inner) →
    ∀ called arguments, .call called arguments ∈ inner.passages → (duty called).isSome
  descends : ∀ name inner, duty name = some (.nesting inner) →
    ∀ called arguments, .call called arguments ∈ inner.passages →
      ∀ further, duty called = some (.nesting further) → rank called < rank name

namespace Ensemble

/-- The helpers of the ensemble are registered. -/
def Fits
    (ensemble : Ensemble)
    (registry : Registry) : Prop :=
  ∀ name duty, ensemble.duty name = some duty → registry.callable? name = some (duty.callable name)

section Spec

variable {α : Type} (ensemble : Ensemble)

/-- The text of a passage, given the texts that templates come to. -/
def written
    (texts : String → String) : Passage → String
  | .letter character => String.singleton character
  | .datum content => content
  | .call name arguments =>
      match ensemble.duty name with
      | some (.direct member) => member.answer arguments
      | some (.deferred member) => member.answer arguments
      | some (.nesting _) => texts name
      | none => ""

/-- The texts of passages, one after the other. -/
def splice
    (texts : String → String) : List Passage → String
  | [] => ""
  | passage :: rest => ensemble.written texts passage ++ splice texts rest

/-- Whether a passage is a call that is run later. -/
def isDeferred : Passage → Bool
  | .call name _ => ((ensemble.duty name).bind Duty.target?).isSome
  | _ => false

/-- How many calls a call leads to, itself not counted. -/
def inside
    (costs : String → Nat)
    (name : String) : Nat :=
  match ensemble.duty name with
  | some (.nesting _) => costs name
  | _ => 0

/-- How many calls are recorded for a passage, those of nested templates included. -/
def cost
    (costs : String → Nat) : Passage → Nat
  | .call name arguments =>
      if ensemble.isDeferred (.call name arguments) then 1 + ensemble.inside costs name else 0
  | _ => 0

def tally
    (costs : String → Nat)
    (passages : List Passage) : Nat :=
  (passages.map (ensemble.cost costs)).sum

/-- What templates come to that nest at most so deep. -/
def within
    (base : α)
    (combine : (String → α) → List Passage → α) : Nat → String → α
  | 0, _ => base
  | depth + 1, name =>
      match ensemble.duty name with
      | some (.nesting inner) => combine (within base combine depth) inner.passages
      | _ => base

/-- What the template behind a name comes to. -/
def unfolded
    (base : α)
    (combine : (String → α) → List Passage → α)
    (name : String) : α :=
  ensemble.within base combine (ensemble.rank name + 1) name

/-- The text that the template behind a name comes to. -/
def text : String → String :=
  ensemble.unfolded "" ensemble.splice

/-- How many calls are recorded when the template behind a name is rendered. -/
def calls : String → Nat :=
  ensemble.unfolded 0 ensemble.tally

end Spec

variable {α : Type} {ensemble : Ensemble} {name : String} {inner : Partial}
  {passages : List Passage}

/-- Two ways to see templates are the same to the passages. -/
def Agree
    (ensemble : Ensemble)
    (passages : List Passage)
    (first second : String → α) : Prop :=
  ∀ called arguments, .call called arguments ∈ passages →
    ∀ further, ensemble.duty called = some (.nesting further) → first called = second called

theorem Agree.tail {passage : Passage} {rest : List Passage} {first second : String → α}
    (agree : ensemble.Agree (passage :: rest) first second) : ensemble.Agree rest first second :=
  fun called arguments member => agree called arguments (List.mem_cons_of_mem passage member)

section Unfolded

variable {base : α} {combine : (String → α) → List Passage → α}

/-- More depth than the rank of a template makes no difference. -/
theorem within_enough
    (respects : ∀ {passages first second}, ensemble.Agree passages first second →
      combine first passages = combine second passages)
    {depth more : Nat} (deep : ensemble.rank name < depth) (deeper : ensemble.rank name < more) :
    ensemble.within base combine depth name = ensemble.within base combine more name := by
  induction depth generalizing name more with
  | zero => exact absurd deep (Nat.not_lt_zero _)
  | succ depth inductionHypothesis =>
      obtain ⟨further, rfl⟩ := Nat.exists_eq_succ_of_ne_zero (Nat.ne_zero_of_lt deeper)
      rw [within, within]
      split
      · rename_i inner isNesting
        apply respects
        intro called arguments member nested isNested
        have below := ensemble.descends name inner isNesting called arguments member nested isNested
        exact inductionHypothesis (by omega) (by omega)
      · rfl

/-- What a template comes to depends on its passages and on what the templates in them come to. -/
theorem unfolded_eq
    (respects : ∀ {passages first second}, ensemble.Agree passages first second →
      combine first passages = combine second passages)
    (isNesting : ensemble.duty name = some (.nesting inner)) :
    ensemble.unfolded base combine name =
      combine (ensemble.unfolded base combine) inner.passages := by
  rw [unfolded, within, isNesting]
  apply respects
  intro called arguments member nested isNested
  have below := ensemble.descends name inner isNesting called arguments member nested isNested
  exact within_enough respects below (Nat.lt_succ_self _)

end Unfolded

/-! ### Texts -/

theorem written_congr {passage : Passage} {rest : List Passage} {first second : String → String}
    (agree : ensemble.Agree (passage :: rest) first second) :
    ensemble.written first passage = ensemble.written second passage := by
  cases passage with
  | letter character => rfl
  | datum content => rfl
  | call called arguments =>
      rw [written, written]
      split
      · rfl
      · rfl
      · rename_i further isNesting
        exact agree called arguments List.mem_cons_self further isNesting
      · rfl

theorem splice_congr {first second : String → String}
    (agree : ensemble.Agree passages first second) :
    ensemble.splice first passages = ensemble.splice second passages := by
  induction passages with
  | nil => rfl
  | cons passage rest inductionHypothesis =>
      rw [splice, splice, written_congr agree, inductionHypothesis agree.tail]

theorem text_eq (isNesting : ensemble.duty name = some (.nesting inner)) :
    ensemble.text name = ensemble.splice ensemble.text inner.passages :=
  unfolded_eq splice_congr isNesting

/-- The text of a call is plain if the template behind it comes to a plain one. -/
theorem isPlain_call {called : String} {arguments : Arguments} {texts : String → String}
    (plain : ∀ further, ensemble.duty called = some (.nesting further) → IsPlain (texts called)) :
    IsPlain (ensemble.written texts (.call called arguments)) := by
  rw [written]
  split
  · rename_i member isMember
    exact ensemble.plain called member (.inl isMember) arguments
  · rename_i member isMember
    exact ensemble.plain called member (.inr isMember) arguments
  · rename_i further isNesting
    exact plain further isNesting
  · exact isPlain_empty

/-- The text of a passage is plain if those of nested templates are. -/
theorem isPlain_written {data : Value} {segment : Segment} {passage : Passage}
    {texts : String → String} (reads : passage.Reads data segment)
    (plain : ∀ called arguments, passage = .call called arguments →
      ∀ further, ensemble.duty called = some (.nesting further) → IsPlain (texts called)) :
    IsPlain (ensemble.written texts passage) := by
  cases reads with
  | letter own =>
      apply isPlain_of_notMem
      rw [written, String.toList_singleton, List.mem_singleton]
      exact Ne.symm own
  | datum _ _ _ isPlain => exact isPlain
  | call => exact isPlain_call (plain _ _ rfl)

theorem isPlain_splice {data : Value} {segments : List Segment} {texts : String → String}
    (reads : List.Forall₂ (Passage.Reads data) segments passages)
    (plain : ∀ called arguments, .call called arguments ∈ passages →
      ∀ further, ensemble.duty called = some (.nesting further) → IsPlain (texts called)) :
    IsPlain (ensemble.splice texts passages) := by
  induction reads with
  | nil => exact isPlain_empty
  | cons first _ inductionHypothesis =>
      rw [splice]
      refine isPlain_append (isPlain_written first ?_) (inductionHypothesis ?_)
      · rintro called arguments rfl
        exact plain called arguments List.mem_cons_self
      · exact fun called arguments member =>
          plain called arguments (List.mem_cons_of_mem _ member)

/-- What templates come to is plain. -/
theorem isPlain_text (isNesting : ensemble.duty name = some (.nesting inner)) :
    IsPlain (ensemble.text name) := by
  generalize ranked : ensemble.rank name = rank
  induction rank using Nat.strong_induction_on generalizing name inner with
  | _ rank inductionHypothesis =>
      rw [text_eq isNesting]
      apply isPlain_splice (ensemble.made name inner isNesting)
      intro called arguments member further isNested
      have below := ensemble.descends name inner isNesting called arguments member further isNested
      exact inductionHypothesis _ (ranked ▸ below) isNested rfl

/-! ### Calls -/

theorem inside_congr {called : String} {arguments : Arguments} {first second : String → Nat}
    (agree : ensemble.Agree passages first second) (member : .call called arguments ∈ passages) :
    ensemble.inside first called = ensemble.inside second called := by
  rw [inside, inside]
  split
  · rename_i further isNesting
    exact agree called arguments member further isNesting
  · rfl

theorem tally_congr {first second : String → Nat} (agree : ensemble.Agree passages first second) :
    ensemble.tally first passages = ensemble.tally second passages := by
  rw [tally, tally]
  congr 1
  apply List.map_congr_left
  intro passage member
  cases passage with
  | call called arguments => rw [cost, cost, inside_congr agree member]
  | _ => rfl

theorem calls_eq (isNesting : ensemble.duty name = some (.nesting inner)) :
    ensemble.calls name = ensemble.tally ensemble.calls inner.passages :=
  unfolded_eq tally_congr isNesting

/-- Only calls that are run later count. -/
theorem tally_filter (costs : String → Nat) (passages : List Passage) :
    ensemble.tally costs (passages.filter ensemble.isDeferred) = ensemble.tally costs passages := by
  induction passages with
  | nil => rfl
  | cons passage rest inductionHypothesis =>
      have others : ((rest.filter ensemble.isDeferred).map (ensemble.cost costs)).sum =
          (rest.map (ensemble.cost costs)).sum := inductionHypothesis
      rw [tally, tally, List.filter_cons]
      split
      · rw [List.map_cons, List.map_cons, List.sum_cons, List.sum_cons, others]
      · rename_i inPlace
        have free : ensemble.cost costs passage = 0 := by
          cases passage with
          | call called arguments => rw [cost, if_neg inPlace]
          | _ => rfl
        rw [List.map_cons, List.sum_cons, others, free, Nat.zero_add]

end Ensemble

end DeferredText
