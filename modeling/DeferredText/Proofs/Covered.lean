import DeferredText.Proofs.Permitted

/-!
Contract: what the check accepts, and what the evaluator has rules for.

The check compares the nodes of a tree with a list of kinds, wherever they stand. The evaluator
goes by cases over the expressions that it comes to, and has no rule in two places: at an expression
of another kind, and at a call of something that spells no name. What is done there is a parameter
here, and it does not matter for what the check accepts.

Owns: the evaluator with its gaps filled, and that accepted expressions never lead into them.

Does not own: the grammar of accepted expressions (`Proofs.Permitted`).
-/

namespace DeferredText

/-- What is done where the evaluator has no rule: at an expression that it does not support, and at
a call of an expression that spells no name. -/
structure Gaps (σ : Type) where
  unsupported : Expr → Action σ Value
  unnamed : Action σ (Operation σ)

/-- There is a rule for the expression itself, whatever its operands are. -/
def Expr.Ruled : Expr → Prop
  | .call callee _ _ => callee.dottedName? ≠ none
  | .binary _ (.beyond _) _ => False
  | .beyond _ _ => False
  | _ => True

namespace Gaps

/-- The evaluator refuses both, with the text of the whole expression in its errors. -/
def refused (σ : Type) (source : String) : Gaps σ where
  unsupported := fun expression => Action.fail (Evaluate.unsupported source expression.label)
  unnamed := Action.fail (.reported (.helperNotFound none source))

/-- Nothing depends on how the gaps are filled: there are rules for all of the expression, or else
they are filled as the evaluator does. -/
def Spare
    {σ : Type}
    (gaps : Gaps σ)
    (source : String)
    (expression : Expr) : Prop :=
  ∀ part, Expr.Part part expression → part.Ruled ∨ gaps = .refused σ source

theorem Spare.operand {σ : Type} {gaps : Gaps σ} {source : String} {expression operand : Expr}
    (spare : gaps.Spare source expression) (isOperand : operand ∈ expression.operands) :
    gaps.Spare source operand :=
  fun part inside => spare part (.deeper isOperand inside)

end Gaps

namespace Evaluate

variable {σ : Type}

/-- The helper of a call, which has to be called by a name. -/
def filledHelper
    (gaps : Gaps σ)
    (scope : Scope σ)
    (source : String) : Option String → Action σ (Operation σ)
  | some name => helper scope source (some name)
  | none => gaps.unnamed

mutual

/-- The value of an expression if the gaps of the evaluator are filled. -/
def filled
    (gaps : Gaps σ)
    (engine : Engine σ)
    (scope : Scope σ)
    (source : String) : Expr → Action σ Value
  | .constant constant => pure constant
  | .name identifier _ => Action.ofOutcome (name engine scope.data source identifier)
  | .member base field _ => do
      let found ← filled gaps engine scope source base
      Action.ofOutcome (access engine source found (.text field))
  | .subscript base key _ => do
      let found ← filled gaps engine scope source base
      let position ← filled gaps engine scope source key
      Action.ofOutcome (access engine source found position)
  | .call callee arguments keywords => do
      let operation ← filledHelper gaps scope source callee.dottedName?
      let positional ← filledItems gaps engine scope source arguments
      let named ← filledNamed gaps engine scope source [] keywords
      operation ⟨positional, named⟩
  | .binary left .pipe (.call callee arguments keywords) => do
      let piped ← filled gaps engine scope source left
      let positional ← filledItems gaps engine scope source arguments
      let named ← filledNamed gaps engine scope source [] keywords
      applyFilter engine scope source callee.dottedName? piped ⟨positional, named⟩
  | .binary left .pipe right => do
      let piped ← filled gaps engine scope source left
      applyFilter engine scope source right.dottedName? piped .none
  | .unary operator operand => do
      let signless ← filled gaps engine scope source operand
      Action.ofOutcome (signed operator signless)
  | .list elements _ => do return .list (← filledItems gaps engine scope source elements)
  | .tuple elements _ => do return .tuple (← filledItems gaps engine scope source elements)
  | .dict pairs => do return .dict (← filledEntries gaps engine scope source [] pairs)
  | other => gaps.unsupported other

def filledItems
    (gaps : Gaps σ)
    (engine : Engine σ)
    (scope : Scope σ)
    (source : String) : List Expr → Action σ (List Value)
  | [] => pure []
  | first :: rest => do
      let head ← filled gaps engine scope source first
      return head :: (← filledItems gaps engine scope source rest)

def filledNamed
    (gaps : Gaps σ)
    (engine : Engine σ)
    (scope : Scope σ)
    (source : String)
    (collected : List (String × Value)) :
    List (Option String × Expr) → Action σ (List (String × Value))
  | [] => pure collected
  | (none, _) :: rest => filledNamed gaps engine scope source collected rest
  | (some keyword, expression) :: rest => do
      let argument ← filled gaps engine scope source expression
      filledNamed gaps engine scope source (Arguments.setKeyword collected keyword argument) rest

def filledEntries
    (gaps : Gaps σ)
    (engine : Engine σ)
    (scope : Scope σ)
    (source : String)
    (collected : Entries) :
    List (Option Expr × Expr) → Action σ Entries
  | [] => pure collected
  | (none, _) :: rest => filledEntries gaps engine scope source collected rest
  | (some key, expression) :: rest => do
      let keyValue ← filled gaps engine scope source key
      let entryValue ← filled gaps engine scope source expression
      let extended ← Action.ofOutcome (insertEntry collected keyValue entryValue)
      filledEntries gaps engine scope source extended rest

end

/-! ### Rules for everything -/

variable {gaps : Gaps σ} {engine : Engine σ} {scope : Scope σ} {source : String}

theorem filledHelper_eq {called : Option String}
    (ruled : called ≠ none ∨ gaps = .refused σ source) :
    filledHelper gaps scope source called = helper scope source called := by
  cases called with
  | some name => rfl
  | none =>
      obtain rfl := ruled.resolve_left (not_not_intro rfl)
      rfl

mutual

/-- With nothing that depends on the gaps, the evaluation is that of the evaluator. -/
theorem filled_eq : ∀ {expression : Expr}, gaps.Spare source expression →
    filled gaps engine scope source expression = value engine scope source expression
  | .constant _, _ => by
      rw [filled, value]
  | .name _ _, _ => by
      rw [filled, value]
  | .member base _ _, spare => by
      rw [filled, value, filled_eq (spare.operand (List.mem_singleton_self base))]
  | .subscript base key _, spare => by
      rw [filled, value, filled_eq (spare.operand List.mem_cons_self),
        filled_eq (spare.operand (List.mem_cons_of_mem _ List.mem_cons_self))]
  | .call callee arguments keywords, spare => by
      rw [filled, value, filledHelper_eq (spare _ .here),
        filledItems_eq fun _ member => spare.operand (List.mem_append_left _ member),
        filledNamed_eq fun _ member => spare.operand (List.mem_append_right _ member)]
  | .binary left .pipe right, spare => by
      cases right with
      | call callee arguments keywords =>
          have inCall : ∀ argument ∈ arguments ++ keywords.map Prod.snd,
              gaps.Spare source argument :=
            fun _ member => spare.operand (List.mem_cons_of_mem _ member)
          rw [filled, value, filled_eq (spare.operand List.mem_cons_self),
            filledItems_eq fun _ member => inCall _ (List.mem_append_left _ member),
            filledNamed_eq fun _ member => inCall _ (List.mem_append_right _ member)]
      | _ =>
          rw [filled, value, filled_eq (spare.operand (List.mem_singleton_self left))]
          all_goals nofun
  | .unary _ operand, spare => by
      rw [filled, value, filled_eq (spare.operand (List.mem_singleton_self operand))]
  | .list elements _, spare => by
      have inItems : ∀ item ∈ elements, gaps.Spare source item := fun _ member =>
        spare.operand member
      rw [filled, value, filledItems_eq inItems]
  | .tuple elements _, spare => by
      have inItems : ∀ item ∈ elements, gaps.Spare source item := fun _ member =>
        spare.operand member
      rw [filled, value, filledItems_eq inItems]
  | .dict pairs, spare => by
      rw [filled, value, filledEntries_eq fun _ member => spare.operand member]
  | .binary _ (.beyond _) _, spare => by
      obtain rfl := (spare _ .here).resolve_left id
      rw [filled, value, Gaps.refused]
      all_goals nofun
  | .beyond _ _, spare => by
      obtain rfl := (spare _ .here).resolve_left id
      rw [filled, value, Gaps.refused]
      all_goals nofun

theorem filledItems_eq : ∀ {expressions : List Expr},
    (∀ expression ∈ expressions, gaps.Spare source expression) →
      filledItems gaps engine scope source expressions = items engine scope source expressions
  | [], _ => by
      rw [filledItems, items]
  | first :: rest, spare => by
      rw [List.forall_mem_cons] at spare
      rw [filledItems, items, filled_eq spare.1, filledItems_eq spare.2]

theorem filledNamed_eq : ∀ {keywords : List (Option String × Expr)}
    {collected : List (String × Value)},
    (∀ expression ∈ keywords.map Prod.snd, gaps.Spare source expression) →
      filledNamed gaps engine scope source collected keywords =
        namedItems engine scope source collected keywords
  | [], _, _ => by
      rw [filledNamed, namedItems]
  | (none, _) :: rest, _, spare => by
      rw [List.map_cons, List.forall_mem_cons] at spare
      rw [filledNamed, namedItems, filledNamed_eq spare.2]
  | (some _, expression) :: rest, _, spare => by
      rw [List.map_cons, List.forall_mem_cons] at spare
      rw [filledNamed, namedItems, filled_eq spare.1]
      simp only [filledNamed_eq spare.2]

theorem filledEntries_eq : ∀ {pairs : List (Option Expr × Expr)} {collected : Entries},
    (∀ expression ∈ pairs.flatMap fun pair => pair.1.toList ++ [pair.2],
      gaps.Spare source expression) →
      filledEntries gaps engine scope source collected pairs =
        entries engine scope source collected pairs
  | [], _, _ => by
      rw [filledEntries, entries]
  | (none, _) :: rest, _, spare => by
      rw [List.flatMap_cons, List.forall_mem_append] at spare
      rw [filledEntries, entries, filledEntries_eq spare.2]
  | (some key, expression) :: rest, _, spare => by
      rw [List.flatMap_cons, List.forall_mem_append] at spare
      obtain ⟨spareKey, spareExpression⟩ := List.forall_mem_cons.mp spare.1
      rw [filledEntries, entries, filled_eq spareKey,
        filled_eq (List.forall_mem_singleton.mp spareExpression)]
      simp only [filledEntries_eq spare.2]

end

/-- Filled as the evaluator does, the gaps give the evaluator. -/
theorem filled_refused (expression : Expr) :
    filled (.refused σ source) engine scope source expression =
      value engine scope source expression :=
  filled_eq fun _ _ => .inr rfl

/-- A helper that is not found is reported under the name by which it was called. -/
theorem helper_missing {name : String} {before after : σ} {stop : Stop}
    (fails : helper scope source (some name) before = (.error stop, after)) :
    stop = .failed (.reported (.helperNotFound (some name) source)) ∧ after = before := by
  cases found : scope.helpers name with
  | some operation =>
      rw [helper, Option.bind_some, found] at fails
      cases fails
  | none =>
      rw [helper, Option.bind_some, found] at fails
      cases fails
      exact ⟨rfl, rfl⟩

end Evaluate

namespace Expr

variable {expression : Expr} {literal : Value → Prop} {unpacking : Prop}

/-- What is evaluated inside an expression of the grammar is of the grammar. -/
theorem Permitted.part {inner : Expr} (permitted : expression.Permitted literal unpacking)
    (inside : Part inner expression) : inner.Permitted literal unpacking := by
  induction inside with
  | here => exact permitted
  | deeper isOperand _ inductionHypothesis =>
      exact inductionHypothesis (permitted.operand isOperand)

/-- There is a rule for each kind of expression in the grammar. -/
theorem Permitted.ruled (permitted : expression.Permitted literal unpacking) :
    expression.Ruled := by
  cases permitted with
  | call spells _ _ _ _ => exact Option.ne_none_iff_exists'.mpr ⟨_, spells⟩
  | _ => trivial

end Expr

/-- The evaluator covers what the check accepts. It is the evaluator with both gaps filled by its
errors, on all expressions. In an expression without problems it never comes to a gap: whatever they
are filled with, the evaluation is the same. Each call in such an expression spells a name, and
is reported under this name if there is no such helper. -/
theorem accepted_covered (tree : Expr) (accepted : tree.problems = []) :
    (∀ (σ : Type) (engine : Engine σ) (scope : Scope σ) (source : String) (other : Expr),
      Evaluate.filled (.refused σ source) engine scope source other =
        Evaluate.value engine scope source other) ∧
    (∀ (σ : Type) (gaps : Gaps σ) (engine : Engine σ) (scope : Scope σ) (source : String),
      Evaluate.filled gaps engine scope source tree = Evaluate.value engine scope source tree) ∧
    ∀ callee arguments keywords, Expr.Part (.call callee arguments keywords) tree →
      ∃ name, callee.dottedName? = some name ∧
        ∀ (σ : Type) (scope : Scope σ) (source : String) (before after : σ) (stop : Stop),
          Evaluate.helper scope source callee.dottedName? before = (.error stop, after) →
          ∃ report, stop = .failed (.reported report) ∧ report.code = "HELPER_NOT_FOUND" ∧
            report.helperName = .text name := by
  have permitted := Expr.problems_eq_nil_iff.mp accepted
  refine ⟨fun _ _ _ _ => Evaluate.filled_refused, fun σ gaps engine scope source => ?_,
    fun callee arguments keywords inside => ?_⟩
  · exact Evaluate.filled_eq fun part inside => .inl (permitted.part inside).ruled
  · have spells : callee.dottedName? ≠ none := (permitted.part inside).ruled
    obtain ⟨name, isName⟩ := Option.ne_none_iff_exists'.mp spells
    refine ⟨name, isName, fun σ scope source before after stop fails => ?_⟩
    rw [isName] at fails
    exact ⟨_, (Evaluate.helper_missing fails).1, rfl, rfl⟩

namespace Sample

/-- Gaps in which an evaluation would wait forever. -/
def endless (σ : Type) : Gaps σ where
  unsupported := fun _ => throw .stalled
  unnamed := throw .stalled

/-- A filtered call never gets into these gaps, while a call of a call does. -/
theorem documented_covered :
    documentedTree.problems = [] ∧
      Evaluate.filled (endless Unit) ⟨[], false⟩ ⟨.dict [], fun _ => none⟩ "" documentedTree () =
        (.error (.failed (.reported (.helperNotFound (some "g.f") ""))), ()) ∧
      Evaluate.filled (endless Unit) ⟨[], false⟩ ⟨.dict [], fun _ => none⟩ ""
        (.call (.call (.name "g" .read) [] []) [] []) () = (.error .stalled, ()) := by
  have accepted : documentedTree.problems = [] := by
    decide +kernel
  refine ⟨accepted, ?_, by cbv⟩
  rw [(accepted_covered documentedTree accepted).2.1]
  cbv

end Sample

end DeferredText
