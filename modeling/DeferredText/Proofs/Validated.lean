import DeferredText.Proofs.Sites

/-!
Contract: validating a template and rendering it.

Validation and rendering read the expressions of a text on paths of their own: one lists what is
wrong with each expression, the other refuses the first expression that it cannot read. They agree:
nothing is wrong exactly if every expression can be read, and a text with something wrong in it is
rendered by no engine and no cache, whatever the data and the helpers.

Owns: validation against reading, and what becomes of a rendering that cannot be evaluated.

Does not own: what a rendering without errors calls (`Proofs.Sites`).
-/

namespace DeferredText

namespace Template

/-- Lists are made of all members and nothing is in them exactly if each of them is empty. -/
theorem mapM_flatten_eq_nil_iff {α : Type} {use : String → Outcome (List α)}
    (found : List String) : List.flatten <$> found.mapM use = .ok [] ↔
      ∀ expression ∈ found, use expression = .ok [] := by
  induction found with
  | nil => exact iff_of_true rfl nofun
  | cons expression others inductionHypothesis =>
      rw [List.forall_mem_cons, ← inductionHypothesis, List.mapM_cons]
      rcases use expression with failure | _ | ⟨first, rest⟩ <;>
        rcases others.mapM use with failure | lists <;>
        simp [bind, Except.bind, pure, Except.pure, Functor.map, Except.map]

/-- There is nothing to read in an expression without characters. -/
theorem readExpression_empty (tree : Expr) : readExpression "" ≠ .ok tree := by
  have nothing : syntaxOf [] = .ok none := by
    cbv
  intro reads
  cases nothing.symm.trans (of_readExpression reads).1

/-- An expression can be read if there is a tree for it, and nothing wrong with the tree. -/
theorem readExpression_eq_ok_iff {expression : String} {tree : Expr}
    (trimmed : trimBlank expression.toList = expression.toList) :
    readExpression expression = .ok tree ↔
      syntaxOf expression.toList = .ok (some tree) ∧ tree.problems = [] := by
  refine ⟨fun reads => trimmed ▸ of_readExpression reads, fun ⟨spelled, noProblem⟩ => ?_⟩
  rw [readExpression, trimmed, spelled]
  simp [bind, Except.bind, noProblem, pure, Except.pure]

/-- Validation has nothing to say exactly if all expressions of the text can be read. -/
theorem validate_eq_nil_iff {content : String} : validate content = .ok [] ↔
    ∀ expression ∈ expressions content, ∃ tree, readExpression expression = .ok tree := by
  refine (mapM_flatten_eq_nil_iff _).trans (forall₂_congr fun expression member => ?_)
  have trimmed := trimmed_of_mem member
  by_cases empty : expression = ""
  · subst empty
    exact iff_of_false nofun fun ⟨tree, reads⟩ => readExpression_empty tree reads
  · rw [if_neg (by simpa using empty)]
    simp only [readExpression_eq_ok_iff trimmed]
    rcases syntaxOf expression.toList with failure | _ | tree <;>
      simp [bind, Except.bind, pure, Except.pure]

end Template

namespace Engine

open Template

/-- A text is rendered only if all of its expressions can be read. -/
theorem reads_of_render {σ : Type} {engine : Engine σ} {scope : Scope σ} {content : String}
    {rendered : Rendered} {before after : σ}
    (renders : engine.render scope (.text content) before = (.ok rendered, after)) :
    ∀ expression ∈ expressions content, ∃ tree, readExpression expression = .ok tree := by
  have noted := engine.render_noting scope (.text content) before
  rw [renders] at noted
  obtain ⟨trees, areRead, -⟩ := Engine.tallies_render noted
  intro expression member
  obtain ⟨tree, -, reads⟩ := mem_of_forall₂ areRead member
  exact ⟨tree, reads⟩

end Engine

namespace Cache

variable {limits : Limits} {current : Option Nat} {done : Option Notify} {state after : CacheState}

/-- A rendering whose template could not be evaluated has no text. -/
theorem renderFailed_ne_text {index : Nat} {failure : Failure} {text : String} :
    renderFailed done index failure state ≠ (.ok (some text), after) := by
  intro renders
  obtain ⟨_, _, -, renders⟩ := Action.bind_ok_cases renders
  obtain ⟨_, _, -, renders⟩ := Action.bind_ok_cases renders
  obtain ⟨_, _, -, hands⟩ := Action.bind_ok_cases renders
  cases done with
  | none => cases hands
  | some notify =>
      obtain ⟨_, _, -, returns⟩ := Action.bind_ok_cases hands
      cases returns

/-- A rendering ends without a text, and without waiting, unless its template is evaluated. -/
theorem render_without_text {template data : Value} (state : CacheState)
    (unevaluated : ∀ index rendered before after,
      renderPass limits index template data before ≠ (.ok rendered, after)) :
    ∃ result after, render limits current done template data state = .done result after ∧
      ∀ text, result ≠ .ok (some text) := by
  rw [render]
  cases limits.depth with
  | zero =>
      refine ⟨_, _, rfl, fun text same => ?_⟩
      cases same
  | succ depth =>
      rw [renderWithin_into, Task.bind_ok (CacheState.openWaitlist_eq state), renderInto]
      rcases passes : Action.attempt (renderPass limits state.waitlists.length template data)
        state.opened with ⟨stop | failure | rendered, passed⟩
      · refine ⟨_, _, Task.bind_stop passes, fun text same => ?_⟩
        cases same
      · rw [Task.bind_ok passes]
        exact ⟨_, _, rfl, fun text fails => renderFailed_ne_text (Prod.ext fails rfl)⟩
      · rcases evaluates : renderPass limits state.waitlists.length template data state.opened with
          ⟨(_ | _ | _) | _, reached⟩ <;> rw [Action.attempt_eq, evaluates] at passes <;> cases passes
        exact absurd evaluates (unevaluated _ _ _ _)

end Cache

/-- Validation and rendering agree. Nothing is wrong with a text exactly if each of its expressions
can be read. If validation finds something wrong, then no rendering of the text succeeds: not with
any engine, data and helpers, and not in any state of a cache, where the rendering ends without
waiting and without a text. -/
theorem validation_agrees (content : String) :
    (Template.validate content = .ok [] ↔ ∀ expression ∈ Template.expressions content,
      ∃ tree, Template.readExpression expression = .ok tree) ∧
    ∀ problems, Template.validate content = .ok problems → problems ≠ [] →
      (∀ (σ : Type) (engine : Engine σ) (scope : Scope σ) (before after : σ) (rendered : Rendered),
        engine.render scope (.text content) before ≠ (.ok rendered, after)) ∧
      ∀ (limits : Limits) (current : Option Nat) (done : Option Notify) (data : Value)
        (state : CacheState), ∃ result after,
        Cache.render limits current done (.text content) data state = .done result after ∧
          ∀ text, result ≠ .ok (some text) := by
  refine ⟨Template.validate_eq_nil_iff, fun problems validates found => ?_⟩
  have unrendered : ∀ (σ : Type) (engine : Engine σ) (scope : Scope σ) (before after : σ)
      (rendered : Rendered), engine.render scope (.text content) before ≠ (.ok rendered, after) := by
    intro σ engine scope before after rendered renders
    have nothing := Template.validate_eq_nil_iff.mpr (Engine.reads_of_render renders)
    exact found (Except.ok.inj (validates.symm.trans nothing))
  exact ⟨unrendered, fun limits current done data state =>
    Cache.render_without_text state fun index rendered before after =>
      unrendered CacheState _ _ before after rendered⟩

namespace Sample

/-- One expression that can be read, between one of blanks and one with three things wrong. -/
def flawed : String :=
  "\x7b\x7b \x7d\x7d\x7b\x7b g() \x7d\x7d\x7b\x7b a._b + 1 \x7d\x7d"

def flaws : List String :=
  ["Empty expression: \x7b\x7b \x7d\x7d", "Arithmetic expressions not supported",
    "Access to private attribute '_b' not allowed", "Add is not supported in templates"]

theorem flawed_unrendered :
    Template.validate flawed = .ok flaws ∧ flaws ≠ [] ∧
      ∀ after rendered, marking.render answered (.text flawed) () ≠ (.ok rendered, after) := by
  have found : (Template.validate flawed).toOption = some flaws := by
    decide +kernel
  have validates : Template.validate flawed = .ok flaws := by
    rcases outcome : Template.validate flawed with failure | problems <;> rw [outcome] at found
    · cases found
    · exact congrArg Except.ok (Option.some.inj found)
  have isFlawed : flaws ≠ [] := nofun
  have unrendered := ((validation_agrees flawed).2 flaws validates isFlawed).1
  exact ⟨validates, isFlawed, unrendered Unit marking answered ()⟩

end Sample

end DeferredText
