import DeferredText.Cache.Render
import DeferredText.Proofs.Effects

/-!
Contract: what helpers and templates do is composed of few actions.

A property of actions that every way of composing them passes on holds of the evaluation of
any template, as long as it holds of the filters and helpers that the template can call; and
it holds of those as long as it holds of the few changes that a helper can ask for.

Owns: the induction over expressions, segments, routines and handlers, for any property.

Does not own: particular properties (`Proofs.Quiet`, `Proofs.Unlogged`).
-/

namespace DeferredText

/-- A property of actions that all ways of composing them pass on. -/
class Action.Composes {σ : Type} (holds : ∀ α : Type, Action σ α → Prop) : Prop where
  pure : ∀ {α : Type} (value : α), holds α (pure value)
  throw : ∀ {α : Type} (stop : Stop), holds α (throw stop)
  bind : ∀ {α β : Type} {action : Action σ α} {next : α → Action σ β}, holds α action →
    (∀ value, holds β (next value)) → holds β (action >>= next)
  attempt : ∀ {α : Type} {action : Action σ α}, holds α action →
    holds (Outcome α) (Action.attempt action)
  mapFailure : ∀ {α : Type} {action : Action σ α}, holds α action →
    ∀ change, holds α (Action.mapFailure change action)

/-! ### Templates -/

section Templates

variable {σ : Type} (holds : ∀ α : Type, Action σ α → Prop) {engine : Engine σ} {scope : Scope σ}

/-- The property holds of all filters and helpers that an expression can name. -/
structure Engine.All
    (engine : Engine σ)
    (scope : Scope σ) : Prop where
  filters : ∀ name operation, engine.filter? name = some operation →
    ∀ arguments, holds Value (operation arguments)
  helpers : ∀ name operation, scope.helpers name = some operation →
    ∀ arguments, holds Value (operation arguments)

variable [Action.Composes holds]

theorem Action.composed_fail {α : Type} (failure : Failure) : holds α (Action.fail failure) :=
  Composes.throw (.failed failure)

theorem Action.composed_ofOutcome {α : Type} (outcome : Outcome α) :
    holds α (Action.ofOutcome outcome) := by
  cases outcome with
  | ok value => exact Composes.pure value
  | error failure => exact Composes.throw (.failed failure)

theorem Action.composed_discard {α : Type} {action : Action σ α} (first : holds α action) :
    holds PUnit (discard action) :=
  Composes.bind first fun _ => Composes.pure _

open DeferredText.Action

namespace Evaluate

theorem composed_applyFilter (all : engine.All holds scope) (source : String)
    (called : Option String) (value : Value) (arguments : Arguments) :
    holds Value (applyFilter engine scope source called value arguments) := by
  unfold applyFilter
  dsimp only
  split
  · rename_i operation found
    obtain ⟨name, rfl, filter⟩ := Option.bind_eq_some_iff.mp found
    apply Composes.bind (Composes.attempt (all.filters name operation filter _))
    rintro (failure | result)
    · dsimp only
      split
      · exact Composes.bind (composed_ofOutcome holds _) fun _ => composed_fail holds _
      · exact composed_fail holds failure
    · exact Composes.pure result
  · split
    · rename_i operation found
      obtain ⟨name, rfl, helper⟩ := Option.bind_eq_some_iff.mp found
      exact all.helpers name operation helper _
    · exact composed_fail holds _

theorem composed_helper (all : engine.All holds scope) (source : String) (called : Option String)
    {next : Operation σ → Action σ Value}
    (further : ∀ operation, (∀ arguments, holds Value (operation arguments)) →
      holds Value (next operation)) :
    holds Value (helper scope source called >>= next) := by
  unfold helper
  cases found : called.bind scope.helpers with
  | none => exact composed_fail holds _
  | some operation =>
      obtain ⟨name, rfl, helper⟩ := Option.bind_eq_some_iff.mp found
      exact further operation (all.helpers name operation helper)

mutual

theorem composed_value (all : engine.All holds scope) (source : String) :
    ∀ expression : Expr, holds Value (value engine scope source expression)
  | .constant constant => by
      rw [value]
      exact Composes.pure constant
  | .name identifier _ => by
      rw [value]
      exact composed_ofOutcome holds _
  | .member base field _ => by
      rw [value]
      exact Composes.bind (composed_value all source base) fun _ => composed_ofOutcome holds _
  | .subscript base key _ => by
      rw [value]
      exact Composes.bind (composed_value all source base) fun _ =>
        Composes.bind (composed_value all source key) fun _ => composed_ofOutcome holds _
  | .call callee arguments keywords => by
      rw [value]
      exact composed_helper holds all source callee.dottedName? fun operation calls =>
        Composes.bind (composed_items all source arguments) fun _ =>
          Composes.bind (composed_namedItems all source [] keywords) fun _ => calls _
  | .binary left .pipe right => by
      cases right with
      | call callee arguments keywords =>
          rw [value]
          exact Composes.bind (composed_value all source left) fun _ =>
            Composes.bind (composed_items all source arguments) fun _ =>
              Composes.bind (composed_namedItems all source [] keywords) fun _ =>
                composed_applyFilter holds all source _ _ _
      | _ =>
          rw [value]
          · exact Composes.bind (composed_value all source left) fun _ =>
              composed_applyFilter holds all source _ _ _
          · nofun
  | .unary operator operand => by
      rw [value]
      exact Composes.bind (composed_value all source operand) fun _ => composed_ofOutcome holds _
  | .list elements _ => by
      rw [value]
      exact Composes.bind (composed_items all source elements) fun _ => Composes.pure _
  | .tuple elements _ => by
      rw [value]
      exact Composes.bind (composed_items all source elements) fun _ => Composes.pure _
  | .dict pairs => by
      rw [value]
      exact Composes.bind (composed_entries all source [] pairs) fun _ => Composes.pure _
  | .binary _ (.beyond _) _ => by
      rw [value]
      · exact composed_fail holds _
      all_goals nofun
  | .beyond _ _ => by
      rw [value]
      · exact composed_fail holds _
      all_goals nofun

theorem composed_items (all : engine.All holds scope) (source : String) :
    ∀ expressions : List Expr, holds (List Value) (items engine scope source expressions)
  | [] => by
      rw [items]
      exact Composes.pure []
  | first :: rest => by
      rw [items]
      exact Composes.bind (composed_value all source first) fun _ =>
        Composes.bind (composed_items all source rest) fun _ => Composes.pure _

theorem composed_namedItems (all : engine.All holds scope) (source : String)
    (collected : List (String × Value)) :
    ∀ keywords : List (Option String × Expr),
      holds (List (String × Value)) (namedItems engine scope source collected keywords)
  | [] => by
      rw [namedItems]
      exact Composes.pure collected
  | (none, _) :: rest => by
      rw [namedItems]
      exact composed_namedItems all source collected rest
  | (some keyword, expression) :: rest => by
      rw [namedItems]
      exact Composes.bind (composed_value all source expression) fun _ =>
        composed_namedItems all source _ rest

theorem composed_entries (all : engine.All holds scope) (source : String) (collected : Entries) :
    ∀ pairs : List (Option Expr × Expr),
      holds Entries (entries engine scope source collected pairs)
  | [] => by
      rw [entries]
      exact Composes.pure collected
  | (none, _) :: rest => by
      rw [entries]
      exact composed_entries all source collected rest
  | (some key, expression) :: rest => by
      rw [entries]
      exact Composes.bind (composed_value all source key) fun _ =>
        Composes.bind (composed_value all source expression) fun _ =>
          Composes.bind (composed_ofOutcome holds _) fun _ => composed_entries all source _ rest

end

end Evaluate

namespace Engine

theorem composed_evaluate (all : engine.All holds scope) (expression : String) :
    holds Value (engine.evaluate scope expression) :=
  Composes.bind (composed_ofOutcome holds _) fun tree =>
    Composes.mapFailure (Evaluate.composed_value holds all expression tree) _

theorem composed_renderSegments (all : engine.All holds scope) (segments : List Segment) :
    holds Rendered (engine.renderSegments scope segments) := by
  induction segments with
  | nil => exact Composes.pure _
  | cons segment rest inductionHypothesis =>
      cases segment with
      | literal character =>
          exact Composes.bind inductionHypothesis fun _ => Composes.pure _
      | expression body =>
          exact Composes.bind (composed_evaluate holds all _) fun _ =>
            Composes.bind (composed_ofOutcome holds _) fun _ =>
              Composes.bind inductionHypothesis fun _ => Composes.pure _

theorem composed_render (all : engine.All holds scope) (template : Value) :
    holds Rendered (engine.render scope template) := by
  rw [Engine.render.eq_def]
  split
  · apply composed_renderSegments
    exact ⟨all.filters, all.helpers⟩
  · exact composed_fail holds _

end Engine

end Templates

/-! ### Helpers -/

/-- The cache without its log. -/
def CacheState.unlogged (state : CacheState) : CacheState :=
  { state with
    log := none
    lines := []
    unwritten := [] }

/-- A property of actions that holds besides of all that a helper can ask for at once: it may
read anything but the log, be noted, let the clock advance, record a call, and start a
rendering whose outcome nobody is told of. -/
class Action.Covers (holds : ∀ α : Type, CacheAction α → Prop) : Prop extends Composes holds where
  read : ∀ {α : Type} {next : CacheState → CacheAction α},
    (∀ state, next state.unlogged = next state) → (∀ state, holds α (next state)) →
      holds α (get >>= next)
  noteCall : ∀ label arguments, holds Unit (CacheState.noteCall label arguments)
  advanceClock : ∀ amount, holds Unit (CacheState.advanceClock amount)
  record : ∀ name target arguments current,
    holds Value (CacheState.record name target arguments current)
  begin : ∀ template data current, holds Unit (do
    let promise ← CacheState.makePromise "" ""
    CacheState.schedule (.begin promise template data current))

section Helpers

open DeferredText.Action

variable (holds : ∀ α : Type, CacheAction α → Prop) [Covers holds]
  {called : String → Arguments → CacheAction Value} {granted : Routine → CacheAction Value}
  {current : Option Nat}

theorem Routine.composed_run (each : ∀ name arguments, holds Value (called name arguments))
    (routine : Routine) : holds Value (routine.run called) := by
  induction routine with
  | finish value => exact Composes.pure value
  | fail failure => exact composed_fail holds failure
  | advance amount next inductionHypothesis =>
      exact Composes.bind (Covers.advanceClock amount) fun _ => inductionHypothesis
  | call name arguments next inductionHypothesis =>
      exact Composes.bind (Composes.attempt (each name arguments)) inductionHypothesis

theorem Handler.composed_runBare (each : ∀ routine, holds Value (granted routine))
    (callback : Value) (handler : Handler) :
    holds Value (handler.runBare granted current callback) := by
  induction handler with
  | finish => exact Composes.pure _
  | fail failure => exact composed_fail holds failure
  | compute routine next inductionHypothesis =>
      exact Composes.bind (Composes.attempt (each routine)) inductionHypothesis
  | complete completion next => exact composed_fail holds _
  | completeLater completion next inductionHypothesis => exact inductionHypothesis
  | startRender template data next inductionHypothesis =>
      have begins : (Handler.startRender template data next).runBare granted current callback =
          (do
            let promise ← CacheState.makePromise "" ""
            CacheState.schedule (.begin promise template data current)) >>= fun _ =>
              next.runBare granted current callback := rfl
      rw [begins]
      exact Composes.bind (Covers.begin template data current) fun _ => inductionHypothesis

theorem Helper.composed_call (each : ∀ routine, holds Value (granted routine)) (helper : Helper)
    (arguments : Arguments) : holds Value (helper.call granted current arguments) := by
  unfold Helper.call
  cases helper.behaviour with
  | plain run =>
      exact Composes.bind (Covers.noteCall helper.label arguments) fun _ => each (run arguments)
  | coroutine run => exact Composes.pure _
  | callback run =>
      dsimp only
      cases arguments.positional.getLast? with
      | none => exact composed_fail holds _
      | some callback =>
          exact Composes.bind (Covers.noteCall helper.label _) fun _ =>
            Handler.composed_runBare holds each callback _

theorem Callable.composed_call (each : ∀ routine, holds Value (granted routine))
    (callable : Callable) (arguments : Arguments) :
    holds Value (callable.call granted current arguments) := by
  rw [Callable.call.eq_def]
  cases callable with
  | helper implementation => exact implementation.composed_call holds each arguments
  | deferred name target => exact Covers.record name target arguments current
  | factory name product =>
      dsimp only
      split
      · exact Composes.bind (Covers.noteCall name _) fun _ => Composes.pure _
      · exact composed_fail holds _
      · exact composed_fail holds _

theorem composed_callNamed (current : Option Nat) (depth : Nat) (name : String)
    (arguments : Arguments) : holds Value (callNamed current depth name arguments) := by
  induction depth generalizing name arguments with
  | zero => exact Composes.throw .exhausted
  | succ depth inductionHypothesis =>
      refine Covers.read (fun _ => rfl) fun state => ?_
      cases state.registry.lookup name with
      | none => exact composed_fail holds _
      | group members => exact composed_fail holds _
      | helper callable =>
          exact callable.composed_call holds
            (fun routine => routine.composed_run holds inductionHypothesis) arguments

theorem composed_runRoutine (limits : Limits) (current : Option Nat) (routine : Routine) :
    holds Value (runRoutine limits current routine) :=
  routine.composed_run holds (composed_callNamed holds current limits.depth)

theorem Handler.composed_run (schedules : ∀ delivery, holds Unit (CacheState.schedule delivery))
    (each : ∀ routine, holds Value (granted routine)) (promise : Nat) (handler : Handler) :
    holds Unit (handler.run granted promise current) := by
  induction handler with
  | finish => exact Composes.pure ()
  | fail failure => exact composed_fail holds failure
  | compute routine next inductionHypothesis =>
      exact Composes.bind (Composes.attempt (each routine)) inductionHypothesis
  | complete completion next inductionHypothesis =>
      exact Composes.bind (schedules _) fun _ => inductionHypothesis
  | completeLater completion next inductionHypothesis =>
      exact Composes.bind (schedules _) fun _ => inductionHypothesis
  | startRender template data next inductionHypothesis =>
      exact Composes.bind (schedules _) fun _ => inductionHypothesis

theorem Invoke.composed_callback
    (schedules : ∀ delivery, holds Unit (CacheState.schedule delivery))
    (each : ∀ routine, holds Value (granted routine)) (promise : Nat) (target : Callable)
    (arguments : Arguments) :
    holds Unit (Invoke.callback granted current promise target arguments) := by
  rw [Invoke.callback.eq_def]
  dsimp only
  split
  · rename_i implementation
    split
    · exact Composes.bind (Covers.noteCall implementation.label arguments) fun _ =>
        Handler.composed_run holds schedules each promise _
    · exact Composes.bind (Covers.noteCall implementation.label arguments) fun _ =>
        composed_discard holds (each _)
    · exact Composes.pure ()
  · exact composed_discard holds (target.composed_call holds each _)

/-- The evaluation of a template in a cache: the standard filters are pure. -/
theorem Cache.composed_renderPass (limits : Limits) (index : Nat) (template data : Value) :
    holds Rendered (Cache.renderPass limits index template data) := by
  refine Covers.read (fun _ => rfl) fun state => ?_
  apply Engine.composed_render
  constructor
  · intro name operation found arguments
    rw [Engine.filter?, Option.map_eq_some_iff] at found
    obtain ⟨pair, member, rfl⟩ := found
    obtain ⟨filter, -, rfl⟩ := List.mem_map.mp (List.mem_of_find?_eq_some member)
    exact composed_ofOutcome holds _
  · intro name operation found arguments
    simp only [templateHelpers, Option.map_eq_some_iff] at found
    obtain ⟨callable, -, rfl⟩ := found
    exact callable.composed_call holds (composed_runRoutine holds limits (some index)) arguments

end Helpers

end DeferredText
