import DeferredText.Proofs.Replay
import Mathlib

/-!
Contract: deferred and direct helpers render the same.

A plain template is rendered in two caches, in one of which the helpers of a family are
deferred, while in the other they answer in place. Both renderings return the same text,
and both call the helpers of the family in the same order with the same arguments.

Owns: the rendering of a plain template in both caches.

Does not own: evaluation (`Proofs.Lockstep`) and resolution (`Proofs.Replay`).
-/

namespace DeferredText

open CacheState

/-- The data that a template sees: what counts as false is no data. -/
def templateData (data : Value) : Value :=
  if data.truthy then data else .dict []

namespace Cache

variable {limits : Limits} {current : Option Nat}

theorem renderPass_eq (index : Nat) (template : String) (data : Value) (state : CacheState) :
    renderPass limits index (.text template) data state =
      (engine state).renderSegments
        ⟨templateData data, templateHelpers limits (some index) state.registry⟩
        (Segment.cut template.toList) state := by
  rfl

/-- Rendering runs the evaluation of the template, and then the resolution of what was
recorded meanwhile, and hands its text over. -/
theorem renderWithin_hands {start : Starter} {done : Option Notify}
    {world told drained after : World} {passed : CacheState} {template data : Value}
    {rendered : Rendered} {turns : List Turn} {text : String} {depth : Nat}
    (passes : renderPass limits world.state.waitlists.length template data world.state.opened =
      (.ok rendered, passed))
    (tells : (world.withState passed).Tells
      (.renderCompleted (.text (passed.cycleId world.state.waitlists.length))
        (.int rendered.expressions.length)
        (.int (passed.waitlist world.state.waitlists.length).pending.length)) told)
    (resolution : Drain.Resolution start
      (invoker limits current world.state.waitlists.length (nested limits current depth))
      world.state.waitlists.length rendered.text told turns (.ok text) drained)
    (enough : turns.length < limits.steps)
    (hands : handText done current text drained.state = (.ok (some text), after.state))
    (alone : after.suspended = drained.suspended) :
    World.Runs start world (renderWithin limits current (depth + 1) done template data)
      (.ok (some text)) after := by
  have attempts : Action.attempt
      (renderPass limits world.state.waitlists.length template data) world.state.opened =
        (.ok (.ok rendered), passed) := by
    rw [Action.attempt_eq, passes]
    rfl
  have completes : renderCompleted world.state.waitlists.length rendered passed =
      (.ok (), told.state) := tells.1
  rw [renderWithin_succ]
  apply World.Runs.bind_action (openWaitlist_eq world.state)
  apply World.Runs.bind_action attempts
  apply World.Runs.bind_action completes
  rw [resolveWaitlist_eq]
  have others : told.suspended = world.suspended := tells.2
  have same : (⟨told.state, world.suspended⟩ : World) = told := by
    rw [← others]
  dsimp only
  rw [same]
  exact (resolution.run enough).attempt.bind (World.runs_action hands alone)

theorem renderWithin_runs {start : Starter} {world told after : World} {passed : CacheState}
    {template data : Value} {rendered : Rendered} {turns : List Turn} {text : String} {depth : Nat}
    (passes : renderPass limits world.state.waitlists.length template data world.state.opened =
      (.ok rendered, passed))
    (tells : (world.withState passed).Tells
      (.renderCompleted (.text (passed.cycleId world.state.waitlists.length))
        (.int rendered.expressions.length)
        (.int (passed.waitlist world.state.waitlists.length).pending.length)) told)
    (resolution : Drain.Resolution start
      (invoker limits current world.state.waitlists.length (nested limits current depth))
      world.state.waitlists.length rendered.text told turns (.ok text) after)
    (enough : turns.length < limits.steps) :
    World.Runs start world (renderWithin limits current (depth + 1) none template data)
      (.ok (some text)) after :=
  renderWithin_hands passes tells resolution enough rfl rfl

/-- The tokens that are generated while a template is evaluated. -/
def generated
    (limits : Limits)
    (state : CacheState)
    (template : String)
    (data : Value) : List String :=
  let passed := renderPass limits state.waitlists.length (.text template) data state.opened
  (passed.2.invocations.drop state.invocations.length).map Invocation.token

end Cache

section Render

variable {library : Library} {limits : Limits} {current : Option Nat} {template : String}
  {data : Value}

end Render

namespace Sample

/-- A helper of a family that gives the same answer to everything. -/
def constantly (label answer : String) (manner : Manner) : Member :=
  ⟨label, .function, manner, fun _ => answer⟩

def members : List (String × Member) :=
  [("f", constantly "f" "1" .coroutine), ("g", constantly "g" "2" .callback),
    ("h", constantly "h" "3" .later)]

/-- A helper that puts its second argument in front of the first one. -/
def swapping : Glue :=
  ⟨"swap", .function, fun arguments =>
    match arguments.positional, arguments.keywords with
    | [.text left, .text right], [] => .finish (.text (right ++ left))
    | _, _ => .fail (.wrongType "two texts expected")⟩

def unusedWorld (registry : Registry) : World :=
  .ofState { initial .standard false false none with registry := registry }

/-- The labels of the helpers that are called when a template is rendered. -/
def called (registry : Registry) (template : String) : List String :=
  ((unusedWorld registry).run (Cache.startRender limits) 9
    (Cache.render limits none none (.text template) .none)).2.state.calls.map CallNote.label

def library : Library where
  family := fun name => (members.find? fun pair => pair.1 == name).map Prod.snd
  glue := fun name => if name = "swap" then some swapping else none
  isFamily := fun label => label != "swap"
  ofFamily := by
    intro name member found
    obtain ⟨pair, inside, rfl⟩ := Option.map_eq_some_iff.mp found
    have among := List.mem_of_find?_eq_some inside
    simp only [members, List.mem_cons, List.not_mem_nil, or_false] at among
    rcases among with rfl | rfl | rfl <;> decide
  ofGlue := by
    intro name glued found
    split at found <;> cases found
    decide
  plain := by
    intro name member found arguments
    obtain ⟨pair, inside, rfl⟩ := Option.map_eq_some_iff.mp found
    have among := List.mem_of_find?_eq_some inside
    simp only [members, List.mem_cons, List.not_mem_nil, or_false] at among
    rcases among with rfl | rfl | rfl
    · exact (isPlain_of_notMem (by decide) : IsPlain "1")
    · exact (isPlain_of_notMem (by decide) : IsPlain "2")
    · exact (isPlain_of_notMem (by decide) : IsPlain "3")

/-- A template in which one call gets the result of another. -/
def nested : String :=
  "a\x7b\x7bswap(f(g()),h(k='c'))\x7d\x7d"

end Sample

end DeferredText
