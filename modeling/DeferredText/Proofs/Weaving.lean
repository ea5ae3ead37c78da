import DeferredText.Proofs.Completion
import DeferredText.Proofs.Delimited
import DeferredText.Proofs.Finished
import DeferredText.Proofs.Recount

/-!
Contract: rendering is a single pass from left to right.

A template is woven from literals and from the bodies of expressions. As long as no
literal opens an expression and no body closes one, the template is cut at exactly these
places, whatever the pieces look like next to each other. The texts that are put in place
of the expressions, and of the tokens of deferred calls, are never cut again.

Owns: woven templates and their segments, the expressions of a rendering, and what came
before the text that a rendering returned.

Does not own: the end of an expression (`Proofs.Delimited`), and the order in which calls
are resolved (`Proofs.Needed`).
-/

namespace DeferredText

/-! ### Segments -/

namespace Segment

/-- The beginning of an expression. -/
def openingPair : List Char :=
  ['\x7b', '\x7b']

variable {text : List Char}

theorem opened?_eq_none {head : Char} (unopened : ¬ (head = '\x7b' ∧ text.head? = some '\x7b')) :
    opened? (head :: text) = none := by
  unfold opened?
  split
  · rename_i opens
    obtain ⟨rfl, rfl⟩ := List.cons.inj opens
    exact absurd ⟨rfl, rfl⟩ unopened
  · rfl

/-- A text in which no expression opens stays as it is, whatever stands behind it. -/
theorem cut_literals (unopened : ¬ openingPair <:+: text) (ended : text.getLast? ≠ some '\x7b')
    (rest : List Char) : cut (text ++ rest) = text.map .literal ++ cut rest := by
  induction text with
  | nil => rfl
  | cons head tail inductionHypothesis =>
      have closed : opened? (head :: (tail ++ rest)) = none := by
        apply opened?_eq_none
        rintro ⟨rfl, next⟩
        cases tail with
        | nil => exact ended rfl
        | cons second others =>
            obtain rfl := Option.some.inj next
            exact unopened ⟨[], others, rfl⟩
      have further : ¬ openingPair <:+: tail := fun inside =>
        unopened (List.infix_cons_iff.mpr (.inr inside))
      have tailEnded : tail.getLast? ≠ some '\x7b' := by
        cases tail with
        | nil => nofun
        | cons second others => rwa [List.getLast?_cons_cons] at ended
      rw [List.cons_append, cut, cutFrom, closed, List.map_cons, List.cons_append]
      exact congrArg _ (inductionHypothesis further tailEnded)

end Segment

/-! ### Woven templates -/

namespace Template

/-- Text in which no expression opens, also if braces follow it. -/
structure Literal where
  text : String
  unopened : containsText "\x7b\x7b" text = false
  ended : text.toList.getLast? ≠ some '\x7b'

/-- The inside of an expression, in which it does not close, also if braces follow it. -/
structure Body where
  text : String
  nonempty : text ≠ ""
  unclosed : containsText "\x7d\x7d" text = false
  ended : text.toList.getLast? ≠ some '\x7d'

/-- An expression and the literal behind it. -/
structure Slot where
  body : Body
  literal : Literal

namespace Slot

def expression (slot : Slot) : String :=
  trimmed slot.body.text

end Slot

/-- A literal, and expressions between braces with literals behind them. -/
def woven (first : Literal) : List Slot → String
  | [] => first.text
  | slot :: rest =>
      first.text ++ "\x7b\x7b" ++ slot.body.text ++ "\x7d\x7d" ++ woven slot.literal rest

/-- The literals with texts in place of the expressions. -/
def filled (first : Literal) : List Slot → List String → String
  | slot :: rest, text :: texts => first.text ++ text ++ filled slot.literal rest texts
  | _, _ => first.text

/-- The characters of the literals and the bodies of the expressions. -/
def segments (first : Literal) : List Slot → List Segment
  | [] => first.text.toList.map .literal
  | slot :: rest =>
      first.text.toList.map .literal ++
        .expression slot.body.text.toList :: segments slot.literal rest

theorem openingPair_toList : "\x7b\x7b".toList = Segment.openingPair := rfl

theorem Literal.cut (literal : Literal) (rest : List Char) :
    Segment.cut (literal.text.toList ++ rest) =
      literal.text.toList.map .literal ++ Segment.cut rest := by
  apply Segment.cut_literals _ literal.ended
  rw [← openingPair_toList, ← occursIn_iff_consecutive]
  exact Bool.eq_false_iff.mp literal.unopened

theorem Body.cut (body : Body) (rest : List Char) :
    Segment.cut ('\x7b' :: '\x7b' :: (body.text.toList ++ '\x7d' :: '\x7d' :: rest)) =
      .expression body.text.toList :: Segment.cut rest := by
  have unclosed : ¬ Segment.closingPair <:+: body.text.toList := by
    rw [← closingPair_toList, ← occursIn_iff_consecutive]
    exact Bool.eq_false_iff.mp body.unclosed
  have ended := body.ended
  cases characters : body.text.toList with
  | nil => exact absurd (String.toList_eq_nil_iff.mp characters) body.nonempty
  | cons head tail =>
      rw [characters] at unclosed ended
      have tailUnclosed : ¬ Segment.closingPair <:+: tail := fun inside =>
        unclosed (List.infix_cons_iff.mpr (.inr inside))
      have tailEnded : tail.getLast? ≠ some '\x7d' := by
        cases tail with
        | nil => nofun
        | cons second others => rwa [List.getLast?_cons_cons] at ended
      rw [List.cons_append, Segment.cut_opened (Segment.untilClosed?_closed tailUnclosed tailEnded)]
      simp

/-- A woven template is cut where it was woven. -/
theorem cut_woven (first : Literal) (slots : List Slot) :
    Segment.cut (woven first slots).toList = segments first slots := by
  induction slots generalizing first with
  | nil =>
      have whole := first.cut []
      rwa [List.append_nil, show Segment.cut [] = [] from rfl, List.append_nil] at whole
  | cons slot rest inductionHypothesis =>
      have characters : (woven first (slot :: rest)).toList =
          first.text.toList ++ '\x7b' :: '\x7b' ::
            (slot.body.text.toList ++ '\x7d' :: '\x7d' :: (woven slot.literal rest).toList) := by
        simp [woven]
      rw [characters, first.cut, slot.body.cut, inductionHypothesis, segments]

theorem expressions_woven (first : Literal) (slots : List Slot) :
    expressions (woven first slots) = slots.map Slot.expression := by
  have literals : ∀ literal : Literal, (literal.text.toList.map Segment.literal).filterMap
      (fun segment => segment.body?.map fun body => String.ofList (trimBlank body)) = [] := by
    intro literal
    simp [List.filterMap_map, Segment.body?]
  rw [expressions, cut_woven]
  induction slots generalizing first with
  | nil => exact literals first
  | cons slot rest inductionHypothesis =>
      rw [segments, List.filterMap_append, literals, List.nil_append, List.filterMap_cons,
        inductionHypothesis]
      rfl

/-- There are expressions if any of them is found. -/
theorem hasExpressions_eq (text : String) : hasExpressions text = !(expressions text).isEmpty := by
  rw [hasExpressions, expressions]
  induction Segment.cut text.toList with
  | nil => rfl
  | cons segment rest inductionHypothesis =>
      cases segment with
      | literal character => exact inductionHypothesis
      | expression body => rfl

end Template

/-! ### Rendering -/

namespace Engine

variable {σ : Type} {engine : Engine σ} {scope : Scope σ}

/-- The text that is put in place of an expression. -/
def insertion
    (engine : Engine σ)
    (scope : Scope σ)
    (expression : String) : Action σ String := do
  let value ← engine.evaluate scope expression
  Action.ofOutcome (insertedText value)

theorem renderSegments_literals (text : List Char) (rest : List Segment) :
    engine.renderSegments scope (text.map .literal ++ rest) =
      (do
        let rendered ← engine.renderSegments scope rest
        return { rendered with text := String.ofList text ++ rendered.text }) := by
  induction text with
  | nil => simp
  | cons head tail inductionHypothesis =>
      have joined : String.ofList (head :: tail) = String.singleton head ++ String.ofList tail := by
        rw [← String.toList_inj]
        simp
      rw [List.map_cons, List.cons_append, renderSegments, inductionHypothesis, bind_assoc, joined]
      simp only [pure_bind, String.append_assoc]

/-- The expressions of a woven template are evaluated in order, once each, and its literals stay
as they are. -/
theorem renderSegments_woven (first : Template.Literal) (slots : List Template.Slot) :
    engine.renderSegments scope (Template.segments first slots) =
      (do
        let texts ← slots.mapM fun slot => engine.insertion scope slot.expression
        return ⟨Template.filled first slots texts, slots.map Template.Slot.expression⟩) := by
  induction slots generalizing first with
  | nil =>
      have whole := @renderSegments_literals _ engine scope first.text.toList []
      rw [List.append_nil] at whole
      rw [Template.segments, whole, renderSegments, List.mapM_nil, pure_bind, pure_bind,
        String.ofList_toList]
      exact congrArg pure (congrArg (Rendered.mk · []) String.append_empty)
  | cons slot rest inductionHypothesis =>
      rw [Template.segments, renderSegments_literals, renderSegments, inductionHypothesis,
        List.mapM_cons]
      simp only [insertion, bind_assoc, pure_bind, String.ofList_toList, String.append_assoc,
        Template.filled, List.map_cons]
      rfl

/-- A rendering reports the expressions of its template. -/
theorem renderSegments_expressions {segments : List Segment} {rendered : Rendered}
    {state after : σ} (renders : engine.renderSegments scope segments state = (.ok rendered, after)) :
    rendered.expressions = segments.filterMap fun segment =>
      segment.body?.map fun body => String.ofList (trimBlank body) := by
  induction segments generalizing state rendered with
  | nil =>
      cases renders
      rfl
  | cons segment rest inductionHypothesis =>
      cases segment with
      | literal character =>
          rw [renderSegments] at renders
          obtain ⟨further, middle, behind, returns⟩ := Action.bind_ok_cases renders
          cases returns
          exact @inductionHypothesis further _ behind
      | expression body =>
          rw [renderSegments] at renders
          obtain ⟨value, evaluated, -, renders⟩ := Action.bind_ok_cases renders
          obtain ⟨text, read, -, renders⟩ := Action.bind_ok_cases renders
          obtain ⟨further, middle, behind, returns⟩ := Action.bind_ok_cases renders
          cases returns
          rw [inductionHypothesis behind]
          rfl

theorem render_text (content : String) :
    engine.render scope (.text content) =
      engine.renderSegments { scope with data := templateData scope.data }
        (Segment.cut content.toList) := by
  rfl

/-- What a rendering says of its expressions is what is found in its template. -/
theorem render_expressions {content : String} {rendered : Rendered} {state after : σ}
    (renders : engine.render scope (.text content) state = (.ok rendered, after)) :
    rendered.expressions = Template.expressions content ∧
      rendered.hadExpressions = Template.hasExpressions content := by
  have same : rendered.expressions = Template.expressions content :=
    renderSegments_expressions renders
  rw [Template.hasExpressions_eq, ← same]
  exact ⟨rfl, rfl⟩

theorem render_woven (first : Template.Literal) (slots : List Template.Slot) :
    engine.render scope (.text (Template.woven first slots)) =
      (do
        let texts ← slots.mapM fun slot =>
          engine.insertion { scope with data := templateData scope.data } slot.expression
        return ⟨Template.filled first slots texts, Template.expressions (Template.woven first slots)⟩) := by
  rw [render_text, Template.cut_woven, renderSegments_woven, Template.expressions_woven]

end Engine

/-! ### Renderings that returned -/

open CacheState

theorem World.Sound.tell {world told : World} {event : Event} (sound : world.Sound)
    (tells : world.Tells event told) : told.Sound := by
  obtain ⟨lines, rfl⟩ := tells.eq
  have idle : Advances world.state (world.state.withLines lines) := .of_idle sound.tidy rfl rfl
  exact (sound.advance idle).1

namespace Drain

variable {start : Starter} {invoke : Invoke} {index : Nat} {world after : World}
  {progress : Progress} {turns : List Turn}

theorem Serves.applies {turn : Turn} {next : Progress}
    (serves : Serves start invoke index progress turn (.ok next)) :
    next.text = (results [turn]).applyTo progress.text := by
  cases serves <;> rfl

/-- Along a course, results are put in place of tokens one after the other, and nothing else
happens to the text. -/
theorem Course.applies {final : Progress}
    (course : Course start invoke index world progress turns (.ok final) after) :
    final.text = (results turns).applyTo progress.text := by
  generalize ends : Except.ok final = outcome at course
  induction course with
  | finished empty =>
      cases ends
      rfl
  | @further world after progress next turn turns outcome takes serves _ inductionHypothesis =>
      have split : results (turn :: turns) = results [turn] ++ results turns :=
        List.filterMap_append (l := [turn])
      rw [inductionHypothesis ends, serves.applies, split, Results.applyTo, Results.applyTo,
        Results.applyTo, List.foldl_append]
  | failed => cases ends

theorem Resolution.applies {text shown : String}
    (resolution : Resolution start invoke index shown world turns (.ok text) after) :
    text = (results turns).applyTo shown := by
  cases resolution with
  | finished begins course ends => exact course.applies

end Drain

namespace Cache

variable {limits : Limits} {current : Option Nat} {template data : Value} {world after : World}
  {rendered : Rendered} {turns : List Turn} {text : String}

/-- A template was evaluated in a waitlist of its own, and then the calls that were recorded there
were resolved in the text that came of it. -/
inductive Renders
    (limits : Limits)
    (current : Option Nat)
    (template data : Value)
    (world : World)
    (rendered : Rendered)
    (turns : List Turn)
    (text : String) : World → Prop where
  | resolved {depth : Nat} {passed : CacheState} {told after : World}
      (deep : limits.depth = depth + 1)
      (passes : renderPass limits world.state.waitlists.length template data world.state.opened =
        (.ok rendered, passed))
      (tells : (world.withState passed).Tells
        (.renderCompleted (.text (passed.cycleId world.state.waitlists.length))
          (.int rendered.expressions.length)
          (.int (passed.waitlist world.state.waitlists.length).pending.length)) told)
      (resolution : Drain.Resolution (startRender limits)
        (invoker limits current world.state.waitlists.length (nested limits current depth))
        world.state.waitlists.length rendered.text told turns (.ok text) after)
      (enough : turns.length < limits.steps) :
      Renders limits current template data world rendered turns text after

/-- Recorded calls stay in order while a template is evaluated. -/
theorem sound_passed {index : Nat} {outcome : Except Stop Rendered} {passed : CacheState}
    (sound : world.Sound)
    (passes : renderPass limits index template data world.state.opened = (outcome, passed)) :
    (world.withState passed).Sound := by
  have opens := (Change.opens world.state).advances sound.tidy
  have quiet : Action.Respects (Onward ∅) (renderPass limits index template data) :=
    quiet_renderPass limits index template data
  have advances := quiet world.state.opened opens.tidy fun _ member =>
    absurd member (Set.notMem_empty _)
  rw [passes] at advances
  exact (sound.advance (opens.trans advances)).1

/-- Recorded calls stay in order from turn to turn. -/
theorem sound_turn {depth index : Nat} {progress next : Progress} {turn : Turn}
    (sound : world.Sound) (takes : Drain.Takes index world turn)
    (serves : Drain.Serves (startRender limits)
      (invoker limits current index (nested limits current depth)) index progress turn
      (.ok next)) : turn.after.Sound := by
  obtain ⟨rest, queued, before⟩ := takes
  have leaves : Advances world.state (world.state.withQueue index rest) :=
    (Change.leaves world.state index rest (by rw [queued]; exact List.sublist_cons_self _ _)).advances
      sound.tidy
  have nests : ∀ template data, (nested limits current depth template data).Sound :=
    fun template data => (sound_renderWithin depth (by simp [Notifies]) template data).bind
      fun text => Task.sound_pure (asValue text)
  have invokes : Drain.Invoke.Sound (invoker limits current index (nested limits current depth)) :=
    sound_invoker nests index
  have steps := @Drain.sound_step _ index _ _ invokes leaves.tidy
    (ready_taken sound.tidy queued) progress
  have runs := serves.step
  rw [before] at runs
  exact ((sound.advance leaves).1.ends (Session.starts_startRender limits) steps runs).1

theorem attempt_cases {α : Type} {action : CacheAction α} {outcome : Outcome α}
    {before passed : CacheState}
    (attempts : Action.attempt action before = (.ok outcome, passed)) :
    action before = (outcome.asResult, passed) := by
  rw [Action.attempt_eq] at attempts
  rcases acts : action before with ⟨(failure | _ | _) | value, reached⟩ <;> rw [acts] at attempts <;>
    cases attempts <;> rfl

/-- After a failure no text is returned, whoever it is handed to. -/
theorem handFailure_returns {done : Option Notify} {within : Option Nat} {failure : Failure}
    {before : CacheState} {reached : CacheState}
    (hands : handFailure done within failure before = (.ok (some text), reached)) : False := by
  cases done with
  | none => cases hands
  | some notify =>
      obtain ⟨_, _, -, returns⟩ := Action.bind_ok_cases hands
      cases returns

theorem handText_returns {done : Option Notify} {within : Option Nat} {shown : String}
    {before reached : CacheState}
    (hands : handText done within shown before = (.ok (some text), reached)) : shown = text := by
  cases done with
  | none =>
      cases hands
      rfl
  | some notify =>
      obtain ⟨_, _, -, returns⟩ := Action.bind_ok_cases hands
      cases returns
      rfl

/-- A rendering that returned a text evaluated its template once. -/
theorem renders_of_runs {done : Option Notify} (sound : world.Sound)
    (runs : World.Runs (startRender limits) world (render limits current done template data)
      (.ok (some text)) after) :
    ∃ rendered turns drained,
      Renders limits current template data world rendered turns text drained ∧
        handText done current text drained.state = (.ok (some text), after.state) ∧
        after.suspended = drained.suspended := by
  let index := world.state.waitlists.length
  rw [render] at runs
  cases deep : limits.depth with
  | zero =>
      rw [deep] at runs
      cases runs
  | succ depth =>
      rw [deep, renderWithin_succ] at runs
      have runs := runs.after_action (openWaitlist_eq world.state)
      obtain ⟨outcome, passed, attempts, runs⟩ := runs.bind_action_cases
      have passes := attempt_cases attempts
      cases outcome with
      | error failure =>
          obtain ⟨fails, -⟩ := runs.action_cases
          rw [renderFailed_eq] at fails
          obtain ⟨_, _, -, fails⟩ := Action.bind_ok_cases fails
          obtain ⟨_, _, -, fails⟩ := Action.bind_ok_cases fails
          exact (handFailure_returns fails).elim
      | ok rendered =>
          obtain ⟨told, tells, runs⟩ := runs.after_tell
          rw [resolveWaitlist_eq] at runs
          obtain ⟨outcome, drained, drains, ends⟩ := runs.bind_cases
          cases outcome with
          | error failure => exact (handFailure_returns ends.action_cases.1).elim
          | ok shown =>
              have soundTold := (sound_passed sound passes).tell tells
              obtain ⟨turns, few, resolution⟩ := Drain.resolution_of_run
                (fun tells => soundTold.tell tells) (fun _ sound => sound.tidy.exist index)
                (fun _ _ _ _ sound takes serves => sound_turn sound takes serves)
                drains.attempt_cases
              obtain ⟨hands, alone⟩ := ends.action_cases
              obtain rfl := handText_returns hands
              exact ⟨rendered, turns, drained, .resolved deep passes tells resolution few, hands,
                alone⟩

theorem Renders.runs {done : Option Notify} {drained : World}
    (renders : Renders limits current template data world rendered turns text drained)
    (hands : handText done current text drained.state = (.ok (some text), after.state))
    (alone : after.suspended = drained.suspended) :
    World.Runs (startRender limits) world (render limits current done template data)
      (.ok (some text)) after := by
  obtain ⟨deep, passes, tells, resolution, enough⟩ := renders
  rw [render, deep]
  exact renderWithin_hands passes tells resolution enough hands alone

/-- What the expressions of a rendering see. -/
def sight
    (limits : Limits)
    (data : Value)
    (state : CacheState) : Scope CacheState :=
  { data := templateData data
    helpers := templateHelpers limits (some state.waitlists.length) state.registry }

/-- A rendering of a woven template puts the texts of the values in place of the expressions, and
then the results of calls in place of their tokens. -/
theorem Renders.woven {first : Template.Literal} {slots : List Template.Slot} {drained : World}
    (renders : Renders limits current (.text (Template.woven first slots)) data world rendered turns
      text drained) :
    ∃ texts passed,
      (slots.mapM fun slot =>
        (engine world.state).insertion (sight limits data world.state) slot.expression)
          world.state.opened = (.ok texts, passed) ∧
      rendered = ⟨Template.filled first slots texts,
        Template.expressions (Template.woven first slots)⟩ ∧
      text = (Drain.results turns).applyTo (Template.filled first slots texts) := by
  obtain ⟨-, passes, -, resolution, -⟩ := renders
  rw [renderPass_eq, Template.cut_woven, Engine.renderSegments_woven] at passes
  obtain ⟨texts, passed, evaluates, returns⟩ := Action.bind_ok_cases passes
  cases returns
  rw [Template.expressions_woven]
  exact ⟨texts, _, evaluates, rfl, resolution.applies⟩

end Cache

open Template in
/-- Rendering is a single pass. The expressions of a template are evaluated from left to right,
once each, and the texts of their values are put between the literals as they are. When a cache
renders the template, the results of calls are put in place of their tokens afterwards, and
nothing is evaluated in them. -/
theorem single_pass (first : Literal) (slots : List Slot) :
    (∀ {σ : Type} (engine : Engine σ) (scope : Scope σ),
      engine.render scope (.text (woven first slots)) = do
        let texts ← slots.mapM fun slot =>
          engine.insertion { scope with data := templateData scope.data } slot.expression
        return ⟨filled first slots texts, expressions (woven first slots)⟩) ∧
    expressions (woven first slots) = slots.map Slot.expression ∧
    (hasExpressions (woven first slots) = true ↔ 0 < slots.length) ∧
    (∀ {σ : Type} (engine : Engine σ) (scope : Scope σ) (before after : σ) (rendered : Rendered),
      engine.render scope (.text (woven first slots)) before = (.ok rendered, after) →
        rendered.expressions = expressions (woven first slots) ∧
        rendered.hadExpressions = hasExpressions (woven first slots)) ∧
    ∀ (limits : Limits) (current : Option Nat) (done : Option Notify) (data : Value)
      (world after : World) (text : String), world.Sound →
        (World.Runs (Cache.startRender limits) world
            (Cache.render limits current done (.text (woven first slots)) data) (.ok (some text))
            after ↔
          ∃ texts passed turns drained,
            (slots.mapM fun slot => (Cache.engine world.state).insertion
              (Cache.sight limits data world.state) slot.expression) world.state.opened =
                (.ok texts, passed) ∧
            Cache.Renders limits current (.text (woven first slots)) data world
              ⟨filled first slots texts, expressions (woven first slots)⟩ turns text drained ∧
            text = (Drain.results turns).applyTo (filled first slots texts) ∧
            Cache.handText done current text drained.state = (.ok (some text), after.state) ∧
            after.suspended = drained.suspended) := by
  refine ⟨fun engine scope => Engine.render_woven first slots, expressions_woven first slots, ?_,
    fun engine scope before after rendered => Engine.render_expressions, ?_⟩
  · rw [hasExpressions_eq, expressions_woven]
    cases slots <;> simp
  · intro limits current done data world after text sound
    constructor
    · intro runs
      obtain ⟨rendered, turns, drained, renders, hands, alone⟩ := Cache.renders_of_runs sound runs
      obtain ⟨texts, passed, evaluates, rfl, shown⟩ := renders.woven
      exact ⟨texts, passed, turns, drained, evaluates, renders, shown, hands, alone⟩
    · rintro ⟨texts, passed, turns, drained, -, renders, -, hands, alone⟩
      exact renders.runs hands alone

namespace Sample

/-- A deferred helper that returns a text that looks like a template. -/
def quoting : Callable :=
  .helper ⟨"g", .function, .coroutine fun _ => .finish (.text "\x7b\x7b x \x7d\x7d")⟩

def quotingWorld : World :=
  unusedWorld (.ofEntries [⟨"g", .deferred "g" quoting, true, some quoting⟩])

/-- A single brace at the beginning. -/
def bracedStart : Template.Literal :=
  ⟨"\x7b ", by decide, by decide⟩

/-- A call, with a single brace behind it. -/
def quotingCall : Template.Slot :=
  ⟨⟨"g()", by decide, by decide, by decide⟩, ⟨" \x7d", by decide, by decide⟩⟩

def quotingTemplate : String :=
  Template.woven bracedStart [quotingCall]

/-- What comes of the template when it is rendered. -/
def quoted : Except Stop (Option String) × World :=
  quotingWorld.run (Cache.startRender limits) 9
    (Cache.render limits none none (.text quotingTemplate) .none)

/-- The result of the call between the two literals. -/
def quotedText : String :=
  "\x7b \x7b\x7b x \x7d\x7d \x7d"

theorem quoted_text : quoted.1.toOption.join = some quotedText := by
  decide +kernel

/-- The result of the call stays as it is. -/
theorem single_pass_quoting :
    ∃ after texts turns,
      World.Runs (Cache.startRender limits) quotingWorld
        (Cache.render limits none none (.text quotingTemplate) .none) (.ok (some quotedText)) after ∧
      quotedText = (Drain.results turns).applyTo (Template.filled bracedStart [quotingCall] texts) := by
  have returned := quoted_text
  rcases ended : quoted with ⟨stop | _ | text, after⟩ <;> rw [ended] at returned
  · cases returned
  · cases returned
  · obtain rfl := Option.some.inj returned
    rw [quoted, World.run] at ended
    have runs : World.Runs (Cache.startRender limits) quotingWorld
        (Cache.render limits none none (.text quotingTemplate) .none) (.ok (some quotedText)) after :=
      Ends.of_runToEnd 9 ended (by rintro ⟨⟩)
    have sound : quotingWorld.Sound :=
      ⟨tidy_unused .standard false false none _, fun _ member => absurd member List.not_mem_nil⟩
    obtain ⟨texts, -, turns, -, -, -, shown, -⟩ :=
      ((single_pass bracedStart [quotingCall]).2.2.2.2 limits none none .none quotingWorld after
        quotedText sound).mp runs
    exact ⟨after, texts, turns, runs, shown⟩

end Sample

end DeferredText
