import DeferredText.Proofs.Ensemble

/-!
Contract: the evaluation of a template whose helpers are an ensemble.

Letters, data and helpers that answer in place leave their text. Every other call is recorded
and leaves its token, so the text that is evaluated is the spliced one as soon as the tokens
are replaced.

Owns: what an evaluation records and leaves, and the tokens that it takes from the supply.

Does not own: running what was recorded (`Proofs.Nesting`).
-/

namespace DeferredText

open CacheState

/-! ### Tokens of a supply -/

namespace Supply

variable {shape : PlaceholderShape}

/-- Tokens are drawn one after the other. -/
theorem tokens_add (first second : Nat) (supply : Supply) :
    tokens shape (first + second) supply =
      ((tokens shape first supply).1 ++ (tokens shape second (tokens shape first supply).2).1,
        (tokens shape second (tokens shape first supply).2).2) := by
  induction first generalizing supply with
  | zero =>
      rw [Nat.zero_add]
      rfl
  | succ first inductionHypothesis =>
      rw [Nat.add_right_comm, tokens, inductionHypothesis]
      rfl

end Supply

/-! ### Arguments -/

namespace Arguments

variable {positional : List String} {named : List (String × String)} {content : String}

theorem mem_setKeyword {collected : List (String × Value)} {name : String} {value : Value}
    {pair : String × Value} (member : pair ∈ setKeyword collected name value) :
    pair ∈ collected ∨ pair.2 = value := by
  induction collected with
  | nil =>
      obtain rfl := List.mem_singleton.mp member
      exact .inr rfl
  | cons first rest inductionHypothesis =>
      rw [setKeyword] at member
      split at member
      · rcases List.mem_cons.mp member with rfl | later
        · exact .inr rfl
        · exact .inl (List.mem_cons_of_mem _ later)
      · rcases List.mem_cons.mp member with rfl | later
        · exact .inl List.mem_cons_self
        · exact (inductionHypothesis later).imp_left (List.mem_cons_of_mem _)

theorem mem_keywords_passing {collected : List (String × Value)} {pair : String × Value}
    (member : pair ∈ named.foldl (fun collected pair =>
      setKeyword collected pair.1 (.text pair.2)) collected) :
    pair ∈ collected ∨ ∃ given ∈ named, pair.2 = .text given.2 := by
  induction named generalizing collected with
  | nil => exact .inl member
  | cons given rest inductionHypothesis =>
      rcases inductionHypothesis member with before | ⟨later, isLater, same⟩
      · exact (mem_setKeyword before).imp_right fun same => ⟨given, List.mem_cons_self, same⟩
      · exact .inr ⟨later, List.mem_cons_of_mem given isLater, same⟩

/-- The texts inside of arguments are those that were passed. -/
theorem mem_contents_passing (member : content ∈ (passing positional named).contents) :
    content ∈ positional ∨ content ∈ named.map Prod.snd := by
  rcases List.mem_append.mp member with inPositional | inKeywords
  · rw [passing, Value.itemsContents_eq, List.flatMap_map] at inPositional
    obtain ⟨text, isPassed, same⟩ := List.mem_flatMap.mp inPositional
    rw [List.mem_singleton.mp same]
    exact .inl isPassed
  · obtain ⟨pair, isKeyword, inside⟩ := List.mem_flatMap.mp inKeywords
    rcases mem_keywords_passing isKeyword with none | ⟨given, isGiven, same⟩
    · cases none
    · rw [same] at inside
      rw [List.mem_singleton.mp inside]
      exact .inr (List.mem_map_of_mem isGiven)

end Arguments

/-- Whoever is on the right side belongs to somebody on the left side. -/
theorem mem_left_of_forall₂ {α β : Type} {related : α → β → Prop} {left : List α}
    {right : List β} {second : β} (both : List.Forall₂ related left right)
    (member : second ∈ right) : ∃ first ∈ left, related first second := by
  induction both with
  | nil => cases member
  | cons head _ inductionHypothesis =>
      rcases List.mem_cons.mp member with rfl | later
      · exact ⟨_, List.mem_cons_self, head⟩
      · obtain ⟨first, inside, same⟩ := inductionHypothesis later
        exact ⟨first, List.mem_cons_of_mem _ inside, same⟩

/-- No text in the arguments of a call holds a token. -/
theorem Passage.Reads.free {data : Value} {segment : Segment} {name : String}
    {arguments : Arguments} (reads : Passage.Reads data segment (.call name arguments)) :
    ∀ content ∈ arguments.contents, FreeOfTokens content := by
  cases reads with
  | call _ _ passes names =>
      intro content member
      rcases Arguments.mem_contents_passing member with isPositional | isNamed
      · obtain ⟨_, -, passed⟩ := mem_left_of_forall₂ passes isPositional
        exact passed.free
      · obtain ⟨pair, isPair, rfl⟩ := List.mem_map.mp isNamed
        obtain ⟨_, -, -, passed⟩ := mem_left_of_forall₂ names isPair
        exact passed.free

namespace Evaluate

variable {σ : Type} {engine : Engine σ} {scope : Scope σ} {source : String}

theorem name_bound {identifier content : String} (binds : scope.data.bindsName identifier = .ok true)
    (bound : scope.data.boundTo identifier = .ok (.text content)) :
    name engine scope.data source identifier = .ok (.text content) := by
  rw [name, binds]
  exact bound

theorem value_passing {expression : Expr} {content : String}
    (passes : Passes scope.data expression content) (state : σ) :
    value engine scope source expression state = (.ok (.text content), state) := by
  cases passes with
  | constant =>
      rw [value]
      rfl
  | name binds bound =>
      rw [value, name_bound binds bound]
      rfl

theorem items_passing {expressions : List Expr} {positional : List String}
    (passes : List.Forall₂ (Passes scope.data) expressions positional) (state : σ) :
    items engine scope source expressions state = (.ok (positional.map .text), state) := by
  induction passes with
  | nil => rfl
  | cons head _ inductionHypothesis =>
      rw [items]
      exact Action.bind_ok (value_passing head state) (Action.bind_ok inductionHypothesis rfl)

theorem namedItems_passing {keywords : List (Option String × Expr)}
    {named : List (String × String)} (passes : List.Forall₂ (fun keyword pair =>
      keyword.1 = some pair.1 ∧ Passes scope.data keyword.2 pair.2) keywords named)
    (collected : List (String × Value)) (state : σ) :
    namedItems engine scope source collected keywords state =
      (.ok (named.foldl (fun collected pair =>
        Arguments.setKeyword collected pair.1 (.text pair.2)) collected), state) := by
  induction passes generalizing collected with
  | nil => rfl
  | @cons keyword pair keywords named head _ inductionHypothesis =>
      obtain ⟨label, expression⟩ := keyword
      obtain ⟨rfl, passed⟩ := head
      rw [namedItems]
      exact Action.bind_ok (value_passing passed state) (inductionHypothesis _)

/-- A call hands over what it passes on. -/
theorem value_call_passing {callee : Expr} {arguments : List Expr}
    {keywords : List (Option String × Expr)} {name : String} {operation : Operation σ}
    {positional : List String} {named : List (String × String)}
    (called : callee.dottedName? = some name) (found : scope.helpers name = some operation)
    (passes : List.Forall₂ (Passes scope.data) arguments positional)
    (names : List.Forall₂ (fun keyword pair =>
      keyword.1 = some pair.1 ∧ Passes scope.data keyword.2 pair.2) keywords named) (state : σ) :
    value engine scope source (.call callee arguments keywords) state =
      operation (.passing positional named) state := by
  have helps : helper scope source callee.dottedName? = (pure operation : Action σ _) := by
    rw [helper, called, Option.bind_some, found]
  rw [value, helps]
  apply Action.bind_ok rfl
  apply Action.bind_ok (items_passing passes state)
  exact Action.bind_ok (namedItems_passing names [] state) rfl

end Evaluate

/-! ### What is recorded -/

/-- The calls were recorded in a waitlist under tokens drawn from the supply, and all other
waitlists are as they were. -/
structure CacheState.Gathers (index : Nat) (calls : List Invocation) (before after : CacheState) :
    Prop where
  invocations : after.invocations = before.invocations ++ calls
  queue : after.queue index =
    before.queue index ++ List.range' before.invocations.length calls.length
  others : ∀ other, other ≠ index → after.waitlists[other]? = before.waitlists[other]?
  waitlists : after.waitlists.length = before.waitlists.length
  drawn : (calls.map Invocation.token, after.supply) =
    Supply.tokens before.shape calls.length before.supply
  shape : after.shape = before.shape
  registry : after.registry = before.registry
  log : after.log = before.log
  fallback : after.defaultWaitlist = before.defaultWaitlist
  promises : after.promises = before.promises
  ready : after.ready = before.ready

namespace CacheState

variable {index : Nat} {first second : List Invocation} {before middle after : CacheState}

/-- Nothing but notes of calls was added. -/
theorem Gathers.noted (index : Nat) (state : CacheState) (notes : List CallNote) :
    Gathers index [] state { state with calls := notes } :=
  ⟨(List.append_nil _).symm, (List.append_nil _).symm, fun _ _ => rfl, rfl, rfl, rfl, rfl, rfl, rfl,
    rfl, rfl⟩

theorem Gathers.trans (left : Gathers index first before middle)
    (right : Gathers index second middle after) : Gathers index (first ++ second) before after where
  invocations := by rw [right.invocations, left.invocations, List.append_assoc]
  queue := by
    rw [right.queue, left.queue, left.invocations, List.append_assoc, List.length_append,
      List.length_append, ← List.range'_append_1]
  others := fun other distinct => (right.others other distinct).trans (left.others other distinct)
  waitlists := right.waitlists.trans left.waitlists
  drawn := by
    obtain ⟨tokens, supply⟩ := Prod.ext_iff.mp left.drawn
    have supply : middle.supply = (Supply.tokens before.shape first.length before.supply).2 := supply
    have further := right.drawn
    rw [left.shape, supply] at further
    rw [List.length_append, Supply.tokens_add, ← further, List.map_append, ← tokens]
  shape := right.shape.trans left.shape
  registry := right.registry.trans left.registry
  log := right.log.trans left.log
  fallback := right.fallback.trans left.fallback
  promises := right.promises.trans left.promises
  ready := right.ready.trans left.ready

/-- One call is recorded under the next token. -/
theorem gathers_recordedIn {call : Invocation} (inside : index < before.waitlists.length)
    (token : call.token = (Supply.token before.shape before.supply).1) :
    Gathers index [call] before
      (before.recordedIn index call (Supply.token before.shape before.supply).2) where
  invocations := rfl
  queue := by
    rw [queue_recordedIn, if_pos ⟨rfl, inside⟩]
    rfl
  others := fun other distinct => by
    rw [recordedIn, List.getElem?_set_ne (Ne.symm distinct)]
  waitlists := by simp [recordedIn]
  drawn := by
    rw [List.map_singleton, token]
    rfl
  shape := rfl
  registry := rfl
  log := rfl
  fallback := rfl
  promises := rfl
  ready := rfl

end CacheState

/-- The passage that a recorded call stands for. -/
def Invocation.passage (call : Invocation) : Passage :=
  .call call.name call.arguments

namespace Ensemble

/-- The calls are those of the passages that are run later; their tokens are in the text, and
when they are replaced, it is the spliced one. -/
structure Carries
    (ensemble : Ensemble)
    (passages : List Passage)
    (calls : List Invocation)
    (text : String) : Prop where
  recorded : calls.map Invocation.passage = passages.filter ensemble.isDeferred
  targets : ∀ call ∈ calls, (ensemble.duty call.name).bind Duty.target? = some call.target
  tokens : ∀ call ∈ calls, IsToken call.token
  occurs : ∀ call ∈ calls, containsText call.token text = true
  written : Written (calls.map Invocation.token) text
  splices : ∀ (texts : String → String) (results : Results), results.Clean →
    (∀ call ∈ calls, (call.token, ensemble.written texts call.passage) ∈ results) →
      results.applyTo text = ensemble.splice texts passages

variable {ensemble : Ensemble} {passages first second : List Passage} {passage : Passage}
  {calls later : List Invocation} {text more : String} {limits : Limits} {index : Nat}
  {registry : Registry} {data : Value} {engine : Engine CacheState}

theorem splice_append (texts : String → String) (first second : List Passage) :
    ensemble.splice texts (first ++ second) =
      ensemble.splice texts first ++ ensemble.splice texts second := by
  induction first with
  | nil => exact String.empty_append.symm
  | cons passage rest inductionHypothesis =>
      rw [List.cons_append, splice, splice, inductionHypothesis, String.append_assoc]

theorem splice_singleton (texts : String → String) (passage : Passage) :
    ensemble.splice texts [passage] = ensemble.written texts passage :=
  String.append_empty

theorem Carries.append (left : ensemble.Carries first calls text)
    (right : ensemble.Carries second later more) :
    ensemble.Carries (first ++ second) (calls ++ later) (text ++ more) := by
  have head : Written ((calls ++ later).map Invocation.token) text :=
    left.written.mono fun token member => by
      rw [List.map_append]
      exact List.mem_append_left _ member
  have tail : Written ((calls ++ later).map Invocation.token) more :=
    right.written.mono fun token member => by
      rw [List.map_append]
      exact List.mem_append_right _ member
  refine ⟨?_, ?_, ?_, ?_, head.append tail, ?_⟩
  · rw [List.map_append, List.filter_append, left.recorded, right.recorded]
  · exact fun call member => (List.mem_append.mp member).elim (left.targets call) (right.targets call)
  · exact fun call member => (List.mem_append.mp member).elim (left.tokens call) (right.tokens call)
  · exact fun call member => containsText_append
      ((List.mem_append.mp member).imp (left.occurs call) (right.occurs call))
  · intro texts results clean solves
    rw [clean.applyTo_append_written head tail, splice_append,
      left.splices texts results clean fun call member => solves call (List.mem_append_left _ member),
      right.splices texts results clean fun call member =>
        solves call (List.mem_append_right _ member)]

/-- A passage that leaves its text. -/
theorem carries_plain (inPlace : ensemble.isDeferred passage = false) (plain : IsPlain text)
    (same : ∀ texts, ensemble.written texts passage = text) :
    ensemble.Carries [passage] [] text := by
  refine ⟨?_, by simp, by simp, by simp, written_plain _ plain, ?_⟩
  · rw [List.filter_singleton, inPlace]
    rfl
  · intro texts results clean _
    rw [clean.applyTo_plain plain, splice_singleton, same]

/-- A call that leaves its token. -/
theorem carries_token {call : Invocation}
    (target : (ensemble.duty call.name).bind Duty.target? = some call.target)
    (isToken : IsToken call.token) : ensemble.Carries [call.passage] [call] call.token := by
  have isDeferred : ensemble.isDeferred call.passage = true := by
    rw [Invocation.passage, Ensemble.isDeferred, target]
    rfl
  refine ⟨?_, ?_, ?_, ?_, written_token isToken List.mem_cons_self, ?_⟩
  · rw [List.filter_singleton, isDeferred]
    rfl
  · intro other member
    rwa [List.mem_singleton.mp member]
  · intro other member
    rwa [List.mem_singleton.mp member]
  · intro other member
    rw [List.mem_singleton.mp member]
    exact (containsText_iff _ _).mpr ⟨"", "", by simp⟩
  · intro texts results clean solves
    rw [clean.applyTo_token (solves call List.mem_cons_self), splice_singleton]

/-- The end of an expression leaves what it carries. -/
def Leaves
    (ensemble : Ensemble)
    (index : Nat)
    (evaluated : CacheAction Value)
    (passage : Passage) : Prop :=
  ∀ before : CacheState, before.shape.IsStandard → index < before.waitlists.length →
    ∃ text calls after, evaluated before = (.ok (.text text), after) ∧
      Gathers index calls before after ∧ ensemble.Carries [passage] calls text

/-- A call of a helper that is run later is recorded. -/
theorem leaves_recorded {name : String} {target : Callable} (arguments : Arguments)
    (runsLater : (ensemble.duty name).bind Duty.target? = some target) :
    ensemble.Leaves index (Callable.call (runRoutine limits (some index)) (some index)
      (.deferred name target) arguments) (.call name arguments) := by
  intro before standard inside
  let call : Invocation :=
    { token := (Supply.token before.shape before.supply).1
      name := name
      arguments := arguments
      target := target
      style := target.style
      status := .pending }
  exact ⟨call.token, [call], _, call_deferred name target arguments before,
    gathers_recordedIn inside rfl, @carries_token _ call runsLater
      (Supply.isToken_token standard before.supply)⟩

/-- A helper of an ensemble answers, or its call is recorded. -/
theorem leaves_call {name : String} {arguments : Arguments}
    (isKnown : (ensemble.duty name).isSome) :
    ∃ duty, ensemble.duty name = some duty ∧
      ensemble.Leaves index (Callable.call (runRoutine limits (some index)) (some index)
        (duty.callable name) arguments) (.call name arguments) := by
  obtain ⟨duty, isDuty⟩ := Option.isSome_iff_exists.mp isKnown
  refine ⟨duty, isDuty, ?_⟩
  cases duty with
  | direct member =>
      intro before _ _
      refine ⟨member.answer arguments, [], _, call_plain rfl before, .noted _ _ _, ?_⟩
      apply carries_plain
      · rw [isDeferred, isDuty]
        rfl
      · exact ensemble.plain name member (.inl isDuty) arguments
      · intro texts
        rw [Ensemble.written, isDuty]
  | deferred member => exact leaves_recorded arguments (by rw [isDuty]; rfl)
  | nesting inner => exact leaves_recorded arguments (by rw [isDuty]; rfl)

/-- An expression leaves its text, or a token in its place. -/
theorem leaves_expression {body : List Char} (fits : ensemble.Fits registry)
    (reads : Passage.Reads data (.expression body) passage)
    (isKnown : ∀ called arguments, passage = .call called arguments → (ensemble.duty called).isSome) :
    ensemble.Leaves index (engine.evaluate ⟨data, templateHelpers limits (some index) registry⟩
      (String.ofList (trimBlank body))) passage := by
  cases reads with
  | datum reads binds bound plain =>
      intro before _ _
      refine ⟨_, [], before, evaluate_eq reads ?_, .noted _ _ _,
        carries_plain rfl plain fun _ => rfl⟩
      rw [Evaluate.value, Evaluate.name_bound binds bound]
      rfl
  | call reads called passes names =>
      obtain ⟨duty, isDuty, leaves⟩ := @leaves_call ensemble limits index _ _ (isKnown _ _ rfl)
      intro before standard inside
      obtain ⟨text, calls, after, answers, gathers, carries⟩ := leaves before standard inside
      refine ⟨text, calls, after, evaluate_eq reads ?_, gathers, carries⟩
      rw [Evaluate.value_call_passing called (templateHelpers_eq (fits _ duty isDuty)) passes names]
      exact answers

/-- The evaluation of a template records the calls of its passages, and leaves their tokens. -/
theorem carries_segments {segments : List Segment} (fits : ensemble.Fits registry)
    (reads : List.Forall₂ (Passage.Reads data) segments passages)
    (isKnown : ∀ called arguments, .call called arguments ∈ passages →
      (ensemble.duty called).isSome)
    (before : CacheState) (standard : before.shape.IsStandard)
    (inside : index < before.waitlists.length) :
    ∃ rendered calls after,
      engine.renderSegments ⟨data, templateHelpers limits (some index) registry⟩ segments before =
        (.ok rendered, after) ∧
      Gathers index calls before after ∧ ensemble.Carries passages calls rendered.text := by
  induction reads generalizing before with
  | nil =>
      refine ⟨⟨"", []⟩, [], before, rfl, .noted _ _ _, rfl, by simp, by simp, by simp,
        written_plain _ isPlain_empty, ?_⟩
      exact fun texts results clean _ => clean.applyTo_plain isPlain_empty
  | @cons segment passage segments passages head _ inductionHypothesis =>
      have knownRest : ∀ called arguments, .call called arguments ∈ passages →
          (ensemble.duty called).isSome := fun called arguments member =>
        isKnown called arguments (List.mem_cons_of_mem passage member)
      cases segment with
      | literal character =>
          obtain ⟨rendered, calls, after, renders, gathers, carries⟩ :=
            inductionHypothesis knownRest before standard inside
          cases head with
          | letter own =>
              have plain : IsPlain (String.singleton character) := by
                apply isPlain_of_notMem
                rw [String.toList_singleton, List.mem_singleton]
                exact Ne.symm own
              refine ⟨⟨String.singleton character ++ rendered.text, rendered.expressions⟩, calls,
                after, ?_, gathers, (carries_plain rfl plain fun _ => rfl).append carries⟩
              rw [Engine.renderSegments]
              exact Action.bind_ok renders rfl
      | expression body =>
          obtain ⟨text, first, middle, evaluates, gathersFirst, carriesFirst⟩ :=
            leaves_expression fits head
              (fun called arguments same => isKnown called arguments (same ▸ List.mem_cons_self))
              before standard inside
          obtain ⟨rendered, second, after, renders, gathers, carries⟩ :=
            inductionHypothesis knownRest middle (gathersFirst.shape.symm ▸ standard)
              (gathersFirst.waitlists ▸ inside)
          refine ⟨⟨text ++ rendered.text, String.ofList (trimBlank body) :: rendered.expressions⟩,
            first ++ second, after, ?_, gathersFirst.trans gathers, carriesFirst.append carries⟩
          rw [Engine.renderSegments]
          apply Action.bind_ok evaluates
          exact Action.bind_ok rfl (Action.bind_ok renders rfl)

end Ensemble

end DeferredText
