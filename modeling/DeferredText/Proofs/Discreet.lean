import DeferredText.Proofs.Disclosed

/-!
Contract: two runs that differ in private attributes only.

Two evaluations of an expression, whose data differ in hidden attributes, go through the same
steps: each pure step passes the difference on without looking at it, and each call hands it to a
helper or filter. If those are discreet, that is if they treat alike what differs in hidden
attributes only, then so does the evaluation, and what is inserted into a text is the same.

Owns: pairs of actions that agree up to hidden attributes, and the induction over expressions and
segments for them.

Does not own: what the pure steps do with values (`Proofs.Disclosed`).
-/

namespace DeferredText

/-! ### Actions that agree -/

/-- Two actions end alike, up to hidden attributes, given how these are taken away from results. -/
inductive EndAlike {α : Type} (hidden : String → Bool) (view : α → α) :
    Except Stop α → Except Stop α → Prop where
  | ok {left right : α} (same : view left = view right) :
      EndAlike hidden view (.ok left) (.ok right)
  | failed {left right : Failure} (same : left.disclosed hidden = right.disclosed hidden) :
      EndAlike hidden view (.error (.failed left)) (.error (.failed right))
  | exhausted : EndAlike hidden view (.error .exhausted) (.error .exhausted)
  | stalled : EndAlike hidden view (.error .stalled) (.error .stalled)

/-- Failures that differ in hidden attributes only are of the same kind and say the same. -/
theorem EndAlike.tells {α : Type} {hidden : String → Bool} {view : α → α} {failure : Failure}
    {ending : Except Stop α} (alike : EndAlike hidden view (.error (.failed failure)) ending) :
    ∃ other, ending = .error (.failed other) ∧ other.kindName = failure.kindName ∧
      other.message = failure.message := by
  cases alike with
  | @failed _ other same =>
      refine ⟨other, rfl, ?_, ?_⟩
      · rw [← @Failure.kindName_disclosed hidden, ← same, Failure.kindName_disclosed]
      · rw [← @Failure.message_disclosed hidden, ← same, Failure.message_disclosed]

namespace Action

variable {σ τ α β : Type} {hidden : String → Bool} {states : σ → τ → Prop} {view : α → α}
  {viewNext : β → β}

/-- From states that go together the two actions end alike, in states that go together. -/
def Agree
    (hidden : String → Bool)
    (states : σ → τ → Prop)
    (view : α → α)
    (left : Action σ α)
    (right : Action τ α) : Prop :=
  ∀ first second, states first second →
    EndAlike hidden view (left first).1 (right second).1 ∧ states (left first).2 (right second).2

theorem Agree.pure {left right : α} (same : view left = view right) :
    Agree hidden states view (pure left) (pure right) :=
  fun _ _ together => ⟨.ok same, together⟩

theorem Agree.fail {left right : Failure} (same : left.disclosed hidden = right.disclosed hidden) :
    Agree hidden states view (fail left) (fail right) :=
  fun _ _ together => ⟨.failed same, together⟩

theorem Agree.ofOutcome {left right : Outcome α}
    (same : disclosedOutcome hidden view left = disclosedOutcome hidden view right) :
    Agree hidden states view (ofOutcome left) (ofOutcome right) := by
  cases left with
  | error failure =>
      cases right with
      | error other => exact .fail (Except.error.inj same)
      | ok _ => cases same
  | ok result =>
      cases right with
      | error _ => cases same
      | ok other => exact .pure (Except.ok.inj same)

theorem Agree.bind {left : Action σ α} {right : Action τ α} {leftNext : α → Action σ β}
    {rightNext : α → Action τ β} (first : Agree hidden states view left right)
    (second : ∀ here there, view here = view there →
      Agree hidden states viewNext (leftNext here) (rightNext there)) :
    Agree hidden states viewNext (left >>= leftNext) (right >>= rightNext) := by
  intro before other together
  obtain ⟨alike, after⟩ := first before other together
  rw [bind_eq, bind_eq]
  generalize left before = here at alike after
  generalize right other = there at alike after
  obtain ⟨here, middle⟩ := here
  obtain ⟨there, otherMiddle⟩ := there
  cases alike with
  | ok same => exact second _ _ same middle otherMiddle after
  | failed same => exact ⟨.failed same, after⟩
  | exhausted => exact ⟨.exhausted, after⟩
  | stalled => exact ⟨.stalled, after⟩

theorem Agree.attempt {left : Action σ α} {right : Action τ α}
    (first : Agree hidden states view left right) :
    Agree hidden states (disclosedOutcome hidden view) (attempt left) (attempt right) := by
  intro before other together
  obtain ⟨alike, after⟩ := first before other together
  unfold Action.attempt
  generalize left before = here at alike after
  generalize right other = there at alike after
  obtain ⟨here, middle⟩ := here
  obtain ⟨there, otherMiddle⟩ := there
  cases alike with
  | ok same => exact ⟨.ok (congrArg Except.ok same), after⟩
  | failed same => exact ⟨.ok (congrArg Except.error same), after⟩
  | exhausted => exact ⟨.exhausted, after⟩
  | stalled => exact ⟨.stalled, after⟩

theorem Agree.mapFailure {left : Action σ α} {right : Action τ α} {change : Failure → Failure}
    (keeps : ∀ failure, (change failure).disclosed hidden = change (failure.disclosed hidden))
    (first : Agree hidden states view left right) :
    Agree hidden states view (mapFailure change left) (mapFailure change right) := by
  intro before other together
  obtain ⟨alike, after⟩ := first before other together
  unfold Action.mapFailure
  generalize left before = here at alike after
  generalize right other = there at alike after
  obtain ⟨here, middle⟩ := here
  obtain ⟨there, otherMiddle⟩ := there
  cases alike with
  | ok same => exact ⟨.ok same, after⟩
  | failed same => exact ⟨.failed (by rw [keeps, keeps, same]), after⟩
  | exhausted => exact ⟨.exhausted, after⟩
  | stalled => exact ⟨.stalled, after⟩

end Action

/-! ### Arguments and operations -/

/-- Named values without hidden attributes. -/
def disclosedNamed
    (hidden : String → Bool)
    (named : List (String × Value)) : List (String × Value) :=
  named.map fun pair => (pair.1, pair.2.disclosed hidden)

def Arguments.disclosed
    (hidden : String → Bool)
    (arguments : Arguments) : Arguments where
  positional := arguments.positional.map (Value.disclosed hidden)
  keywords := disclosedNamed hidden arguments.keywords

/-- The two operations do the same with arguments that differ in hidden attributes only. -/
def Operation.Agree
    {σ τ : Type}
    (hidden : String → Bool)
    (states : σ → τ → Prop)
    (left : Operation σ)
    (right : Operation τ) : Prop :=
  ∀ arguments others, arguments.disclosed hidden = others.disclosed hidden →
    Action.Agree hidden states (Value.disclosed hidden) (left arguments) (right others)

/-- Two ways to evaluate templates that differ in hidden attributes only: in the data, and in what
filters and helpers of the same name do. -/
structure Engine.Agree
    {σ τ : Type}
    (hidden : String → Bool)
    (states : σ → τ → Prop)
    (engine : Engine σ)
    (scope : Scope σ)
    (otherEngine : Engine τ)
    (otherScope : Scope τ) : Prop where
  strict : engine.strict = otherEngine.strict
  data : scope.data.disclosed hidden = otherScope.data.disclosed hidden
  filters : ∀ name, Option.Rel (Operation.Agree hidden states) (engine.filter? name)
    (otherEngine.filter? name)
  helpers : ∀ name, Option.Rel (Operation.Agree hidden states) (scope.helpers name)
    (otherScope.helpers name)

variable {σ τ : Type} {hidden : String → Bool} {states : σ → τ → Prop} {engine : Engine σ}
  {scope : Scope σ} {otherEngine : Engine τ} {otherScope : Scope τ}

theorem setKeyword_disclosed (collected : List (String × Value)) (name : String) (value : Value) :
    disclosedNamed hidden (Arguments.setKeyword collected name value) =
      Arguments.setKeyword (disclosedNamed hidden collected) name (value.disclosed hidden) := by
  induction collected with
  | nil => rfl
  | cons pair rest inductionHypothesis =>
      unfold disclosedNamed at inductionHypothesis ⊢
      rw [Arguments.setKeyword, List.map_cons, Arguments.setKeyword]
      cases pair.1 == name with
      | true => rfl
      | false => exact congrArg _ inductionHypothesis

theorem Option.Rel.bind_name {relation : Operation σ → Operation τ → Prop}
    {left : String → Option (Operation σ)} {right : String → Option (Operation τ)}
    (each : ∀ name, Option.Rel relation (left name) (right name)) (called : Option String) :
    Option.Rel relation (called.bind left) (called.bind right) := by
  cases called with
  | none => exact .none
  | some name => exact each name

namespace Evaluate

open DeferredText.Action

theorem undefined_congr (strict : engine.strict = otherEngine.strict)
    (expression missing : String) :
    undefined engine expression missing = undefined otherEngine expression missing := by
  unfold undefined
  rw [strict]

theorem isFilterError_disclosed (failure : Failure) :
    isFilterError (failure.disclosed hidden) = isFilterError failure := by
  cases failure with
  | raised kind arguments => cases kind <;> rfl
  | reported report => rfl

/-- Whether a filter's failure becomes one of the template does not depend on what is hidden. -/
theorem agree_filterFailure {hidden : String → Bool} {states : σ → τ → Prop} (source : String)
    (called : Option String) {failure other : Failure}
    (same : failure.disclosed hidden = other.disclosed hidden) :
    Agree hidden states (Value.disclosed hidden)
      (if isFilterError failure then do
        let text ← ofOutcome failure.message
        fail (.reported (.templateError
          ("Filter '" ++ called.getD "None" ++ "' failed: " ++ text) source))
      else fail failure)
      (if isFilterError other then do
        let text ← ofOutcome other.message
        fail (.reported (.templateError
          ("Filter '" ++ called.getD "None" ++ "' failed: " ++ text) source))
      else fail other) := by
  have sameKind : isFilterError failure = isFilterError other := by
    rw [← isFilterError_disclosed failure, same, isFilterError_disclosed]
  have sameText : failure.message = other.message := by
    rw [← failure.message_disclosed, same, Failure.message_disclosed]
  rw [sameKind, sameText]
  split
  · have texts : Agree hidden states id (ofOutcome other.message) (ofOutcome other.message) :=
      .ofOutcome rfl
    refine texts.bind fun text otherText sameText => ?_
    obtain rfl : text = otherText := sameText
    exact .fail rfl
  · exact .fail same

section Steps

variable (agree : Engine.Agree hidden states engine scope otherEngine otherScope)
include agree

theorem agree_name (source identifier : String) :
    Agree hidden states (Value.disclosed hidden)
      (ofOutcome (name engine scope.data source identifier))
      (ofOutcome (name otherEngine otherScope.data source identifier)) := by
  refine .ofOutcome ?_
  rw [← name_disclosed, ← name_disclosed, agree.data]
  unfold name
  simp only [undefined_congr agree.strict]

theorem agree_access (isPrivate : ∀ name, hidden name = true → isPrivateName name = true)
    (source : String) {base otherBase key otherKey : Value}
    (sameBase : base.disclosed hidden = otherBase.disclosed hidden)
    (sameKey : key.disclosed hidden = otherKey.disclosed hidden) :
    Agree hidden states (Value.disclosed hidden) (ofOutcome (access engine source base key))
      (ofOutcome (access otherEngine source otherBase otherKey)) := by
  refine .ofOutcome ?_
  rw [← access_disclosed engine isPrivate, ← access_disclosed otherEngine isPrivate, sameBase,
    sameKey]
  unfold access
  simp only [undefined_congr agree.strict]

theorem agree_helper (source : String) (called : Option String)
    {next : Operation σ → Action σ Value} {otherNext : Operation τ → Action τ Value}
    (further : ∀ operation other, Operation.Agree hidden states operation other →
      Agree hidden states (Value.disclosed hidden) (next operation) (otherNext other)) :
    Agree hidden states (Value.disclosed hidden) (helper scope source called >>= next)
      (helper otherScope source called >>= otherNext) := by
  unfold helper
  have related := Option.Rel.bind_name agree.helpers called
  generalize called.bind scope.helpers = here at related
  generalize called.bind otherScope.helpers = there at related
  cases related with
  | none => exact .fail rfl
  | some alike => exact further _ _ alike

theorem agree_applyFilter (source : String) (called : Option String) {piped otherPiped : Value}
    {arguments others : Arguments} (samePiped : piped.disclosed hidden = otherPiped.disclosed hidden)
    (same : arguments.disclosed hidden = others.disclosed hidden) :
    Agree hidden states (Value.disclosed hidden)
      (applyFilter engine scope source called piped arguments)
      (applyFilter otherEngine otherScope source called otherPiped others) := by
  obtain ⟨samePositional, sameKeywords⟩ := (Arguments.mk.injEq ..).mp same
  have sameFull : Arguments.disclosed hidden
      { arguments with positional := piped :: arguments.positional } =
        Arguments.disclosed hidden
          { others with positional := otherPiped :: others.positional } := by
    simp only [Arguments.disclosed, List.map_cons, samePiped, samePositional, sameKeywords]
  have filters := Option.Rel.bind_name agree.filters called
  have helpers := Option.Rel.bind_name agree.helpers called
  unfold applyFilter
  dsimp only
  generalize called.bind engine.filter? = here at filters
  generalize called.bind otherEngine.filter? = there at filters
  cases filters with
  | some alike =>
      refine .bind (alike _ _ sameFull).attempt fun result other alikeResult => ?_
      cases result with
      | ok result =>
          cases other with
          | ok _ => exact .pure (Except.ok.inj alikeResult)
          | error _ => cases alikeResult
      | error failure =>
          cases other with
          | ok _ => cases alikeResult
          | error otherFailure =>
              exact agree_filterFailure source called (Except.error.inj alikeResult)
  | none =>
      dsimp only
      generalize called.bind scope.helpers = here at helpers
      generalize called.bind otherScope.helpers = there at helpers
      cases helpers with
      | some alike => exact alike _ _ sameFull
      | none => exact .fail rfl

end Steps

mutual

theorem agree_value (agree : Engine.Agree hidden states engine scope otherEngine otherScope)
    (isPrivate : ∀ name, hidden name = true → isPrivateName name = true) (source : String) :
    ∀ expression : Expr, Agree hidden states (Value.disclosed hidden)
      (value engine scope source expression) (value otherEngine otherScope source expression)
  | .constant constant => by
      rw [value, value]
      exact .pure rfl
  | .name identifier _ => by
      rw [value, value]
      exact agree_name agree source identifier
  | .member base field _ => by
      rw [value, value]
      exact (agree_value agree isPrivate source base).bind fun found other same =>
        agree_access agree isPrivate source same rfl
  | .subscript base key _ => by
      rw [value, value]
      exact (agree_value agree isPrivate source base).bind fun found other same =>
        (agree_value agree isPrivate source key).bind fun position otherPosition samePosition =>
          agree_access agree isPrivate source same samePosition
  | .call callee arguments keywords => by
      rw [value, value]
      refine agree_helper agree source callee.dottedName? fun operation other alike => ?_
      refine (agree_items agree isPrivate source arguments).bind fun here there same => ?_
      refine (agree_namedItems agree isPrivate source rfl keywords).bind
        fun named otherNamed sameNamed => alike _ _ ?_
      rw [Arguments.disclosed, Arguments.disclosed, same, sameNamed]
  | .binary left .pipe right => by
      cases right with
      | call callee arguments keywords =>
          rw [value, value]
          refine (agree_value agree isPrivate source left).bind fun piped other same => ?_
          refine (agree_items agree isPrivate source arguments).bind fun here there sameItems => ?_
          refine (agree_namedItems agree isPrivate source rfl keywords).bind
            fun named otherNamed sameNamed => agree_applyFilter agree source _ same ?_
          rw [Arguments.disclosed, Arguments.disclosed, sameItems, sameNamed]
      | _ =>
          rw [value, value]
          · exact (agree_value agree isPrivate source left).bind fun piped other same =>
              agree_applyFilter agree source _ same rfl
          all_goals nofun
  | .unary operator operand => by
      rw [value, value]
      refine (agree_value agree isPrivate source operand).bind fun found other same => ?_
      refine .ofOutcome ?_
      rw [← signed_disclosed, ← signed_disclosed, same]
  | .list elements _ => by
      rw [value, value]
      refine (agree_items agree isPrivate source elements).bind fun here there same => .pure ?_
      rw [Value.disclosed, Value.disclosed, Value.disclosedItems_eq, Value.disclosedItems_eq, same]
  | .tuple elements _ => by
      rw [value, value]
      refine (agree_items agree isPrivate source elements).bind fun here there same => .pure ?_
      rw [Value.disclosed, Value.disclosed, Value.disclosedItems_eq, Value.disclosedItems_eq, same]
  | .dict pairs => by
      rw [value, value]
      refine (agree_entries agree isPrivate source rfl pairs).bind fun here there same => .pure ?_
      rw [Value.disclosed, Value.disclosed, Value.disclosedEntries_eq, Value.disclosedEntries_eq]
      exact congrArg Value.dict same
  | .binary _ (.beyond _) _ => by
      rw [value, value]
      · exact .fail rfl
      all_goals nofun
  | .beyond _ _ => by
      rw [value, value]
      · exact .fail rfl
      all_goals nofun

theorem agree_items (agree : Engine.Agree hidden states engine scope otherEngine otherScope)
    (isPrivate : ∀ name, hidden name = true → isPrivateName name = true) (source : String) :
    ∀ expressions : List Expr, Agree hidden states (List.map (Value.disclosed hidden))
      (items engine scope source expressions) (items otherEngine otherScope source expressions)
  | [] => by
      rw [items, items]
      exact .pure rfl
  | first :: rest => by
      rw [items, items]
      refine (agree_value agree isPrivate source first).bind fun head other same => ?_
      refine (agree_items agree isPrivate source rest).bind fun tail others sameTail => .pure ?_
      rw [List.map_cons, List.map_cons, same, sameTail]

theorem agree_namedItems (agree : Engine.Agree hidden states engine scope otherEngine otherScope)
    (isPrivate : ∀ name, hidden name = true → isPrivateName name = true) (source : String)
    {collected others : List (String × Value)}
    (same : disclosedNamed hidden collected = disclosedNamed hidden others) :
    ∀ keywords : List (Option String × Expr), Agree hidden states (disclosedNamed hidden)
      (namedItems engine scope source collected keywords)
      (namedItems otherEngine otherScope source others keywords)
  | [] => by
      rw [namedItems, namedItems]
      exact .pure same
  | (none, _) :: rest => by
      rw [namedItems, namedItems]
      exact agree_namedItems agree isPrivate source same rest
  | (some keyword, expression) :: rest => by
      rw [namedItems, namedItems]
      refine (agree_value agree isPrivate source expression).bind fun found other sameFound =>
        agree_namedItems agree isPrivate source ?_ rest
      rw [setKeyword_disclosed, setKeyword_disclosed, same, sameFound]

theorem agree_entries (agree : Engine.Agree hidden states engine scope otherEngine otherScope)
    (isPrivate : ∀ name, hidden name = true → isPrivateName name = true) (source : String)
    {collected others : Entries} (same : collected.disclosed hidden = others.disclosed hidden) :
    ∀ pairs : List (Option Expr × Expr), Agree hidden states (Entries.disclosed hidden)
      (entries engine scope source collected pairs)
      (entries otherEngine otherScope source others pairs)
  | [] => by
      rw [entries, entries]
      exact .pure same
  | (none, _) :: rest => by
      rw [entries, entries]
      exact agree_entries agree isPrivate source same rest
  | (some key, expression) :: rest => by
      rw [entries, entries]
      refine (agree_value agree isPrivate source key).bind fun found otherFound sameKey => ?_
      refine (agree_value agree isPrivate source expression).bind fun held otherHeld sameHeld => ?_
      have inserts : Agree hidden states (Entries.disclosed hidden)
          (ofOutcome (insertEntry collected found held))
          (ofOutcome (insertEntry others otherFound otherHeld)) := by
        refine .ofOutcome ?_
        rw [← insertEntry_disclosed, ← insertEntry_disclosed, same, sameKey, sameHeld]
      exact inserts.bind fun _ _ sameEntries =>
        agree_entries agree isPrivate source sameEntries rest

end

theorem nameExpression_disclosed (expression : String) (failure : Failure) :
    (nameExpression expression failure).disclosed hidden =
      nameExpression expression (failure.disclosed hidden) := by
  cases failure with
  | raised kind arguments => rfl
  | reported report =>
      obtain ⟨code, category, message, detail, suggestion, helperName, template, _ | cause⟩ := report
      all_goals
        simp only [nameExpression, Failure.disclosed, Report.disclosed, Report.withTemplate,
          Value.isNone_disclosed]
        split <;> rfl

end Evaluate

/-! ### Expressions and templates -/

namespace Engine

open DeferredText.Action

variable (isPrivate : ∀ name, hidden name = true → isPrivateName name = true)
include isPrivate

theorem agree_evaluate (agree : Engine.Agree hidden states engine scope otherEngine otherScope)
    (expression : String) : Action.Agree hidden states (Value.disclosed hidden)
      (engine.evaluate scope expression) (otherEngine.evaluate otherScope expression) := by
  have reads : Action.Agree hidden states id
      (ofOutcome (Template.readExpression expression))
      (ofOutcome (Template.readExpression expression)) := .ofOutcome rfl
  refine reads.bind fun tree otherTree same => ?_
  obtain rfl : tree = otherTree := same
  exact .mapFailure (Evaluate.nameExpression_disclosed expression)
    (Evaluate.agree_value agree isPrivate expression tree)

theorem agree_renderSegments
    (agree : Engine.Agree hidden states engine scope otherEngine otherScope)
    (segments : List Segment) : Action.Agree hidden states id
      (engine.renderSegments scope segments) (otherEngine.renderSegments otherScope segments) := by
  induction segments with
  | nil => exact .pure rfl
  | cons segment rest inductionHypothesis =>
      cases segment with
      | literal character =>
          refine inductionHypothesis.bind fun rendered other same => .pure ?_
          obtain rfl : rendered = other := same
          rfl
      | expression body =>
          refine (agree_evaluate isPrivate agree _).bind fun value other same => ?_
          have inserts : Action.Agree hidden states id (ofOutcome (insertedText value))
              (ofOutcome (insertedText other)) := by
            refine .ofOutcome ?_
            rw [← @insertedText_disclosed hidden value, same, insertedText_disclosed]
          refine inserts.bind fun inserted otherInserted sameText => ?_
          refine inductionHypothesis.bind fun rendered other sameRest => .pure ?_
          obtain rfl : inserted = otherInserted := sameText
          obtain rfl : rendered = other := sameRest
          rfl

theorem agree_render (agree : Engine.Agree hidden states engine scope otherEngine otherScope)
    (template : Value) : Action.Agree hidden states id
      (engine.render scope template) (otherEngine.render otherScope template) := by
  cases template with
  | text content =>
      rw [Engine.render, Engine.render]
      apply agree_renderSegments isPrivate
      refine ⟨agree.strict, ?_, agree.filters, agree.helpers⟩
      have sameTruth : scope.data.truthy = otherScope.data.truthy := by
        rw [← @Value.truthy_disclosed hidden, agree.data, Value.truthy_disclosed]
      dsimp only
      rw [sameTruth]
      split
      · exact agree.data
      · rfl
  | _ => exact .fail rfl

end Engine

/-! ### Standard filters -/

/-- The texts of values hold no attributes, and neither do their JSON texts. -/
theorem Json.keyText_disclosed (key : Value) :
    Json.keyText (key.disclosed hidden) = Json.keyText key := by
  cases key <;> rfl

namespace Json

mutual

theorem write_disclosed : ∀ value : Value,
    write refuse (value.disclosed hidden) = write refuse value
  | .list items => by
      rw [Value.disclosed, write, write, writeItems_disclosed items]
  | .tuple items => by
      rw [Value.disclosed, write, write, writeItems_disclosed items]
  | .dict entries => by
      rw [Value.disclosed, write, write, writeEntries_disclosed entries]
  | .none | .bool _ | .int _ | .float _ | .complex _ _ | .text _ | .bytes _ | .ellipsis
  | .opaqueOf _ | .object _ _ | .exception _ _ => rfl

theorem writeItems_disclosed : ∀ items : List Value,
    writeItems refuse (Value.disclosedItems hidden items) = writeItems refuse items
  | [] => rfl
  | item :: rest => by
      rw [Value.disclosedItems, writeItems, writeItems, write_disclosed item,
        writeItems_disclosed rest]

theorem writeEntries_disclosed : ∀ entries : List (Value × Value),
    writeEntries refuse (Value.disclosedEntries hidden entries) = writeEntries refuse entries
  | [] => rfl
  | (key, value) :: rest => by
      rw [Value.disclosedEntries, writeEntries, writeEntries, keyText_disclosed,
        write_disclosed value, writeEntries_disclosed rest]

end

theorem failsPlainly_keyText (key : Value) : FailsPlainly (keyText key) := by
  cases key with
  | int number => exact (failsByLength_integerText number).plainly
  | none | bool truth | float datum | text content => exact .ok _
  | _ => exact .wrongType _

mutual

theorem failsPlainly_write : ∀ value : Value, FailsPlainly (write refuse value)
  | .list items | .tuple items => by
      rw [write]
      exact (failsPlainly_writeItems items).bind fun _ => .ok _
  | .dict entries => by
      rw [write]
      exact (failsPlainly_writeEntries entries).bind fun _ => .ok _
  | .int number => (failsByLength_integerText number).plainly
  | .none | .bool _ | .float _ | .text _ => .ok _
  | .complex _ _ | .bytes _ | .ellipsis | .opaqueOf _ | .object _ _ | .exception _ _ =>
      .wrongType _

theorem failsPlainly_writeItems : ∀ items : List Value, FailsPlainly (writeItems refuse items)
  | [] => .ok _
  | item :: rest => by
      rw [writeItems]
      exact (failsPlainly_write item).bind fun _ => (failsPlainly_writeItems rest).bind fun _ => .ok _

theorem failsPlainly_writeEntries : ∀ entries : List (Value × Value),
    FailsPlainly (writeEntries refuse entries)
  | [] => .ok _
  | (key, value) :: rest => by
      rw [writeEntries]
      exact (failsPlainly_keyText key).bind fun _ => (failsPlainly_write value).bind fun _ =>
        (failsPlainly_writeEntries rest).bind fun _ => .ok _

end

end Json

namespace Filter

/-- Parameters that are filled, without hidden attributes in their values. -/
def disclosedSlots
    (hidden : String → Bool)
    (slots : List (String × Option Value)) : List (String × Option Value) :=
  slots.map fun slot => (slot.1, slot.2.map (Value.disclosed hidden))

theorem fillPositional_disclosed (parameters : List String) (values : List Value) :
    fillPositional parameters (values.map (Value.disclosed hidden)) =
      disclosedSlots hidden (fillPositional parameters values) := by
  induction parameters generalizing values with
  | nil => rfl
  | cons parameter rest inductionHypothesis =>
      cases values with
      | nil => exact congrArg _ (inductionHypothesis [])
      | cons value values => exact congrArg _ (inductionHypothesis values)

theorem fillKeywords_disclosed (function : String) (keywords : List (String × Value))
    (slots : List (String × Option Value)) :
    fillKeywords function (disclosedNamed hidden keywords) (disclosedSlots hidden slots) =
      disclosedOutcome hidden (disclosedSlots hidden) (fillKeywords function keywords slots) := by
  induction keywords generalizing slots with
  | nil => rfl
  | cons keyword rest inductionHypothesis =>
      obtain ⟨name, value⟩ := keyword
      have fills : disclosedSlots hidden
          (slots.map fun slot => if slot.1 == name then (name, some value) else slot) =
            (disclosedSlots hidden slots).map fun slot =>
              if slot.1 == name then (name, some (value.disclosed hidden)) else slot := by
        unfold disclosedSlots
        rw [List.map_map, List.map_map]
        refine List.map_congr_left fun slot _ => ?_
        dsimp only [Function.comp]
        split <;> rfl
      have finds : (disclosedSlots hidden slots).find? (fun slot => slot.1 == name) =
          (slots.find? fun slot => slot.1 == name).map fun slot =>
            (slot.1, slot.2.map (Value.disclosed hidden)) := List.find?_map
      have named : disclosedNamed hidden ((name, value) :: rest) =
          (name, value.disclosed hidden) :: disclosedNamed hidden rest := rfl
      rw [named, fillKeywords, fillKeywords, finds]
      generalize List.find? (fun slot => slot.1 == name) slots = found
      rcases found with _ | ⟨found, _ | held⟩
      · rfl
      · exact (congrArg _ fills.symm).trans (inductionHypothesis _)
      · rfl

/-- Matching arguments with parameters looks at their number and names only. -/
theorem bindArguments_disclosed (filter : Filter) (arguments : Arguments) :
    filter.bindArguments (arguments.disclosed hidden) =
      disclosedOutcome hidden (List.map (Value.disclosed hidden))
        (filter.bindArguments arguments) := by
  have slots := @fillKeywords_disclosed hidden filter.functionName arguments.keywords
    (fillPositional filter.parameters arguments.positional)
  rw [← fillPositional_disclosed] at slots
  unfold bindArguments Arguments.disclosed
  dsimp only
  rw [slots, List.length_map]
  rcases fillKeywords filter.functionName arguments.keywords
    (fillPositional filter.parameters arguments.positional) with failure | slots
  · rfl
  · have missing : ((disclosedSlots hidden slots).filter fun slot => slot.2.isNone).map Prod.fst =
        (slots.filter fun slot => slot.2.isNone).map Prod.fst := by
      rw [disclosedSlots, List.filter_map, List.map_map]
      simp only [Function.comp_def, Option.isNone_map]
    have held : (disclosedSlots hidden slots).filterMap Prod.snd =
        (slots.filterMap Prod.snd).map (Value.disclosed hidden) := by
      rw [disclosedSlots, List.filterMap_map, List.map_filterMap]
      rfl
    simp only [disclosedOutcome, bind, Except.bind, missing, held]
    by_cases tooMany : filter.parameters.length < arguments.positional.length
    · simp only [if_pos tooMany]
      rfl
    · simp only [if_neg tooMany]
      by_cases complete :
          ((slots.filter fun slot => slot.2.isNone).map Prod.fst).isEmpty = true
      · simp only [pure, Except.pure, if_pos complete]
      · simp only [pure, Except.pure, if_neg complete]
        rfl

theorem headD_disclosed (values : List Value) :
    (values.map (Value.disclosed hidden)).headD .none = (values.headD .none).disclosed hidden := by
  cases values <;> rfl

theorem length_disclosed (value : Value) : length (value.disclosed hidden) =
    disclosedOutcome hidden (Value.disclosed hidden) (length value) := by
  cases value with
  | list items | tuple items =>
      rw [Value.disclosed, Value.disclosedItems_eq, length, List.length_map]
      rfl
  | dict entries =>
      rw [Value.disclosed, Value.disclosedEntries_eq, length, List.length_map]
      rfl
  | _ => rfl

/-- Whatever is computed from the display text of a value holds no objects. -/
theorem onText_disclosed (change : List Char → List Char) (value : Value) :
    onText change (value.disclosed hidden) =
      disclosedOutcome hidden (Value.disclosed hidden) (onText change value) := by
  unfold onText
  rw [Value.display_disclosed]
  rcases shown : value.display with failure | text
  · exact congrArg Except.error (failsPlainly_display value failure shown).symm
  · rfl

theorem apply_disclosed {filter : Filter} (isStandard : filter ∈ standard) (values : List Value) :
    filter.apply (values.map (Value.disclosed hidden)) =
      disclosedOutcome hidden (Value.disclosed hidden) (filter.apply values) := by
  simp only [standard, List.mem_cons, List.not_mem_nil, or_false] at isStandard
  rcases isStandard with rfl | rfl | rfl | rfl | rfl | rfl
  · exact (congrArg length (headD_disclosed values)).trans (length_disclosed _)
  · rcases values with _ | ⟨value, _ | ⟨default, _ | ⟨_, _⟩⟩⟩
    · rfl
    · rfl
    · dsimp only [List.map]
      rw [Value.isNone_disclosed]
      split <;> rfl
    · rfl
  · dsimp only
    rw [headD_disclosed, Json.write_disclosed]
    rcases written : Json.write Json.refuse (values.headD .none) with failure | text
    · exact congrArg Except.error (Json.failsPlainly_write _ failure written).symm
    · rfl
  · exact (congrArg _ (headD_disclosed values)).trans (onText_disclosed upperCase _)
  · exact (congrArg _ (headD_disclosed values)).trans (onText_disclosed lowerCase _)
  · exact (congrArg _ (headD_disclosed values)).trans (onText_disclosed trimBlank _)

/-- The standard filters are discreet. -/
theorem agree_operation {filter : Filter} (isStandard : filter ∈ standard)
    (states : σ → τ → Prop) :
    Operation.Agree hidden states filter.operation filter.operation := by
  intro arguments others same
  refine .ofOutcome ?_
  have carries (given : Arguments) :
      disclosedOutcome hidden (Value.disclosed hidden) (filter.bindArguments given >>= filter.apply) =
        filter.bindArguments (given.disclosed hidden) >>= filter.apply := by
    rw [bindArguments_disclosed]
    rcases filter.bindArguments given with failure | values
    · rfl
    · exact (apply_disclosed isStandard values).symm
  rw [carries, carries, same]

theorem agree_table {name : String} {operation : Operation σ} {strict : Bool}
    (states : σ → σ → Prop) (found : (Engine.mk (table σ) strict).filter? name = some operation) :
    Operation.Agree hidden states operation operation := by
  rw [Engine.filter?, Option.map_eq_some_iff] at found
  obtain ⟨pair, member, rfl⟩ := found
  obtain ⟨filter, isStandard, rfl⟩ := List.mem_map.mp (List.mem_of_find?_eq_some member)
  exact agree_operation isStandard states

end Filter

/-- Data that differ in private attributes of objects only cannot be told apart by expressions and
templates, as long as the filters and helpers treat them alike: evaluations end in values that
differ in private attributes only, or in the same failure, and renderings end in the same text, or
in the same failure, of the same kind and with the same message. -/
theorem private_attributes_unseen {σ : Type} {alike : σ → σ → Prop} {engine : Engine σ}
    {helpers : String → Option (Operation σ)} {data other : Value}
    (sameData : data.disclosed isPrivateName = other.disclosed isPrivateName)
    (discreetFilters : ∀ name operation, engine.filter? name = some operation →
      Operation.Agree isPrivateName alike operation operation)
    (discreetHelpers : ∀ name operation, helpers name = some operation →
      Operation.Agree isPrivateName alike operation operation) :
    (∀ expression, Action.Agree isPrivateName alike (Value.disclosed isPrivateName)
      (engine.evaluate ⟨data, helpers⟩ expression) (engine.evaluate ⟨other, helpers⟩ expression)) ∧
      (∀ template, Action.Agree isPrivateName alike id
        (engine.render ⟨data, helpers⟩ template) (engine.render ⟨other, helpers⟩ template)) ∧
      ∀ template before otherBefore, alike before otherBefore → ∀ failure,
        (engine.render ⟨data, helpers⟩ template before).1 = .error (.failed failure) →
          ∃ otherFailure,
            (engine.render ⟨other, helpers⟩ template otherBefore).1 =
              .error (.failed otherFailure) ∧
            otherFailure.kindName = failure.kindName ∧
            otherFailure.message = failure.message := by
  have related {found : Option (Operation σ)}
      (discreet : ∀ operation, found = some operation →
        Operation.Agree isPrivateName alike operation operation) :
      Option.Rel (Operation.Agree isPrivateName alike) found found := by
    cases found with
    | none => exact .none
    | some operation => exact .some (discreet operation rfl)
  have agree : Engine.Agree isPrivateName alike engine ⟨data, helpers⟩ engine ⟨other, helpers⟩ :=
    ⟨rfl, sameData, fun name => related (discreetFilters name),
      fun name => related (discreetHelpers name)⟩
  have renders := Engine.agree_render (fun _ isHidden => isHidden) agree
  refine ⟨Engine.agree_evaluate (fun _ isHidden => isHidden) agree, renders, ?_⟩
  intro template before otherBefore together failure failed
  have ends := (renders template before otherBefore together).1
  rw [failed] at ends
  exact ends.tells

namespace Sample

/-- A helper that hands back its first argument. -/
def echoing : String → Option (Operation Unit)
  | "echo" => some fun arguments => pure (arguments.positional.headD .none)
  | _ => none

def asking : String :=
  "\x7b\x7b user[echo('_token')] | default(user.name) \x7d\x7d"

def standardEngine : Engine Unit := ⟨Filter.table Unit, false⟩

def userWith (attributes : List (String × Value)) : Value :=
  .dict [(.text "user", .object 0 attributes)]

/-- A text about a user with some attributes, rendered with the standard filters. -/
def asked (attributes : List (String × Value)) : Action Unit Rendered :=
  standardEngine.render ⟨userWith attributes, echoing⟩ (.text asking)

/-- Neither the value nor the presence of a private attribute shows, also where the key is
computed. -/
theorem unseen_token :
    (asked [("_token", .text "t"), ("name", .text "x")] ()).1 =
        .ok ⟨"x", ["user[echo('_token')] | default(user.name)"]⟩ ∧
      (asked [("name", .text "x"), ("_key", .int 7)] ()).1 =
        (asked [("_token", .text "t"), ("name", .text "x")] ()).1 := by
  have discreet : ∀ name operation, echoing name = some operation →
      Operation.Agree isPrivateName Eq operation operation := by
    intro name operation found
    unfold echoing at found
    split at found <;> cases found
    intro arguments others same
    refine .pure ?_
    have samePositional := congrArg Arguments.positional same
    dsimp only [Arguments.disclosed] at samePositional
    rw [← Filter.headD_disclosed, samePositional, Filter.headD_disclosed]
  have first : (asked [("_token", .text "t"), ("name", .text "x")] ()).1 =
      .ok ⟨"x", ["user[echo('_token')] | default(user.name)"]⟩ := by
    cbv
  have sameData : (userWith [("_token", .text "t"), ("name", .text "x")]).disclosed isPrivateName =
      (userWith [("name", .text "x"), ("_key", .int 7)]).disclosed isPrivateName := by
    cbv
  have filters : ∀ name operation, standardEngine.filter? name = some operation →
      Operation.Agree isPrivateName Eq operation operation :=
    fun _ _ => Filter.agree_table Eq
  obtain ⟨-, renders, -⟩ := private_attributes_unseen sameData filters discreet
  have ends : EndAlike isPrivateName id (asked [("_token", .text "t"), ("name", .text "x")] ()).1
      (asked [("name", .text "x"), ("_key", .int 7)] ()).1 :=
    (renders (.text asking) () () rfl).1
  refine ⟨first, ?_⟩
  rw [first] at ends ⊢
  generalize (asked [("name", .text "x"), ("_key", .int 7)] ()).1 = ending at ends ⊢
  cases ends with
  | ok same => exact congrArg Except.ok same.symm

end Sample

end DeferredText
