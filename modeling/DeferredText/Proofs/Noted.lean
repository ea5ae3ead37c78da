import DeferredText.Proofs.Discreet

/-!
Contract: the calls that a template makes, in their order.

An engine leaves no record of what it calls. So each filter and helper is replaced by one that
notes the call in the state before it does what it always did. The rest of the state, the values
and the failures are what they are without notes, so the notes of a rendering are the calls that
the rendering makes.

Owns: notes, engines that take them, and their agreement with engines that do not.

Does not own: which calls there are (`Proofs.Sites`) and in which modes (`Proofs.Strictness`).
-/

namespace DeferredText

/-- A call of a filter or a helper. -/
structure Note where
  isFilter : Bool
  name : String
  arguments : Arguments

/-- The operation, after a note of its call. -/
def Operation.noting
    {σ : Type}
    (isFilter : Bool)
    (name : String)
    (operation : Operation σ) : Operation (σ × List Note) := fun arguments before =>
  let ended := operation arguments before.1
  (ended.1, ended.2, before.2 ++ [⟨isFilter, name, arguments⟩])

/-- The engine with filters that note their calls. -/
def Engine.noting
    {σ : Type}
    (engine : Engine σ) : Engine (σ × List Note) where
  filters := engine.filters.map fun pair => (pair.1, Operation.noting true pair.1 pair.2)
  strict := engine.strict

/-- The scope with helpers that note their calls. -/
def Scope.noting
    {σ : Type}
    (scope : Scope σ) : Scope (σ × List Note) where
  data := scope.data
  helpers := fun name => (scope.helpers name).map (Operation.noting false name)

/-- The calls that a rendering makes, until it ends or fails. -/
def Engine.calls
    {σ : Type}
    (engine : Engine σ)
    (scope : Scope σ)
    (template : Value)
    (state : σ) : List Note :=
  (engine.noting.render scope.noting template (state, [])).2.2

variable {σ : Type}

theorem Engine.filter?_noting (engine : Engine σ) (name : String) :
    engine.noting.filter? name = (engine.filter? name).map (Operation.noting true name) := by
  unfold filter? noting
  rw [List.find?_map, Option.map_map, Option.map_map]
  have sameNames : (fun pair : String × Operation (σ × List Note) => pair.1 == name) ∘
      (fun pair : String × Operation σ => (pair.1, Operation.noting true pair.1 pair.2)) =
        fun pair => pair.1 == name := rfl
  rw [sameNames]
  cases found : engine.filters.find? fun pair => pair.1 == name with
  | none => rfl
  | some pair =>
      have isNamed : pair.1 = name := by simpa using List.find?_some found
      rw [Option.map_some, Option.map_some, ← isNamed]
      rfl

/-! ### Notes change nothing -/

theorem hiding_nothing : ∀ name, (fun _ : String => false) name = true → isPrivateName name = true :=
  fun _ isHidden => nomatch isHidden

mutual

/-- Nothing is taken away where nothing is hidden. -/
theorem Value.disclosed_nothing : ∀ value : Value, value.disclosed (fun _ => false) = value
  | .list items => by
      rw [Value.disclosed, Value.disclosedItems_nothing items]
  | .tuple items => by
      rw [Value.disclosed, Value.disclosedItems_nothing items]
  | .dict entries => by
      rw [Value.disclosed, Value.disclosedEntries_nothing entries]
  | .object identity attributes => by
      rw [Value.disclosed, Value.disclosedAttributes_nothing attributes]
  | .exception kind arguments => by
      rw [Value.disclosed, Value.disclosedItems_nothing arguments]
  | .none | .bool _ | .int _ | .float _ | .complex _ _ | .text _ | .bytes _ | .ellipsis
  | .opaqueOf _ => rfl

theorem Value.disclosedItems_nothing : ∀ items : List Value,
    Value.disclosedItems (fun _ => false) items = items
  | [] => rfl
  | item :: rest => by
      rw [Value.disclosedItems, Value.disclosed_nothing item, Value.disclosedItems_nothing rest]

theorem Value.disclosedEntries_nothing : ∀ entries : List (Value × Value),
    Value.disclosedEntries (fun _ => false) entries = entries
  | [] => rfl
  | (key, value) :: rest => by
      rw [Value.disclosedEntries, Value.disclosed_nothing key, Value.disclosed_nothing value,
        Value.disclosedEntries_nothing rest]

theorem Value.disclosedAttributes_nothing : ∀ attributes : List (String × Value),
    Value.disclosedAttributes (fun _ => false) attributes = attributes
  | [] => rfl
  | (name, value) :: rest => by
      rw [Value.disclosedAttributes, if_neg Bool.false_ne_true, Value.disclosed_nothing value,
        Value.disclosedAttributes_nothing rest]

end

theorem map_disclosed_nothing (values : List Value) :
    values.map (Value.disclosed fun _ => false) = values := by
  rw [← Value.disclosedItems_eq, Value.disclosedItems_nothing]

theorem Arguments.disclosed_nothing (arguments : Arguments) :
    arguments.disclosed (fun _ => false) = arguments := by
  have named : disclosedNamed (fun _ => false) arguments.keywords = arguments.keywords := by
    rw [disclosedNamed]
    conv_rhs => rw [← List.map_id arguments.keywords]
    refine List.map_congr_left fun pair _ => ?_
    rw [Value.disclosed_nothing]
    rfl
  rw [disclosed, map_disclosed_nothing, named]

theorem Report.disclosed_nothing : ∀ report : Report, report.disclosed (fun _ => false) = report
  | ⟨code, category, message, detail, suggestion, helperName, template, none⟩ => by
      simp only [disclosed, Value.disclosed_nothing]
  | ⟨code, category, message, detail, suggestion, helperName, template, some cause⟩ => by
      simp only [disclosed, Value.disclosed_nothing, disclosed_nothing cause]

theorem Failure.disclosed_nothing (failure : Failure) :
    failure.disclosed (fun _ => false) = failure := by
  cases failure with
  | raised kind arguments => rw [disclosed, map_disclosed_nothing]
  | reported report => rw [disclosed, Report.disclosed_nothing]

theorem EndAlike.eq {α : Type} {view : α → α} {left right : Except Stop α}
    (alike : EndAlike (fun _ => false) view left right) (isView : ∀ result, view result = result) :
    left = right := by
  cases alike with
  | ok same =>
      rw [isView, isView] at same
      rw [same]
  | failed same =>
      rw [Failure.disclosed_nothing, Failure.disclosed_nothing] at same
      rw [same]
  | exhausted | stalled => rfl

/-- States that are the same but for notes. -/
def SameButNotes
    (state : σ)
    (noted : σ × List Note) : Prop :=
  state = noted.1

theorem Operation.agree_noting (isFilter : Bool) (name : String) (operation : Operation σ) :
    Operation.Agree (fun _ => false) SameButNotes operation (operation.noting isFilter name) := by
  intro arguments others same
  rw [Arguments.disclosed_nothing, Arguments.disclosed_nothing] at same
  rintro state ⟨_, notes⟩ rfl
  rw [← same]
  refine ⟨?_, rfl⟩
  show EndAlike _ _ (operation arguments state).1 (operation arguments state).1
  rcases (operation arguments state).1 with (_ | _ | _) | _
  · exact .failed rfl
  · exact .exhausted
  · exact .stalled
  · exact .ok rfl

theorem Engine.agree_noting (engine : Engine σ) (scope : Scope σ) :
    Engine.Agree (fun _ => false) SameButNotes engine scope engine.noting scope.noting where
  strict := rfl
  data := rfl
  filters := fun name => by
    rw [filter?_noting]
    cases engine.filter? name with
    | none => exact .none
    | some operation => exact .some (operation.agree_noting true name)
  helpers := fun name => by
    show Option.Rel _ _ ((scope.helpers name).map _)
    cases scope.helpers name with
    | none => exact .none
    | some operation => exact .some (operation.agree_noting false name)

/-- Notes change neither the value of an expression nor the rest of the state. -/
theorem Evaluate.value_noting (engine : Engine σ) (scope : Scope σ) (source : String)
    (expression : Expr) (before : σ × List Note) :
    (value engine scope source expression before.1).1 =
        (value engine.noting scope.noting source expression before).1 ∧
      (value engine scope source expression before.1).2 =
        (value engine.noting scope.noting source expression before).2.1 := by
  obtain ⟨alike, same⟩ := agree_value (engine.agree_noting scope) hiding_nothing source
    expression before.1 before rfl
  exact ⟨alike.eq Value.disclosed_nothing, same⟩

/-- An expression has the same values without notes. -/
theorem Evaluate.yields_of_noting {engine : Engine σ} {scope : Scope σ} {source : String}
    {expression : Expr} {found : Value}
    (yields : Action.Yields (value engine.noting scope.noting source expression) found) :
    Action.Yields (value engine scope source expression) found := by
  obtain ⟨before, after, evaluates⟩ := yields
  have sameEnd := (value_noting engine scope source expression before).1
  rw [evaluates] at sameEnd
  exact ⟨before.1, _, Prod.ext sameEnd rfl⟩

/-- Notes change neither what is rendered nor the rest of the state. -/
theorem Engine.render_noting (engine : Engine σ) (scope : Scope σ) (template : Value)
    (state : σ) : engine.noting.render scope.noting template (state, []) =
      ((engine.render scope template state).1, (engine.render scope template state).2,
        engine.calls scope template state) := by
  obtain ⟨alike, same⟩ := agree_render hiding_nothing (engine.agree_noting scope) template
    state (state, []) rfl
  have sameEnd := alike.eq fun _ => rfl
  have sameState : (engine.render scope template state).2 =
      (engine.noting.render scope.noting template (state, [])).2.1 := same
  rw [sameEnd, sameState]
  rfl

end DeferredText
