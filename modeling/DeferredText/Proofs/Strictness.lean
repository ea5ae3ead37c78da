import DeferredText.Proofs.Noted
import DeferredText.Proofs.Weaving

/-!
Contract: an engine that is strict about undefined accesses, next to one that is not.

The two engines take the same steps up to the first undefined access of the evaluation. There the
strict one stops with a report, and the other one goes on with an absent value. So what the
strict one did is the beginning of what the other one does, and if it never stops they do the
same.

Owns: undefined accesses by their occasions, and the induction over expressions and segments for
the two engines.

Does not own: other failures (`Proofs.Faults`) and what the notes of calls are (`Proofs.Noted`).
-/

namespace DeferredText

/-! ### Runs that stop earlier -/

namespace Action

variable {σ α β : Type} {admitted : Failure → Prop}

/-- Whatever the action does, it adds to the notes. -/
def OnlyNotes (α : Type) (action : Action (σ × List Note) α) : Prop :=
  ∀ before, before.2 <+: (action before).2.2

instance : Composes (σ := σ × List Note) OnlyNotes where
  pure := fun _ _ => List.prefix_rfl
  throw := fun _ _ => List.prefix_rfl
  bind := by
    intro α β action next first second before
    have moved := first before
    rw [bind_eq]
    rcases acts : action before with ⟨stop | result, middle⟩ <;> rw [acts] at moved
    · exact moved
    · exact moved.trans (second result middle)
  attempt := by
    intro α action first before
    have same : (attempt action before).2 = (action before).2 := by
      rw [attempt]
      rcases action before with ⟨(_ | _ | _) | _, _⟩ <;> rfl
    rw [same]
    exact first before
  mapFailure := by
    intro α action first change before
    have same : (mapFailure change action before).2 = (action before).2 := by
      rw [mapFailure]
      rcases action before with ⟨(_ | _ | _) | _, _⟩ <;> rfl
    rw [same]
    exact first before

/-- The two actions do the same, unless the strict one stops with an admitted failure; then what it
noted is the beginning of what the other one notes. -/
def Curtails
    (admitted : Failure → Prop)
    (strict lenient : Action (σ × List Note) α) : Prop :=
  ∀ before, strict before = lenient before ∨
    ∃ failure after, admitted failure ∧ strict before = (.error (.failed failure), after) ∧
      after.2 <+: (lenient before).2.2

theorem Curtails.same (action : Action (σ × List Note) α) : Curtails admitted action action :=
  fun _ => .inl rfl

theorem Curtails.mono {more : Failure → Prop} {strict lenient : Action (σ × List Note) α}
    (curtails : Curtails admitted strict lenient) (weaker : ∀ failure, admitted failure → more failure) :
    Curtails more strict lenient := by
  intro before
  rcases curtails before with same | ⟨failure, after, isAdmitted, stops, earlier⟩
  · exact .inl same
  · exact .inr ⟨failure, after, weaker failure isAdmitted, stops, earlier⟩

theorem Curtails.bind {strict lenient : Action (σ × List Note) α}
    {strictNext lenientNext : α → Action (σ × List Note) β}
    (first : Curtails admitted strict lenient)
    (second : ∀ result, Yields strict result →
      Curtails admitted (strictNext result) (lenientNext result))
    (onlyNotes : ∀ result, OnlyNotes β (lenientNext result)) :
    Curtails admitted (strict >>= strictNext) (lenient >>= lenientNext) := by
  intro before
  rw [bind_eq, bind_eq]
  rcases first before with same | ⟨failure, after, isAdmitted, stops, earlier⟩
  · rw [← same]
    rcases acts : strict before with ⟨stop | result, middle⟩
    · exact .inl rfl
    · exact second result ⟨before, middle, acts⟩ middle
  · refine .inr ⟨failure, after, isAdmitted, by rw [stops], ?_⟩
    rcases acts : lenient before with ⟨stop | result, middle⟩ <;> rw [acts] at earlier
    · exact earlier
    · exact earlier.trans (onlyNotes result middle)

theorem Curtails.mapFailure {strict lenient : Action (σ × List Note) α}
    {change : Failure → Failure} (curtails : Curtails admitted strict lenient)
    (keeps : ∀ failure, admitted failure → change failure = failure) :
    Curtails admitted (mapFailure change strict) (mapFailure change lenient) := by
  intro before
  rcases curtails before with same | ⟨failure, after, isAdmitted, stops, earlier⟩
  · refine .inl ?_
    rw [Action.mapFailure, Action.mapFailure, same]
  · refine .inr ⟨failure, after, isAdmitted, ?_, ?_⟩
    · rw [Action.mapFailure, stops]
      dsimp only
      rw [keeps failure isAdmitted]
    · have unchanged : (Action.mapFailure change lenient before).2 = (lenient before).2 := by
        rw [Action.mapFailure]
        rcases lenient before with ⟨(_ | _ | _) | _, _⟩ <;> rfl
      rw [unchanged]
      exact earlier

end Action

/-! ### Undefined accesses -/

namespace Evaluate

open DeferredText.Action DeferredText.Expr

variable {σ : Type}

/-- What is undefined, by its name in the report, when a tree is evaluated. -/
inductive Absence (engine : Engine σ) (scope : Scope σ) (source : String) (tree : Expr) :
    String → Prop where
  | name {identifier : String} {access : Access} (inside : Part (.name identifier access) tree)
      (unbound : scope.data.bindsName identifier = .ok false)
      (noConstant : aliases.find? (fun pair => pair.1 == identifier) = none) :
      Absence engine scope source tree identifier
  | member {base : Expr} {field : String} {access : Access} {found : Value}
      (inside : Part (.member base field access) tree)
      (yields : Yields (value engine scope source base) found)
      (missing : found.access? (.text field) = .ok none) : Absence engine scope source tree field
  | subscript {base key : Expr} {access : Access} {found position : Value} {shown : String}
      (inside : Part (.subscript base key access) tree)
      (yields : Yields (value engine scope source base) found)
      (yieldsKey : Yields (value engine scope source key) position)
      (missing : found.access? position = .ok none) (shows : position.display = .ok shown) :
      Absence engine scope source tree shown

/-- The report of an undefined access. -/
def undefinedReport (source missing : String) : Report :=
  .templateError ("Undefined variable '" ++ missing ++ "' in '" ++ source ++ "'") source

/-- The failure reports something that is undefined in the tree. -/
def Undefined (engine : Engine σ) (scope : Scope σ) (source : String) (tree : Expr)
    (failure : Failure) : Prop :=
  ∃ missing, Absence engine scope source tree missing ∧
    failure = .reported (undefinedReport source missing)

variable {engine : Engine σ} {scope : Scope σ} {source : String} {operand expression : Expr}
  {failure : Failure}

theorem Undefined.deeper (isOperand : operand ∈ expression.operands)
    (undefined : Undefined engine scope source operand failure) :
    Undefined engine scope source expression failure := by
  obtain ⟨missing, absence, isReport⟩ := undefined
  refine ⟨missing, ?_, isReport⟩
  cases absence with
  | name inside unbound noConstant => exact .name (.deeper isOperand inside) unbound noConstant
  | member inside yields isMissing => exact .member (.deeper isOperand inside) yields isMissing
  | subscript inside yields yieldsKey isMissing shows =>
      exact .subscript (.deeper isOperand inside) yields yieldsKey isMissing shows

/-- The failure reports something that is undefined in one of the expressions. -/
def UndefinedAmong (engine : Engine σ) (scope : Scope σ) (source : String)
    (expressions : List Expr) (failure : Failure) : Prop :=
  ∃ expression ∈ expressions, Undefined engine scope source expression failure

theorem UndefinedAmong.mono {few many : List Expr} (included : few ⊆ many)
    (undefined : UndefinedAmong engine scope source few failure) :
    UndefinedAmong engine scope source many failure := by
  obtain ⟨expression, member, isUndefined⟩ := undefined
  exact ⟨expression, included member, isUndefined⟩

theorem UndefinedAmong.within {expressions : List Expr}
    (areOperands : expressions ⊆ expression.operands)
    (undefined : UndefinedAmong engine scope source expressions failure) :
    Undefined engine scope source expression failure := by
  obtain ⟨operand, member, isUndefined⟩ := undefined
  exact isUndefined.deeper (areOperands member)

/-! ### The two engines side by side -/

section SideBySide

variable {filters : List (String × Operation (σ × List Note))} {scope : Scope (σ × List Note)}

theorem curtails_name (source identifier : String) (access : Access) :
    Curtails (Undefined ⟨filters, true⟩ scope source (.name identifier access))
      (ofOutcome (name ⟨filters, true⟩ scope.data source identifier) :
        Action (σ × List Note) Value)
      (ofOutcome (name ⟨filters, false⟩ scope.data source identifier)) := by
  intro before
  unfold name
  rcases binds : scope.data.bindsName identifier with failure | _ | _
  · exact .inl rfl
  · cases found : aliases.find? fun pair => pair.1 == identifier with
    | some pair => exact .inl rfl
    | none =>
        exact .inr ⟨.reported (undefinedReport source identifier), before,
          ⟨identifier, .name .here binds found, rfl⟩, rfl, List.prefix_rfl⟩
  · exact .inl rfl

theorem curtails_access {admitted : Failure → Prop} (source : String) (base key : Value)
    (admits : ∀ shown, base.access? key = .ok none → key.display = .ok shown →
      admitted (.reported (undefinedReport source shown))) :
    Curtails admitted
      (ofOutcome (access ⟨filters, true⟩ source base key) : Action (σ × List Note) Value)
      (ofOutcome (access ⟨filters, false⟩ source base key)) := by
  intro before
  unfold access
  rcases accesses : base.access? key with failure | _ | found
  · exact .inl rfl
  · rcases shows : key.display with failure | shown
    · exact .inl rfl
    · exact .inr ⟨.reported (undefinedReport source shown), before, admits shown accesses shows, rfl,
        List.prefix_rfl⟩
  · exact .inl rfl

theorem curtails_helper {admitted : Failure → Prop}
    (all : Engine.All OnlyNotes ⟨filters, false⟩ scope) (source : String) (called : Option String)
    {strictNext lenientNext : Operation (σ × List Note) → Action (σ × List Note) Value}
    (further : ∀ operation, (∀ arguments, OnlyNotes Value (operation arguments)) →
      Curtails admitted (strictNext operation) (lenientNext operation)) :
    Curtails admitted (helper scope source called >>= strictNext)
      (helper scope source called >>= lenientNext) := by
  unfold helper
  cases found : called.bind scope.helpers with
  | none => exact fun _ => .inl rfl
  | some operation =>
      obtain ⟨name, rfl, isHelper⟩ := Option.bind_eq_some_iff.mp found
      exact further operation (all.helpers name operation isHelper)

/-- Positional arguments, then named ones, then the call itself. -/
theorem curtails_arguments (all : Engine.All OnlyNotes ⟨filters, false⟩ scope) {source : String}
    {expression : Expr} {arguments : List Expr} {keywords : List (Option String × Expr)}
    (areOperands : arguments ++ keywords.map Prod.snd ⊆ expression.operands)
    (first : Curtails (UndefinedAmong ⟨filters, true⟩ scope source arguments)
      (items ⟨filters, true⟩ scope source arguments)
      (items ⟨filters, false⟩ scope source arguments))
    (second : Curtails (UndefinedAmong ⟨filters, true⟩ scope source (keywords.map Prod.snd))
      (namedItems ⟨filters, true⟩ scope source [] keywords)
      (namedItems ⟨filters, false⟩ scope source [] keywords))
    {calls : Operation (σ × List Note)} (onlyNotes : ∀ given, OnlyNotes Value (calls given)) :
    Curtails (Undefined ⟨filters, true⟩ scope source expression)
      (do
        let positional ← items ⟨filters, true⟩ scope source arguments
        let named ← namedItems ⟨filters, true⟩ scope source [] keywords
        calls ⟨positional, named⟩)
      (do
        let positional ← items ⟨filters, false⟩ scope source arguments
        let named ← namedItems ⟨filters, false⟩ scope source [] keywords
        calls ⟨positional, named⟩) := by
  obtain ⟨inArguments, inKeywords⟩ := List.append_subset.mp areOperands
  refine (first.mono fun _ => UndefinedAmong.within inArguments).bind (fun positional _ => ?_)
    fun positional => Composes.bind (composed_namedItems OnlyNotes all source [] keywords)
      fun named => onlyNotes _
  exact (second.mono fun _ => UndefinedAmong.within inKeywords).bind (fun _ _ => .same _)
    fun named => onlyNotes _

mutual

theorem curtails_value (all : Engine.All OnlyNotes ⟨filters, false⟩ scope) (source : String) :
    ∀ expression : Expr, Curtails (Undefined ⟨filters, true⟩ scope source expression)
      (value ⟨filters, true⟩ scope source expression)
      (value ⟨filters, false⟩ scope source expression)
  | .constant literal => by
      rw [value, value]
      exact .same _
  | .name identifier access => by
      rw [value, value]
      exact curtails_name source identifier access
  | .member base field access => by
      rw [value, value]
      refine ((curtails_value all source base).mono fun _ => Undefined.deeper ?_).bind
        (fun found yields => ?_) fun _ => composed_ofOutcome OnlyNotes _
      · exact List.mem_singleton_self base
      · exact curtails_access source found _ fun shown missing shows => by
          cases shows
          exact ⟨field, .member .here yields missing, rfl⟩
  | .subscript base key access => by
      rw [value, value]
      refine ((curtails_value all source base).mono fun _ => Undefined.deeper ?_).bind
        (fun found yields => ?_) fun _ => Composes.bind (composed_value OnlyNotes all source key)
          fun _ => composed_ofOutcome OnlyNotes _
      · exact List.mem_cons_self
      · refine ((curtails_value all source key).mono fun _ => Undefined.deeper ?_).bind
          (fun position yieldsKey => ?_) fun _ => composed_ofOutcome OnlyNotes _
        · exact List.mem_cons_of_mem base (List.mem_singleton_self key)
        · exact curtails_access source found position fun shown missing shows =>
            ⟨shown, .subscript .here yields yieldsKey missing shows, rfl⟩
  | .call callee arguments keywords => by
      rw [value, value]
      exact curtails_helper all source callee.dottedName? fun operation onlyNotes =>
        curtails_arguments all (List.Subset.refl _) (curtails_items all source arguments)
          (curtails_namedItems all source [] keywords) onlyNotes
  | .binary left .pipe right => by
      cases right with
      | call callee arguments keywords =>
          rw [value, value]
          refine ((curtails_value all source left).mono fun _ => Undefined.deeper ?_).bind
            (fun piped _ => ?_) fun piped => ?_
          · exact List.mem_cons_self
          · exact curtails_arguments all (List.subset_cons_self _ _)
              (curtails_items all source arguments) (curtails_namedItems all source [] keywords)
              (composed_applyFilter OnlyNotes all source callee.dottedName? piped)
          · exact Composes.bind (composed_items OnlyNotes all source arguments) fun _ =>
              Composes.bind (composed_namedItems OnlyNotes all source [] keywords) fun _ =>
                composed_applyFilter OnlyNotes all source _ _ _
      | _ =>
          rw [value, value]
          · refine ((curtails_value all source left).mono fun _ => Undefined.deeper ?_).bind
              (fun _ _ => .same _) fun _ => composed_applyFilter OnlyNotes all source _ _ _
            exact List.mem_singleton_self left
          all_goals nofun
  | .unary operator operand => by
      rw [value, value]
      refine ((curtails_value all source operand).mono fun _ => Undefined.deeper ?_).bind
        (fun _ _ => .same _) fun _ => composed_ofOutcome OnlyNotes _
      exact List.mem_singleton_self operand
  | .list elements _ => by
      rw [value, value]
      exact ((curtails_items all source elements).mono fun _ =>
        UndefinedAmong.within (List.Subset.refl _)).bind
        (fun _ _ => .same _) fun _ => Composes.pure _
  | .tuple elements _ => by
      rw [value, value]
      exact ((curtails_items all source elements).mono fun _ =>
        UndefinedAmong.within (List.Subset.refl _)).bind
        (fun _ _ => .same _) fun _ => Composes.pure _
  | .dict pairs => by
      rw [value, value]
      exact ((curtails_entries all source [] pairs).mono fun _ =>
        UndefinedAmong.within (List.Subset.refl _)).bind
        (fun _ _ => .same _) fun _ => Composes.pure _
  | .binary _ (.beyond _) _ => by
      rw [value, value]
      · exact .same _
      all_goals nofun
  | .beyond _ _ => by
      rw [value, value]
      · exact .same _
      all_goals nofun

theorem curtails_items (all : Engine.All OnlyNotes ⟨filters, false⟩ scope) (source : String) :
    ∀ expressions : List Expr,
      Curtails (UndefinedAmong ⟨filters, true⟩ scope source expressions)
        (items ⟨filters, true⟩ scope source expressions)
        (items ⟨filters, false⟩ scope source expressions)
  | [] => by
      rw [items, items]
      exact .same _
  | first :: rest => by
      rw [items, items]
      refine ((curtails_value all source first).mono fun _ undefined =>
        ⟨first, List.mem_cons_self, undefined⟩).bind (fun _ _ => ?_) fun _ =>
          Composes.bind (composed_items OnlyNotes all source rest) fun _ => Composes.pure _
      exact ((curtails_items all source rest).mono fun _ =>
        UndefinedAmong.mono (List.subset_cons_self first rest)).bind (fun _ _ => .same _)
          fun _ => Composes.pure _

theorem curtails_namedItems (all : Engine.All OnlyNotes ⟨filters, false⟩ scope) (source : String)
    (collected : List (String × Value)) :
    ∀ keywords : List (Option String × Expr),
      Curtails (UndefinedAmong ⟨filters, true⟩ scope source (keywords.map Prod.snd))
        (namedItems ⟨filters, true⟩ scope source collected keywords)
        (namedItems ⟨filters, false⟩ scope source collected keywords)
  | [] => by
      rw [namedItems, namedItems]
      exact .same _
  | (none, _) :: rest => by
      rw [namedItems, namedItems]
      exact (curtails_namedItems all source collected rest).mono fun _ =>
        UndefinedAmong.mono (List.subset_cons_self _ _)
  | (some keyword, expression) :: rest => by
      rw [namedItems, namedItems]
      refine ((curtails_value all source expression).mono fun _ undefined =>
        ⟨expression, List.mem_cons_self, undefined⟩).bind (fun _ _ => ?_) fun _ =>
          composed_namedItems OnlyNotes all source _ rest
      exact (curtails_namedItems all source _ rest).mono fun _ =>
        UndefinedAmong.mono (List.subset_cons_self _ _)

theorem curtails_entries (all : Engine.All OnlyNotes ⟨filters, false⟩ scope) (source : String)
    (collected : Entries) :
    ∀ pairs : List (Option Expr × Expr),
      Curtails (UndefinedAmong ⟨filters, true⟩ scope source
          (pairs.flatMap fun pair => pair.1.toList ++ [pair.2]))
        (entries ⟨filters, true⟩ scope source collected pairs)
        (entries ⟨filters, false⟩ scope source collected pairs)
  | [] => by
      rw [entries, entries]
      exact .same _
  | (none, _) :: rest => by
      rw [entries, entries]
      exact (curtails_entries all source collected rest).mono fun _ =>
        UndefinedAmong.mono (List.subset_append_right _ _)
  | (some key, expression) :: rest => by
      rw [entries, entries]
      have entryOperands : [key, expression] ⊆
          ((some key, expression) :: rest).flatMap fun pair => pair.1.toList ++ [pair.2] :=
        List.subset_append_left _ _
      refine ((curtails_value all source key).mono fun _ undefined =>
        ⟨key, entryOperands List.mem_cons_self, undefined⟩).bind (fun _ _ => ?_) fun _ =>
          Composes.bind (composed_value OnlyNotes all source expression) fun _ =>
            Composes.bind (composed_ofOutcome OnlyNotes _) fun _ =>
              composed_entries OnlyNotes all source _ rest
      refine ((curtails_value all source expression).mono fun _ undefined =>
        ⟨expression, entryOperands (List.mem_cons_of_mem key (List.mem_singleton_self _)),
          undefined⟩).bind (fun _ _ => ?_) fun _ =>
            Composes.bind (composed_ofOutcome OnlyNotes _) fun _ =>
              composed_entries OnlyNotes all source _ rest
      exact Curtails.bind (.same _) (fun _ _ => (curtails_entries all source _ rest).mono fun _ =>
        UndefinedAmong.mono (List.subset_append_right _ _)) fun _ =>
          composed_entries OnlyNotes all source _ rest

end

end SideBySide

end Evaluate

/-! ### Expressions and templates -/

namespace Engine

open DeferredText.Action

variable {σ : Type}

section SideBySide

variable {filters : List (String × Operation (σ × List Note))} {scope : Scope (σ × List Note)}

/-- The failure reports something that is undefined in one of the expressions. -/
def UndefinedIn
    (engine : Engine σ)
    (scope : Scope σ)
    (expressions : List String)
    (failure : Failure) : Prop :=
  ∃ expression ∈ expressions, ∃ tree, Template.readExpression expression = .ok tree ∧
    Evaluate.Undefined engine scope expression tree failure

theorem curtails_evaluate (all : Engine.All OnlyNotes ⟨filters, false⟩ scope) (expression : String) :
    Curtails (UndefinedIn ⟨filters, true⟩ scope [expression])
      (evaluate ⟨filters, true⟩ scope expression) (evaluate ⟨filters, false⟩ scope expression) := by
  refine Curtails.bind (.same _) (fun tree reads => ?_) fun tree =>
    Composes.mapFailure (Evaluate.composed_value OnlyNotes all expression tree) _
  refine Curtails.mono (Curtails.mapFailure (Evaluate.curtails_value all expression tree) ?_)
    fun _ undefined => ⟨expression, List.mem_singleton_self _, tree, reads.of_ofOutcome, undefined⟩
  rintro _ ⟨missing, -, rfl⟩
  rfl

theorem curtails_renderSegments (all : Engine.All OnlyNotes ⟨filters, false⟩ scope)
    (segments : List Segment) :
    Curtails (UndefinedIn ⟨filters, true⟩ scope (segments.filterMap fun segment =>
        segment.body?.map fun body => String.ofList (trimBlank body)))
      (renderSegments ⟨filters, true⟩ scope segments)
      (renderSegments ⟨filters, false⟩ scope segments) := by
  induction segments with
  | nil => exact .same _
  | cons segment rest inductionHypothesis =>
      cases segment with
      | literal character =>
          exact inductionHypothesis.bind (fun _ _ => .same _) fun _ => Composes.pure _
      | expression body =>
          have others := composed_renderSegments OnlyNotes all rest
          refine ((curtails_evaluate all _).mono ?_).bind (fun value _ => ?_) fun value =>
            Composes.bind (composed_ofOutcome OnlyNotes _) fun _ =>
              Composes.bind others fun _ => Composes.pure _
          · rintro failure ⟨expression, member, undefined⟩
            exact ⟨expression, List.mem_cons.mpr (.inl (List.mem_singleton.mp member)), undefined⟩
          · refine Curtails.bind (.same _) (fun inserted _ => ?_) fun _ =>
              Composes.bind others fun _ => Composes.pure _
            refine (inductionHypothesis.mono ?_).bind (fun _ _ => .same _) fun _ => Composes.pure _
            rintro failure ⟨expression, member, undefined⟩
            exact ⟨expression, List.mem_cons_of_mem _ member, undefined⟩

end SideBySide

theorem onlyNotes_noting (engine : Engine σ) (scope : Scope σ) :
    engine.noting.All OnlyNotes scope.noting where
  filters := by
    intro name operation found arguments before
    rw [filter?_noting, Option.map_eq_some_iff] at found
    obtain ⟨original, -, rfl⟩ := found
    exact List.prefix_append _ _
  helpers := by
    intro name operation found arguments before
    obtain ⟨original, -, rfl⟩ := Option.map_eq_some_iff.mp found
    exact List.prefix_append _ _

end Engine

namespace Evaluate

variable {σ : Type} {engine : Engine σ} {scope : Scope σ} {source : String}

/-- What is undefined to an engine that takes notes is so to one that takes none. -/
theorem Absence.of_noting {tree : Expr} {missing : String}
    (absence : Absence engine.noting scope.noting source tree missing) :
    Absence engine scope source tree missing := by
  cases absence with
  | name inside unbound noConstant => exact .name inside unbound noConstant
  | member inside yields isMissing => exact .member inside (yields_of_noting yields) isMissing
  | subscript inside yields yieldsKey isMissing shows =>
      exact .subscript inside (yields_of_noting yields) (yields_of_noting yieldsKey) isMissing shows

end Evaluate

/-- An engine that is strict does what one that is not does, with the same calls, or it stops early
with a report of something undefined. -/
theorem Engine.curtails_render {σ : Type} (filters : List (String × Operation σ)) (scope : Scope σ)
    (template : Value) (state : σ) :
    ((⟨filters, true⟩ : Engine σ).render scope template state =
        (⟨filters, false⟩ : Engine σ).render scope template state ∧
      (⟨filters, true⟩ : Engine σ).calls scope template state =
        (⟨filters, false⟩ : Engine σ).calls scope template state) ∨
    ∃ content failure, template = .text content ∧
      UndefinedIn ⟨filters, true⟩ { scope with data := templateData scope.data }
        (Template.expressions content) failure ∧
      ((⟨filters, true⟩ : Engine σ).render scope template state).1 = .error (.failed failure) ∧
      (⟨filters, true⟩ : Engine σ).calls scope template state <+:
        (⟨filters, false⟩ : Engine σ).calls scope template state := by
  cases template with
  | text content =>
      have strictNoted := render_noting ⟨filters, true⟩ scope (.text content) state
      have lenientNoted := render_noting ⟨filters, false⟩ scope (.text content) state
      rcases curtails_renderSegments
        (onlyNotes_noting ⟨filters, false⟩ { scope with data := templateData scope.data })
        (Segment.cut content.toList) (state, []) with
        same | ⟨failure, after, undefined, stops, earlier⟩
      · have sameNoted := strictNoted.symm.trans (same.trans lenientNoted)
        obtain ⟨sameEnd, sameRest⟩ := Prod.mk.inj sameNoted
        obtain ⟨sameState, sameCalls⟩ := Prod.mk.inj sameRest
        exact .inl ⟨Prod.ext sameEnd sameState, sameCalls⟩
      · obtain ⟨expression, member, tree, reads, missing, absence, isReport⟩ := undefined
        refine .inr ⟨content, failure, rfl,
          ⟨expression, member, tree, reads, missing, absence.of_noting, isReport⟩, ?_, ?_⟩
        · exact congrArg Prod.fst (strictNoted.symm.trans stops)
        · have strictCalls : (⟨filters, true⟩ : Engine σ).calls scope (.text content) state =
              after.2 := congrArg (fun ended => ended.2.2) stops
          rw [strictCalls]
          exact earlier
  | _ => exact .inl ⟨rfl, rfl⟩

/-- The engine, made strict about undefined accesses. -/
def Engine.strictly
    {σ : Type}
    (engine : Engine σ) : Engine σ :=
  { engine with strict := true }

/-- The engine, made to take undefined accesses as absent values. -/
def Engine.leniently
    {σ : Type}
    (engine : Engine σ) : Engine σ :=
  { engine with strict := false }

/-- Strict rendering only adds errors. If it succeeds, lenient rendering has the same outcome, and
makes the same calls of filters and helpers with the same arguments. If it fails where lenient
rendering succeeds, it does so with a report of a name, an attribute or a key that is undefined in
an expression of the template, and its calls are the first ones of the lenient rendering. -/
theorem strictness_adds_errors {σ : Type} (engine : Engine σ) (scope : Scope σ) (template : Value)
    (state : σ) :
    (∀ rendered, (engine.strictly.render scope template state).1 = .ok rendered →
      engine.leniently.render scope template state = engine.strictly.render scope template state ∧
      engine.leniently.calls scope template state = engine.strictly.calls scope template state) ∧
    ∀ rendered stop, (engine.leniently.render scope template state).1 = .ok rendered →
      (engine.strictly.render scope template state).1 = .error stop →
        (∃ content expression tree missing, template = .text content ∧
          expression ∈ Template.expressions content ∧
          Template.readExpression expression = .ok tree ∧
          Evaluate.Absence engine.strictly { scope with data := templateData scope.data } expression
            tree missing ∧
          stop = .failed (.reported (Evaluate.undefinedReport expression missing)) ∧
          (Evaluate.undefinedReport expression missing).code = "TEMPLATE_ERROR") ∧
        engine.strictly.calls scope template state <+:
          engine.leniently.calls scope template state := by
  have sides := Engine.curtails_render engine.filters scope template state
  constructor
  · intro rendered succeeds
    rcases sides with ⟨same, sameCalls⟩ | ⟨_, failure, -, -, fails, -⟩
    · exact ⟨same.symm, sameCalls.symm⟩
    · cases succeeds.symm.trans fails
  · intro rendered stop succeeds stops
    rcases sides with ⟨same, -⟩ | ⟨content, failure, isText, undefined, fails, earlier⟩
    · cases stops.symm.trans ((congrArg Prod.fst same).trans succeeds)
    · obtain ⟨expression, member, tree, reads, missing, absence, rfl⟩ := undefined
      refine ⟨⟨content, expression, tree, missing, isText, member, reads, absence, ?_, rfl⟩, earlier⟩
      exact Except.error.inj (stops.symm.trans fails)

namespace Sample

def replying : Scope Unit where
  data := .dict []
  helpers := fun name => if name = "f" then some fun _ => pure (.text "y") else none

/-- A name that is undefined between two calls of a helper. -/
def interrupted : Value :=
  .text "\x7b\x7b f() \x7d\x7d\x7b\x7b x \x7d\x7d\x7b\x7b f(1) \x7d\x7d"

def bareEngine : Engine Unit := ⟨[], false⟩

/-- Without the name both engines do the same; with it the strict one stops after the first call. -/
theorem strictness_interrupts :
    bareEngine.leniently.render replying (.text "\x7b\x7b f() \x7d\x7d") () =
        bareEngine.strictly.render replying (.text "\x7b\x7b f() \x7d\x7d") () ∧
      (bareEngine.leniently.render replying interrupted ()).1 =
        .ok ⟨"yy", ["f()", "x", "f(1)"]⟩ ∧
      (bareEngine.strictly.render replying interrupted ()).1 =
        .error (.failed (.reported (Evaluate.undefinedReport "x" "x"))) ∧
      (bareEngine.strictly.calls replying interrupted ()).map Note.name = ["f"] ∧
      bareEngine.strictly.calls replying interrupted () <+:
        bareEngine.leniently.calls replying interrupted () := by
  have defined : (bareEngine.strictly.render replying (.text "\x7b\x7b f() \x7d\x7d") ()).1 =
      .ok ⟨"y", ["f()"]⟩ := by
    cbv
  have succeeds : (bareEngine.leniently.render replying interrupted ()).1 =
      .ok ⟨"yy", ["f()", "x", "f(1)"]⟩ := by
    cbv
  have stops : (bareEngine.strictly.render replying interrupted ()).1 =
      .error (.failed (.reported (Evaluate.undefinedReport "x" "x"))) := by
    cbv
  have same := ((strictness_adds_errors bareEngine replying _ ()).1 _ defined).1
  have earlier := ((strictness_adds_errors bareEngine replying interrupted ()).2 _ _ succeeds
    stops).2
  exact ⟨same, succeeds, stops, by cbv, earlier⟩

end Sample

end DeferredText
