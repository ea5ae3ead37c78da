import DeferredText.Proofs.Delimited

/-!
Contract: the ways in which rendering a template fails.

Most failures are reports about the template, or come out of a helper or filter that the template
calls. What is left are oversights, places where a value of a wrong kind is not looked at before it
is used: a sign before something that is no number, a key that cannot be one, an integer too long to
be written out, and a null character in the text of an expression.

Owns: where the failures of an evaluation come from, and the oversights by their occasions.

Does not own: which expressions are refused (`Proofs.Permitted`) and what helpers do.
-/

namespace DeferredText

/-! ### Actions that fail -/

namespace Action

variable {σ α β : Type} {action : Action σ α} {next : α → Action σ β} {failure : Failure}

/-- In some state the action fails in this way. -/
def Raises
    (action : Action σ α)
    (failure : Failure) : Prop :=
  ∃ before after, action before = (.error (.failed failure), after)

/-- In some state the action has this result. -/
def Yields
    (action : Action σ α)
    (result : α) : Prop :=
  ∃ before after, action before = (.ok result, after)

theorem Raises.of_bind (raises : Raises (action >>= next) failure) :
    Raises action failure ∨ ∃ result, Yields action result ∧ Raises (next result) failure := by
  obtain ⟨before, after, failed⟩ := raises
  rw [bind_eq] at failed
  rcases first : action before with ⟨stop | result, middle⟩
  · rw [first] at failed
    cases failed
    exact .inl ⟨before, after, first⟩
  · rw [first] at failed
    exact .inr ⟨result, ⟨before, middle, first⟩, middle, after, failed⟩

theorem not_raises_pure (result : α) : ¬ Raises (pure result : Action σ α) failure :=
  fun ⟨_, _, failed⟩ => nomatch failed

theorem Raises.of_fail {raised : Failure} (raises : Raises (fail raised : Action σ α) failure) :
    failure = raised := by
  obtain ⟨before, after, failed⟩ := raises
  cases failed
  rfl

theorem Raises.of_ofOutcome {outcome : Outcome α}
    (raises : Raises (ofOutcome outcome : Action σ α) failure) : outcome = .error failure := by
  cases outcome with
  | ok result => exact (not_raises_pure result raises).elim
  | error raised => rw [raises.of_fail]

theorem Yields.of_ofOutcome {outcome : Outcome α} {result : α}
    (yields : Yields (ofOutcome outcome : Action σ α) result) : outcome = .ok result := by
  obtain ⟨before, after, returned⟩ := yields
  exact (ofOutcome_ok returned).1

theorem not_raises_attempt (action : Action σ α) : ¬ Raises (attempt action) failure := by
  rintro ⟨before, after, failed⟩
  rw [attempt] at failed
  rcases ended : action before with ⟨(_ | _ | _) | _, _⟩ <;> rw [ended] at failed <;> cases failed

theorem Yields.of_attempt {raised : Failure} (yields : Yields (attempt action) (.error raised)) :
    Raises action raised := by
  obtain ⟨before, after, attempted⟩ := yields
  rw [attempt] at attempted
  rcases ended : action before with ⟨(_ | _ | _) | _, _⟩ <;> rw [ended] at attempted <;>
    cases attempted
  exact ⟨before, after, ended⟩

end Action

/-! ### Texts of values -/

/-- The outcome fails only because an integer is too long to be written out. -/
def FailsByLength {α : Type} (outcome : Outcome α) : Prop :=
  ∀ failure, outcome = .error failure → failure = .digitLimit

namespace FailsByLength

variable {α β : Type}

theorem ok (result : α) : FailsByLength (.ok result) :=
  nofun

theorem bind {outcome : Outcome α} {next : α → Outcome β} (first : FailsByLength outcome)
    (second : ∀ result, FailsByLength (next result)) : FailsByLength (outcome >>= next) := by
  cases outcome with
  | ok result => exact second result
  | error raised =>
      intro failure fails
      cases fails
      exact first raised rfl

end FailsByLength

theorem failsByLength_integerText (number : Int) : FailsByLength (integerText number) := by
  intro failure fails
  rw [integerText] at fails
  split at fails <;> cases fails
  rfl

mutual

theorem failsByLength_quoted : ∀ value : Value, FailsByLength value.quoted
  | .none | .bool _ | .float _ | .complex _ _ | .text _ | .bytes _ | .ellipsis | .object _ _
  | .opaqueOf _ => by
      rw [Value.quoted]
      exact .ok _
  | .int number => by
      rw [Value.quoted]
      exact failsByLength_integerText number
  | .list items => by
      rw [Value.quoted]
      exact (failsByLength_quotedItems items).bind fun _ => .ok _
  | .tuple items => by
      rw [Value.quoted]
      exact (failsByLength_quotedItems items).bind fun _ => .ok _
  | .dict entries => by
      rw [Value.quoted]
      exact (failsByLength_quotedEntries entries).bind fun _ => .ok _
  | .exception kind arguments => by
      rw [Value.quoted]
      exact (failsByLength_quotedItems arguments).bind fun _ => .ok _

theorem failsByLength_quotedItems : ∀ items : List Value, FailsByLength (Value.quotedItems items)
  | [] => by
      rw [Value.quotedItems]
      exact .ok _
  | item :: rest => by
      rw [Value.quotedItems]
      exact (failsByLength_quoted item).bind fun _ =>
        (failsByLength_quotedItems rest).bind fun _ => .ok _

theorem failsByLength_quotedEntries :
    ∀ entries : List (Value × Value), FailsByLength (Value.quotedEntries entries)
  | [] => by
      rw [Value.quotedEntries]
      exact .ok _
  | (key, value) :: rest => by
      rw [Value.quotedEntries]
      exact (failsByLength_quoted key).bind fun _ => (failsByLength_quoted value).bind fun _ =>
        (failsByLength_quotedEntries rest).bind fun _ => .ok _

end

mutual

theorem failsByLength_display : ∀ value : Value, FailsByLength value.display
  | .text content => by
      rw [Value.display]
      exact .ok _
  | .exception kind arguments => by
      rw [Value.display]
      exact failsByLength_exceptionMessage kind arguments
  | .none | .bool _ | .int _ | .float _ | .complex _ _ | .bytes _ | .ellipsis | .list _
  | .tuple _ | .dict _ | .object _ _ | .opaqueOf _ => by
      rw [Value.display]
      · exact failsByLength_quoted _
      all_goals nofun

theorem failsByLength_exceptionMessage (kind : ErrorKind) (arguments : List Value) :
    FailsByLength (exceptionMessage kind arguments) := by
  have anyText (value : Value) : FailsByLength (exceptionMessage.textOrQuoted value) := by
    rw [exceptionMessage.textOrQuoted.eq_def]
    split
    · exact .ok _
    · exact failsByLength_quoted _
  have all : FailsByLength (do return Value.tupleText (← Value.quotedItems arguments)) :=
    (failsByLength_quotedItems arguments).bind fun _ => .ok _
  rw [exceptionMessage.eq_def]
  split
  · exact failsByLength_quoted _
  · exact .ok _
  · exact failsByLength_display _
  · split
    · refine (anyText _).bind fun _ => (anyText _).bind fun _ => ?_
      split
      · exact .ok _
      · split
        · exact (failsByLength_quoted _).bind fun _ => .ok _
        · exact (failsByLength_quoted _).bind fun _ => (failsByLength_quoted _).bind fun _ => .ok _
    · exact all
  · exact all

end

theorem failsByLength_message : ∀ failure : Failure, FailsByLength failure.message
  | .raised kind arguments => failsByLength_exceptionMessage kind arguments
  | .reported report => by
      rw [Failure.message, Report.text]
      split
      · exact (failsByLength_display _).bind fun _ => .ok _
      · exact .ok _

/-! ### Where failures come from -/

namespace Failure

/-- A report about the template: an expression is invalid, unsupported or undefined, a filter
failed, or a helper is missing. -/
def IsDocumented : Failure → Prop
  | .reported report => report.code = "TEMPLATE_ERROR" ∨ report.code = "HELPER_NOT_FOUND"
  | .raised _ _ => False

end Failure

namespace Expr

/-- The name of the filter that an expression on the right side of a pipe spells. -/
def filterName? : Expr → Option String
  | .call callee _ _ => callee.dottedName?
  | other => other.dottedName?

variable {σ : Type}

/-- The operations that an evaluation of a tree may call, by the names in the tree. -/
inductive Calls (engine : Engine σ) (scope : Scope σ) (tree : Expr) : Operation σ → Prop where
  | helper {callee : Expr} {arguments : List Expr} {keywords : List (Option String × Expr)}
      {name : String} {operation : Operation σ}
      (inside : Part (.call callee arguments keywords) tree)
      (spells : callee.dottedName? = some name) (found : scope.helpers name = some operation) :
      Calls engine scope tree operation
  | filter {left right : Expr} {name : String} {operation : Operation σ}
      (inside : Part (.binary left .pipe right) tree) (spells : right.filterName? = some name)
      (found : engine.filter? name = some operation ∨ scope.helpers name = some operation) :
      Calls engine scope tree operation

end Expr

namespace Evaluate

open DeferredText.Action DeferredText.Expr

variable {σ : Type}

/-- What is not looked at before it is used, when a tree is evaluated. -/
inductive Oversight (engine : Engine σ) (scope : Scope σ) (source : String) (tree : Expr) :
    Failure → Prop where
  /-- A sign before something that is no number. -/
  | sign {operator : UnaryOperator} {operand : Expr} {found : Value} {failure : Failure}
      (inside : Part (.unary operator operand) tree)
      (yields : Yields (value engine scope source operand) found)
      (unsigned : signed operator found = .error failure) :
      Oversight engine scope source tree failure
  /-- A mapping that is asked for something that cannot be a key. -/
  | subscript {base key : Expr} {access : Access} {entries : Entries} {found : Value}
      {typeName : String} (inside : Part (.subscript base key access) tree)
      (isMapping : Yields (value engine scope source base) (.dict entries))
      (yields : Yields (value engine scope source key) found)
      (noKey : found.unhashable? = some typeName) :
      Oversight engine scope source tree (.unhashable typeName)
  /-- A display of a mapping with something that cannot be a key. -/
  | display {pairs : List (Option Expr × Expr)} {key expression : Expr} {found : Value}
      {typeName : String} (inside : Part (.dict pairs) tree)
      (member : (some key, expression) ∈ pairs)
      (yields : Yields (value engine scope source key) found)
      (noKey : found.unhashable? = some typeName) :
      Oversight engine scope source tree (.unhashable typeName)
  /-- An undefined access whose key is too long to be named. -/
  | undefined {base key : Expr} {access : Access} {found : Value}
      (inside : Part (.subscript base key access) tree)
      (yields : Yields (value engine scope source key) found)
      (long : found.display = .error .digitLimit) :
      Oversight engine scope source tree .digitLimit
  /-- A failure of a filter that is too long to be told. -/
  | filter {left right : Expr} {name : String} {operation : Operation σ} {arguments : Arguments}
      {raised : Failure} (inside : Part (.binary left .pipe right) tree)
      (spells : right.filterName? = some name) (found : engine.filter? name = some operation)
      (raises : Raises (operation arguments) raised)
      (long : raised.message = .error .digitLimit) :
      Oversight engine scope source tree .digitLimit

/-- Where a failure of an evaluation comes from. -/
inductive Fault (engine : Engine σ) (scope : Scope σ) (source : String) (tree : Expr)
    (failure : Failure) : Prop where
  | documented (isDocumented : failure.IsDocumented)
  | called {operation : Operation σ} {arguments : Arguments}
      (calls : Calls engine scope tree operation) (raises : Raises (operation arguments) failure)
  | overseen (oversight : Oversight engine scope source tree failure)

variable {engine : Engine σ} {scope : Scope σ} {source : String} {operand expression : Expr}
  {failure : Failure}

theorem Fault.deeper (isOperand : operand ∈ expression.operands)
    (fault : Fault engine scope source operand failure) :
    Fault engine scope source expression failure := by
  cases fault with
  | documented isDocumented => exact .documented isDocumented
  | called calls raises =>
      refine .called ?_ raises
      cases calls with
      | helper inside spells found => exact .helper (.deeper isOperand inside) spells found
      | filter inside spells found => exact .filter (.deeper isOperand inside) spells found
  | overseen oversight =>
      refine .overseen ?_
      cases oversight with
      | sign inside yields unsigned => exact .sign (.deeper isOperand inside) yields unsigned
      | subscript inside isMapping yields noKey =>
          exact .subscript (.deeper isOperand inside) isMapping yields noKey
      | display inside member yields noKey =>
          exact .display (.deeper isOperand inside) member yields noKey
      | undefined inside yields long => exact .undefined (.deeper isOperand inside) yields long
      | filter inside spells found raises long =>
          exact .filter (.deeper isOperand inside) spells found raises long

theorem documented_of_undefined {name : String}
    (fails : undefined engine source name = .error failure) : failure.IsDocumented := by
  rw [undefined] at fails
  split at fails <;> cases fails
  exact .inl rfl

/-- A name in a mapping of data is there, or undefined. -/
theorem documented_of_name {entries : Entries} {identifier : String}
    (fails : name engine (.dict entries) source identifier = .error failure) :
    failure.IsDocumented := by
  rw [name, Value.bindsName] at fails
  dsimp only [bind, Except.bind] at fails
  split at fails
  · rename_i binds
    obtain ⟨bound, gets⟩ := Option.isSome_iff_exists.mp binds
    rw [Value.boundTo, gets] at fails
    cases fails
  · split at fails
    · cases fails
    · exact documented_of_undefined fails

theorem access?_error {base key : Value} (fails : base.access? key = .error failure) :
    ∃ entries typeName, base = .dict entries ∧ key.unhashable? = some typeName ∧
      failure = .unhashable typeName := by
  rw [Value.access?.eq_def] at fails
  split at fails
  · rename_i entries
    split at fails
    · rename_i typeName noKey
      exact ⟨entries, typeName, rfl, noKey, (Except.error.inj fails).symm⟩
    · cases fails
  · split at fails
    · cases fails
    · split at fails <;> cases fails

theorem access_error {base key : Value} (fails : access engine source base key = .error failure) :
    failure.IsDocumented ∨
      (∃ entries typeName, base = .dict entries ∧ key.unhashable? = some typeName ∧
        failure = .unhashable typeName) ∨
      (key.display = .error .digitLimit ∧ failure = .digitLimit) := by
  rw [access] at fails
  rcases asked : base.access? key with refused | _ | found
  · rw [asked] at fails
    obtain rfl := Except.error.inj fails
    exact .inr (.inl (access?_error asked))
  · rw [asked] at fails
    dsimp only [bind, Except.bind] at fails
    cases shown : key.display with
    | error raised =>
        rw [shown] at fails
        obtain rfl := Except.error.inj fails
        obtain rfl := failsByLength_display key raised shown
        exact .inr (.inr ⟨rfl, rfl⟩)
    | ok text =>
        rw [shown] at fails
        exact .inl (documented_of_undefined fails)
  · rw [asked] at fails
    cases fails

theorem documented_of_helper {called : Option String}
    (raises : Raises (helper scope source called) failure) : failure.IsDocumented := by
  rw [helper] at raises
  split at raises
  · exact (not_raises_pure _ raises).elim
  · rw [raises.of_fail]
    exact .inr rfl

theorem insertEntry_error {entries : Entries} {key found : Value}
    (fails : insertEntry entries key found = .error failure) :
    ∃ typeName, key.unhashable? = some typeName ∧ failure = .unhashable typeName := by
  rw [insertEntry] at fails
  split at fails
  · rename_i typeName noKey
    exact ⟨typeName, noKey, (Except.error.inj fails).symm⟩
  · cases fails

/-- A filter that fails is reported, or its failure is passed on or too long to be told. -/
theorem Fault.of_applyFilter {left right : Expr} {piped : Value} {arguments : Arguments}
    {called : Option String} (spells : called = right.filterName?)
    (raises : Raises (applyFilter engine scope source called piped arguments) failure) :
    Fault engine scope source (.binary left .pipe right) failure := by
  rw [applyFilter] at raises
  dsimp only at raises
  cases isFilter : called.bind engine.filter? with
  | some operation =>
      obtain ⟨name, rfl, found⟩ := Option.bind_eq_some_iff.mp isFilter
      rw [isFilter] at raises
      dsimp only at raises
      rcases raises.of_bind with attempted | ⟨outcome, yields, further⟩
      · exact (not_raises_attempt _ attempted).elim
      · cases outcome with
        | ok result => exact (not_raises_pure result further).elim
        | error raised =>
            have fails := yields.of_attempt
            dsimp only at further
            split at further
            · rcases further.of_bind with noText | ⟨text, -, reported⟩
              · have long := noText.of_ofOutcome
                obtain rfl := failsByLength_message raised failure long
                exact .overseen (.filter .here spells.symm found fails long)
              · rw [reported.of_fail]
                exact .documented (.inl rfl)
            · rw [further.of_fail]
              exact .called (.filter .here spells.symm (.inl found)) fails
  | none =>
      rw [isFilter] at raises
      dsimp only at raises
      cases isHelper : called.bind scope.helpers with
      | some operation =>
          obtain ⟨name, rfl, found⟩ := Option.bind_eq_some_iff.mp isHelper
          rw [isHelper] at raises
          exact .called (.filter .here spells.symm (.inr found)) raises
      | none =>
          rw [isHelper] at raises
          rw [raises.of_fail]
          exact .documented (.inl rfl)

mutual

/-- Every failure of an evaluation has one of these origins. -/
theorem fault_value {entries : Entries} (isMapping : scope.data = .dict entries) :
    ∀ (expression : Expr) (failure : Failure),
      Raises (value engine scope source expression) failure →
        Fault engine scope source expression failure
  | .constant literal, failure, raises => by
      rw [value] at raises
      exact (not_raises_pure _ raises).elim
  | .name identifier access, failure, raises => by
      rw [value, isMapping] at raises
      exact .documented (documented_of_name raises.of_ofOutcome)
  | .member base field access, failure, raises => by
      rw [value] at raises
      rcases raises.of_bind with inBase | ⟨found, -, accesses⟩
      · exact (fault_value isMapping base failure inBase).deeper List.mem_cons_self
      · rcases access_error accesses.of_ofOutcome with
          isDocumented | ⟨entries, typeName, -, noKey, -⟩ | ⟨long, -⟩
        · exact .documented isDocumented
        · cases noKey
        · rw [Value.display] at long
          cases long
  | .subscript base key access, failure, raises => by
      rw [value] at raises
      rcases raises.of_bind with inBase | ⟨found, yieldsBase, afterBase⟩
      · exact (fault_value isMapping base failure inBase).deeper List.mem_cons_self
      · rcases afterBase.of_bind with inKey | ⟨position, yieldsKey, accesses⟩
        · exact (fault_value isMapping key failure inKey).deeper
            (List.mem_cons_of_mem base List.mem_cons_self)
        · rcases access_error accesses.of_ofOutcome with
            isDocumented | ⟨entries, typeName, rfl, noKey, rfl⟩ | ⟨long, rfl⟩
          · exact .documented isDocumented
          · exact .overseen (.subscript .here yieldsBase yieldsKey noKey)
          · exact .overseen (.undefined .here yieldsKey long)
  | .call callee arguments keywords, failure, raises => by
      rw [value] at raises
      rcases raises.of_bind with missing | ⟨operation, helps, afterHelper⟩
      · exact .documented (documented_of_helper missing)
      · rcases afterHelper.of_bind with inItems | ⟨positional, -, afterItems⟩
        · obtain ⟨item, member, fault⟩ := fault_items isMapping arguments failure inItems
          exact fault.deeper (List.mem_append_left _ member)
        · rcases afterItems.of_bind with inNamed | ⟨named, -, calls⟩
          · obtain ⟨item, member, fault⟩ := fault_namedItems isMapping [] keywords failure inNamed
            exact fault.deeper (List.mem_append_right _ member)
          · obtain ⟨start, middle, helped⟩ := helps
            obtain ⟨name, spells, found⟩ := Option.bind_eq_some_iff.mp (helper_ok helped).1
            exact .called (.helper .here spells found) calls
  | .binary left .pipe right, failure, raises => by
      cases right with
      | call callee arguments keywords =>
          rw [value] at raises
          rcases raises.of_bind with inLeft | ⟨piped, -, afterLeft⟩
          · exact (fault_value isMapping left failure inLeft).deeper List.mem_cons_self
          · rcases afterLeft.of_bind with inItems | ⟨positional, -, afterItems⟩
            · obtain ⟨item, member, fault⟩ := fault_items isMapping arguments failure inItems
              exact fault.deeper (List.mem_cons_of_mem left (List.mem_append_left _ member))
            · rcases afterItems.of_bind with inNamed | ⟨named, -, applies⟩
              · obtain ⟨item, member, fault⟩ :=
                  fault_namedItems isMapping [] keywords failure inNamed
                exact fault.deeper (List.mem_cons_of_mem left (List.mem_append_right _ member))
              · exact .of_applyFilter rfl applies
      | _ =>
          rw [value] at raises
          · rcases raises.of_bind with inLeft | ⟨piped, -, applies⟩
            · exact (fault_value isMapping left failure inLeft).deeper List.mem_cons_self
            · exact .of_applyFilter rfl applies
          · nofun
  | .unary operator operand, failure, raises => by
      rw [value] at raises
      rcases raises.of_bind with inOperand | ⟨found, yields, signs⟩
      · exact (fault_value isMapping operand failure inOperand).deeper List.mem_cons_self
      · exact .overseen (.sign .here yields signs.of_ofOutcome)
  | .list elements access, failure, raises => by
      rw [value] at raises
      rcases raises.of_bind with inItems | ⟨values, -, returns⟩
      · obtain ⟨item, member, fault⟩ := fault_items isMapping elements failure inItems
        exact fault.deeper member
      · exact (not_raises_pure _ returns).elim
  | .tuple elements access, failure, raises => by
      rw [value] at raises
      rcases raises.of_bind with inItems | ⟨values, -, returns⟩
      · obtain ⟨item, member, fault⟩ := fault_items isMapping elements failure inItems
        exact fault.deeper member
      · exact (not_raises_pure _ returns).elim
  | .dict pairs, failure, raises => by
      rw [value] at raises
      rcases raises.of_bind with inEntries | ⟨collected, -, returns⟩
      · rcases fault_entries isMapping [] pairs failure inEntries with
          ⟨item, pair, member, isIts, fault⟩ |
            ⟨key, expression, found, typeName, member, yields, noKey, rfl⟩
        · exact fault.deeper (List.mem_flatMap.mpr ⟨pair, member, isIts⟩)
        · exact .overseen (.display .here member yields noKey)
      · exact (not_raises_pure _ returns).elim
  | .binary _ (.beyond _) _, failure, raises => by
      rw [value] at raises
      · rw [raises.of_fail]
        exact .documented (.inl rfl)
      all_goals nofun
  | .beyond construct parts, failure, raises => by
      rw [value] at raises
      · rw [raises.of_fail]
        exact .documented (.inl rfl)
      all_goals nofun

theorem fault_items {entries : Entries} (isMapping : scope.data = .dict entries) :
    ∀ (expressions : List Expr) (failure : Failure),
      Raises (items engine scope source expressions) failure →
        ∃ item ∈ expressions, Fault engine scope source item failure
  | [], failure, raises => by
      rw [items] at raises
      exact (not_raises_pure _ raises).elim
  | first :: rest, failure, raises => by
      rw [items] at raises
      rcases raises.of_bind with inFirst | ⟨head, -, afterFirst⟩
      · exact ⟨first, List.mem_cons_self, fault_value isMapping first failure inFirst⟩
      · rcases afterFirst.of_bind with inRest | ⟨others, -, returns⟩
        · obtain ⟨item, member, fault⟩ := fault_items isMapping rest failure inRest
          exact ⟨item, List.mem_cons_of_mem first member, fault⟩
        · exact (not_raises_pure _ returns).elim

theorem fault_namedItems {entries : Entries} (isMapping : scope.data = .dict entries)
    (collected : List (String × Value)) :
    ∀ (keywords : List (Option String × Expr)) (failure : Failure),
      Raises (namedItems engine scope source collected keywords) failure →
        ∃ item ∈ keywords.map Prod.snd, Fault engine scope source item failure
  | [], failure, raises => by
      rw [namedItems] at raises
      exact (not_raises_pure _ raises).elim
  | (none, _) :: rest, failure, raises => by
      rw [namedItems] at raises
      obtain ⟨item, member, fault⟩ := fault_namedItems isMapping collected rest failure raises
      exact ⟨item, List.mem_cons_of_mem _ member, fault⟩
  | (some keyword, expression) :: rest, failure, raises => by
      rw [namedItems] at raises
      rcases raises.of_bind with inFirst | ⟨argument, -, inRest⟩
      · exact ⟨expression, List.mem_cons_self, fault_value isMapping expression failure inFirst⟩
      · obtain ⟨item, member, fault⟩ := fault_namedItems isMapping _ rest failure inRest
        exact ⟨item, List.mem_cons_of_mem _ member, fault⟩

theorem fault_entries {entries : Entries} (isMapping : scope.data = .dict entries)
    (collected : Entries) :
    ∀ (pairs : List (Option Expr × Expr)) (failure : Failure),
      Raises (Evaluate.entries engine scope source collected pairs) failure →
        (∃ item, ∃ pair ∈ pairs, item ∈ pair.1.toList ++ [pair.2] ∧
          Fault engine scope source item failure) ∨
        ∃ key expression found typeName, (some key, expression) ∈ pairs ∧
          Yields (value engine scope source key) found ∧ found.unhashable? = some typeName ∧
          failure = .unhashable typeName
  | [], failure, raises => by
      rw [Evaluate.entries] at raises
      exact (not_raises_pure _ raises).elim
  | (none, _) :: rest, failure, raises => by
      rw [Evaluate.entries] at raises
      rcases fault_entries isMapping collected rest failure raises with
        ⟨item, pair, member, further⟩ | ⟨key, expression, found, typeName, member, further⟩
      · exact .inl ⟨item, pair, List.mem_cons_of_mem _ member, further⟩
      · exact .inr ⟨key, expression, found, typeName, List.mem_cons_of_mem _ member, further⟩
  | (some key, expression) :: rest, failure, raises => by
      rw [Evaluate.entries] at raises
      rcases raises.of_bind with inKey | ⟨keyValue, yields, afterKey⟩
      · exact .inl ⟨key, _, List.mem_cons_self, List.mem_cons_self,
          fault_value isMapping key failure inKey⟩
      · rcases afterKey.of_bind with inValue | ⟨entryValue, -, afterValue⟩
        · exact .inl ⟨expression, _, List.mem_cons_self,
            List.mem_cons_of_mem key List.mem_cons_self,
            fault_value isMapping expression failure inValue⟩
        · rcases afterValue.of_bind with inserts | ⟨extended, -, inRest⟩
          · obtain ⟨typeName, noKey, rfl⟩ := insertEntry_error inserts.of_ofOutcome
            exact .inr ⟨key, expression, keyValue, typeName, List.mem_cons_self, yields, noKey,
              rfl⟩
          · rcases fault_entries isMapping extended rest failure inRest with
              ⟨item, pair, member, further⟩ | ⟨other, value, found, typeName, member, further⟩
            · exact .inl ⟨item, pair, List.mem_cons_of_mem _ member, further⟩
            · exact .inr ⟨other, value, found, typeName, List.mem_cons_of_mem _ member, further⟩

end

end Evaluate

/-! ### Failures of a rendering -/

namespace Engine

open DeferredText.Action

variable {σ : Type} {engine : Engine σ} {scope : Scope σ} {failure : Failure}
  {expression content : String}

end Engine

namespace Sample

end Sample

end DeferredText
