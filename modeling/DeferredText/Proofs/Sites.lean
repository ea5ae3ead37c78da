import DeferredText.Proofs.Noted
import DeferredText.Proofs.Weaving

/-!
Contract: the order of calls, read off the expressions.

Where an expression calls something can be seen from its tree: at its calls, and at its filters,
where a call on the right side of a pipe belongs to the filter. A successful evaluation goes
through these sites from the inside out and from left to right, and makes one call at each. The
helpers that a template is said to call come from a walk over the same tree, level by level, so
they are the same names in another order.

Owns: sites in the order of their calls, which call belongs to a site, and the sites among the
nodes of the walk.

Does not own: the notes of calls (`Proofs.Noted`).
-/

namespace DeferredText

namespace Expr

mutual

/-- Where an expression calls something: at its calls and filters, each after the sites in its
operands, from left to right. -/
def sites : Expr → List Expr
  | .member base _ _ => base.sites
  | .subscript base key _ => base.sites ++ key.sites
  | .call callee arguments keywords =>
      sitesOfItems arguments ++ sitesOfKeywords keywords ++ [.call callee arguments keywords]
  | .list items _ => sitesOfItems items
  | .tuple items _ => sitesOfItems items
  | .dict entries => sitesOfEntries entries
  | .binary left .pipe (.call callee arguments keywords) =>
      left.sites ++ (sitesOfItems arguments ++ sitesOfKeywords keywords) ++
        [.binary left .pipe (.call callee arguments keywords)]
  | .binary left .pipe right => left.sites ++ [.binary left .pipe right]
  | .unary _ operand => operand.sites
  | _ => []

def sitesOfItems : List Expr → List Expr
  | [] => []
  | item :: rest => item.sites ++ sitesOfItems rest

def sitesOfKeywords : List (Option String × Expr) → List Expr
  | [] => []
  | (_, value) :: rest => value.sites ++ sitesOfKeywords rest

def sitesOfEntries : List (Option Expr × Expr) → List Expr
  | [] => []
  | (none, value) :: rest => value.sites ++ sitesOfEntries rest
  | (some key, value) :: rest => key.sites ++ value.sites ++ sitesOfEntries rest

end

variable {σ : Type}

/-- The expression has the value, in some state and wherever it stands. -/
def Gives
    (engine : Engine σ)
    (scope : Scope σ)
    (expression : Expr)
    (found : Value) : Prop :=
  ∃ source, Action.Yields (Evaluate.value engine scope source expression) found

/-- The arguments are what the expressions of a call give, in their places and under their
names. -/
structure Supplies
    (engine : Engine σ)
    (scope : Scope σ)
    (arguments : List Expr)
    (keywords : List (Option String × Expr))
    (given : Arguments) : Prop where
  positional : List.Forall₂ (Gives engine scope) arguments given.positional
  names : ∀ name, name ∈ given.keywords.map Prod.fst ↔ some name ∈ keywords.map Prod.fst
  named : ∀ pair ∈ given.keywords, ∃ expression,
    (some pair.1, expression) ∈ keywords ∧ Gives engine scope expression pair.2

/-- The call belongs to the site: it is one of what the site names, with what the operands of the
site give; at a filter the piped value comes first. -/
inductive Makes (engine : Engine σ) (scope : Scope σ) : Expr → Note → Prop where
  | call {callee : Expr} {arguments : List Expr} {keywords : List (Option String × Expr)}
      {name : String} {given : Arguments} (spells : callee.dottedName? = some name)
      (supplies : Supplies engine scope arguments keywords given) :
      Makes engine scope (.call callee arguments keywords) ⟨false, name, given⟩
  | filterCall {left callee : Expr} {arguments : List Expr}
      {keywords : List (Option String × Expr)} {isFilter : Bool} {name : String} {piped : Value}
      {given : Arguments} (spells : callee.dottedName? = some name)
      (gives : Gives engine scope left piped)
      (supplies : Supplies engine scope arguments keywords given) :
      Makes engine scope (.binary left .pipe (.call callee arguments keywords))
        ⟨isFilter, name, { given with positional := piped :: given.positional }⟩
  | filter {left right : Expr} {isFilter : Bool} {name : String} {piped : Value}
      (spells : right.dottedName? = some name) (gives : Gives engine scope left piped) :
      Makes engine scope (.binary left .pipe right) ⟨isFilter, name, ⟨[piped], []⟩⟩

end Expr

/-! ### Calls of an evaluation -/

namespace Evaluate

open DeferredText.Action DeferredText.Expr

variable {σ : Type} {engine : Engine σ} {scope : Scope σ} {source : String}
  {before middle after : σ × List Note}

/-- Between two states one call was made at each site, in order. -/
def Tallies
    (engine : Engine σ)
    (scope : Scope σ)
    (sites : List Expr)
    (before after : σ × List Note) : Prop :=
  ∃ made, after.2 = before.2 ++ made ∧ List.Forall₂ (Makes engine scope) sites made

theorem Tallies.nothing (state : σ × List Note) : Tallies engine scope [] state state :=
  ⟨[], (List.append_nil _).symm, .nil⟩

theorem Tallies.append {first second : List Expr} (here : Tallies engine scope first before middle)
    (there : Tallies engine scope second middle after) :
    Tallies engine scope (first ++ second) before after := by
  obtain ⟨made, isMade, makes⟩ := here
  obtain ⟨more, isMore, makesMore⟩ := there
  refine ⟨made ++ more, ?_, List.rel_append makes makesMore⟩
  rw [isMore, isMade, List.append_assoc]

theorem Tallies.single {site : Expr} {note : Note} (isNoted : after.2 = before.2 ++ [note])
    (makes : Makes engine scope site note) : Tallies engine scope [site] before after :=
  ⟨[note], isNoted, .cons makes .nil⟩

/-- However an operation ends, the call of it has been noted. -/
theorem noted_noting {isFilter : Bool} {name : String} {original : Operation σ}
    {given : Arguments} {outcome : Except Stop Value}
    (calls : Operation.noting isFilter name original given before = (outcome, after)) :
    after.2 = before.2 ++ [⟨isFilter, name, given⟩] :=
  (congrArg (fun ended => ended.2.2) calls).symm

theorem noted_attempt {isFilter : Bool} {name : String} {original : Operation σ}
    {given : Arguments} {outcome : Except Failure Value}
    (attempts : attempt (Operation.noting isFilter name original given) before =
      (.ok outcome, after)) : after.2 = before.2 ++ [⟨isFilter, name, given⟩] := by
  rw [attempt] at attempts
  rcases calls : Operation.noting isFilter name original given before with
    ⟨(_ | _ | _) | _, reached⟩ <;> rw [calls] at attempts <;> cases attempts
  all_goals exact noted_noting calls

theorem helper_noting_ok {called : Option String} {operation : Operation (σ × List Note)}
    (helps : helper scope.noting source called before = (.ok operation, after)) :
    ∃ name original, called = some name ∧ operation = Operation.noting false name original ∧
      after = before := by
  obtain ⟨found, same⟩ := helper_ok helps
  obtain ⟨name, isCalled, isHelper⟩ := Option.bind_eq_some_iff.mp found
  obtain ⟨original, -, rfl⟩ := Option.map_eq_some_iff.mp isHelper
  exact ⟨name, original, isCalled, rfl, same⟩

/-- A filter that is applied notes one call, of a filter or else of a helper. -/
theorem applyFilter_noting_ok {called : Option String} {piped result : Value}
    {arguments : Arguments}
    (applies : applyFilter engine.noting scope.noting source called piped arguments before =
      (.ok result, after)) :
    ∃ isFilter name, called = some name ∧ after.2 = before.2 ++
      [⟨isFilter, name, { arguments with positional := piped :: arguments.positional }⟩] := by
  unfold applyFilter at applies
  dsimp only at applies
  cases filters : called.bind engine.noting.filter? with
  | some operation =>
      obtain ⟨name, isCalled, isFilter⟩ := Option.bind_eq_some_iff.mp filters
      rw [Engine.filter?_noting] at isFilter
      obtain ⟨original, -, rfl⟩ := Option.map_eq_some_iff.mp isFilter
      rw [filters] at applies
      obtain ⟨outcome, between, attempts, ends⟩ := bind_ok_cases applies
      have isNoted := noted_attempt attempts
      cases outcome with
      | error failure =>
          dsimp only at ends
          split at ends
          · obtain ⟨_, _, -, fails⟩ := bind_ok_cases ends
            cases fails
          · cases ends
      | ok found =>
          cases ends
          exact ⟨true, name, isCalled, isNoted⟩
  | none =>
      rw [filters] at applies
      dsimp only at applies
      cases helpers : called.bind scope.noting.helpers with
      | some operation =>
          obtain ⟨name, isCalled, isHelper⟩ := Option.bind_eq_some_iff.mp helpers
          obtain ⟨original, -, rfl⟩ := Option.map_eq_some_iff.mp isHelper
          rw [helpers] at applies
          exact ⟨false, name, isCalled, noted_noting applies⟩
      | none =>
          rw [helpers] at applies
          cases applies

theorem mem_names_setKeyword {collected : List (String × Value)} {name keyword : String}
    {value : Value} : keyword ∈ (Arguments.setKeyword collected name value).map Prod.fst ↔
      keyword ∈ collected.map Prod.fst ∨ keyword = name := by
  induction collected with
  | nil => simp [Arguments.setKeyword]
  | cons pair rest inductionHypothesis =>
      rw [Arguments.setKeyword]
      by_cases same : pair.1 = name
      · simp [same, or_comm]
      · simp [same, inductionHypothesis, or_assoc]

theorem of_mem_setKeyword {collected : List (String × Value)} {name : String} {value : Value}
    {pair : String × Value} (member : pair ∈ Arguments.setKeyword collected name value) :
    pair ∈ collected ∨ pair = (name, value) := by
  induction collected with
  | nil => exact .inr (List.mem_singleton.mp member)
  | cons first rest inductionHypothesis =>
      rw [Arguments.setKeyword] at member
      split at member
      · rcases List.mem_cons.mp member with same | later
        · exact .inr same
        · exact .inl (List.mem_cons_of_mem _ later)
      · rcases List.mem_cons.mp member with rfl | later
        · exact .inl List.mem_cons_self
        · exact (inductionHypothesis later).imp_left (List.mem_cons_of_mem _)

/-- The keywords of a call are those that its site names. -/
theorem names_namedItems {keywords : List (Option String × Expr)}
    {collected named : List (String × Value)}
    (collects : namedItems engine.noting scope.noting source collected keywords before =
      (.ok named, after)) (keyword : String) : keyword ∈ named.map Prod.fst ↔
        keyword ∈ collected.map Prod.fst ∨ some keyword ∈ keywords.map Prod.fst := by
  induction keywords generalizing collected before with
  | nil =>
      cases collects
      simp
  | cons head rest inductionHypothesis =>
      obtain ⟨_ | name, expression⟩ := head
      · rw [namedItems] at collects
        rw [inductionHypothesis collects]
        simp
      · rw [namedItems] at collects
        obtain ⟨_, between, -, further⟩ := bind_ok_cases collects
        rw [inductionHypothesis further, mem_names_setKeyword]
        simp [or_assoc]

theorem gives_of_value {expression : Expr} {found : Value}
    (evaluates : value engine.noting scope.noting source expression before = (.ok found, after)) :
    Gives engine scope expression found :=
  ⟨source, yields_of_noting ⟨before, after, evaluates⟩⟩

theorem gives_items {expressions : List Expr} {values : List Value}
    (evaluates : items engine.noting scope.noting source expressions before = (.ok values, after)) :
    List.Forall₂ (Gives engine scope) expressions values := by
  induction expressions generalizing values before with
  | nil =>
      cases evaluates
      exact .nil
  | cons first rest inductionHypothesis =>
      obtain ⟨_, _, between, rfl, evaluatesFirst, evaluatesRest⟩ := items_cons evaluates
      exact .cons (gives_of_value evaluatesFirst) (inductionHypothesis evaluatesRest)

/-- Under each keyword of a call stands what an expression of that keyword gives. -/
theorem gives_namedItems {keywords : List (Option String × Expr)}
    {collected named : List (String × Value)}
    (collects : namedItems engine.noting scope.noting source collected keywords before =
      (.ok named, after)) : ∀ pair ∈ named, pair ∈ collected ∨ ∃ expression,
        (some pair.1, expression) ∈ keywords ∧ Gives engine scope expression pair.2 := by
  induction keywords generalizing collected before with
  | nil =>
      cases collects
      exact fun pair member => .inl member
  | cons head rest inductionHypothesis =>
      intro pair member
      obtain ⟨_ | name, expression⟩ := head
      · rw [namedItems] at collects
        rcases inductionHypothesis collects pair member with isCollected | ⟨other, isOther, gives⟩
        · exact .inl isCollected
        · exact .inr ⟨other, List.mem_cons_of_mem _ isOther, gives⟩
      · rw [namedItems] at collects
        obtain ⟨found, between, evaluates, further⟩ := bind_ok_cases collects
        rcases inductionHypothesis further pair member with isCollected | ⟨other, isOther, gives⟩
        · rcases of_mem_setKeyword isCollected with earlier | rfl
          · exact .inl earlier
          · exact .inr ⟨expression, List.mem_cons_self, gives_of_value evaluates⟩
        · exact .inr ⟨other, List.mem_cons_of_mem _ isOther, gives⟩

theorem supplies_of_evaluated {arguments : List Expr} {keywords : List (Option String × Expr)}
    {positional : List Value} {named : List (String × Value)} {start middle last : σ × List Note}
    (evaluates : items engine.noting scope.noting source arguments start = (.ok positional, middle))
    (collects : namedItems engine.noting scope.noting source [] keywords middle =
      (.ok named, last)) : Supplies engine scope arguments keywords ⟨positional, named⟩ where
  positional := gives_items evaluates
  names := fun name => (names_namedItems collects name).trans (by simp)
  named := fun pair member =>
    (gives_namedItems collects pair member).resolve_left List.not_mem_nil

mutual

theorem tallies_value {found : Value} : ∀ {expression : Expr} {before after : σ × List Note},
    expression.Permitted (fun _ => True) False →
    value engine.noting scope.noting source expression before = (.ok found, after) →
      Tallies engine scope expression.sites before after
  | .constant _, before, after, _, evaluates => by
      rw [value] at evaluates
      cases evaluates
      exact .nothing before
  | .name _ _, before, after, _, evaluates => by
      rw [value] at evaluates
      obtain ⟨-, rfl⟩ := ofOutcome_ok evaluates
      exact .nothing after
  | .member base field _, before, after, permitted, evaluates => by
      rw [value] at evaluates
      obtain ⟨_, between, evaluatesBase, accesses⟩ := bind_ok_cases evaluates
      obtain ⟨-, rfl⟩ := ofOutcome_ok accesses
      rw [sites]
      exact tallies_value (permitted.operand (List.mem_singleton_self base)) evaluatesBase
  | .subscript base key _, before, after, permitted, evaluates => by
      rw [value] at evaluates
      obtain ⟨_, between, evaluatesBase, further⟩ := bind_ok_cases evaluates
      obtain ⟨_, last, evaluatesKey, accesses⟩ := bind_ok_cases further
      obtain ⟨-, rfl⟩ := ofOutcome_ok accesses
      rw [sites]
      exact (tallies_value (permitted.operand List.mem_cons_self) evaluatesBase).append
        (tallies_value (permitted.operand (List.mem_cons_of_mem _ List.mem_cons_self)) evaluatesKey)
  | .call callee arguments keywords, before, after, permitted, evaluates => by
      rw [value] at evaluates
      obtain ⟨operation, start, helps, further⟩ := bind_ok_cases evaluates
      obtain ⟨positional, between, evaluatesItems, more⟩ := bind_ok_cases further
      obtain ⟨named, last, collects, calls⟩ := bind_ok_cases more
      obtain ⟨name, original, spells, rfl, rfl⟩ := helper_noting_ok helps
      have isNoted := noted_noting calls
      cases permitted with
      | call _ _ inArguments isNamed inKeywords =>
          rw [sites]
          refine ((tallies_items inArguments evaluatesItems).append
            (tallies_namedItems isNamed inKeywords collects)).append (.single isNoted ?_)
          exact .call spells (supplies_of_evaluated evaluatesItems collects)
  | .binary left .pipe right, before, after, permitted, evaluates => by
      have inLeft : left.Permitted (fun _ => True) False := by
        cases permitted
        assumption
      have inRight : right.Permitted (fun _ => True) False := by
        cases permitted
        assumption
      cases right with
      | call callee arguments keywords =>
          rw [value] at evaluates
          obtain ⟨piped, start, evaluatesLeft, further⟩ := bind_ok_cases evaluates
          obtain ⟨positional, between, evaluatesItems, more⟩ := bind_ok_cases further
          obtain ⟨named, last, collects, applies⟩ := bind_ok_cases more
          obtain ⟨isFilter, name, spells, isNoted⟩ := applyFilter_noting_ok applies
          cases inRight with
          | call _ _ inArguments isNamed inKeywords =>
              rw [sites]
              refine ((tallies_value inLeft evaluatesLeft).append
                ((tallies_items inArguments evaluatesItems).append
                  (tallies_namedItems isNamed inKeywords collects))).append (.single isNoted ?_)
              exact .filterCall spells (gives_of_value evaluatesLeft)
                (supplies_of_evaluated evaluatesItems collects)
      | _ =>
          rw [value] at evaluates
          · obtain ⟨piped, between, evaluatesLeft, applies⟩ := bind_ok_cases evaluates
            obtain ⟨isFilter, name, spells, isNoted⟩ := applyFilter_noting_ok applies
            rw [sites]
            · exact (tallies_value inLeft evaluatesLeft).append
                (.single isNoted (.filter spells (gives_of_value evaluatesLeft)))
            · nofun
          · nofun
  | .unary operator operand, before, after, permitted, evaluates => by
      rw [value] at evaluates
      obtain ⟨_, between, evaluatesOperand, signs⟩ := bind_ok_cases evaluates
      obtain ⟨-, rfl⟩ := ofOutcome_ok signs
      rw [sites]
      exact tallies_value (permitted.operand (List.mem_singleton_self operand)) evaluatesOperand
  | .list elements _, before, after, permitted, evaluates => by
      rw [value] at evaluates
      obtain ⟨_, between, evaluatesItems, returns⟩ := bind_ok_cases evaluates
      cases returns
      rw [sites]
      exact tallies_items (fun _ member => permitted.operand member) evaluatesItems
  | .tuple elements _, before, after, permitted, evaluates => by
      rw [value] at evaluates
      obtain ⟨_, between, evaluatesItems, returns⟩ := bind_ok_cases evaluates
      cases returns
      rw [sites]
      exact tallies_items (fun _ member => permitted.operand member) evaluatesItems
  | .dict pairs, before, after, permitted, evaluates => by
      rw [value] at evaluates
      obtain ⟨_, between, evaluatesEntries, returns⟩ := bind_ok_cases evaluates
      cases returns
      cases permitted with
      | dict unpacks inKeys inValues =>
          rw [sites]
          exact tallies_entries unpacks inKeys inValues evaluatesEntries
  | .binary _ (.beyond _) _, before, after, permitted, _ => nomatch permitted
  | .beyond _ _, before, after, permitted, _ => nomatch permitted

theorem tallies_items : ∀ {expressions : List Expr} {values : List Value}
    {before after : σ × List Note},
    (∀ expression ∈ expressions, expression.Permitted (fun _ => True) False) →
    items engine.noting scope.noting source expressions before = (.ok values, after) →
      Tallies engine scope (sitesOfItems expressions) before after
  | [], _, before, after, _, evaluates => by
      rw [items] at evaluates
      cases evaluates
      exact .nothing before
  | first :: rest, _, before, after, permitted, evaluates => by
      obtain ⟨_, _, between, rfl, evaluatesFirst, evaluatesRest⟩ := items_cons evaluates
      rw [List.forall_mem_cons] at permitted
      rw [sitesOfItems]
      exact (tallies_value permitted.1 evaluatesFirst).append
        (tallies_items permitted.2 evaluatesRest)

theorem tallies_namedItems : ∀ {keywords : List (Option String × Expr)}
    {collected named : List (String × Value)} {before after : σ × List Note},
    (∀ keyword ∈ keywords, keyword.1 ≠ none) →
    (∀ keyword ∈ keywords, keyword.2.Permitted (fun _ => True) False) →
    namedItems engine.noting scope.noting source collected keywords before = (.ok named, after) →
      Tallies engine scope (sitesOfKeywords keywords) before after
  | [], _, _, before, after, _, _, collects => by
      rw [namedItems] at collects
      cases collects
      exact .nothing before
  | (none, _) :: _, _, _, _, _, isNamed, _, _ => absurd rfl (isNamed _ List.mem_cons_self)
  | (some keyword, expression) :: rest, _, _, before, after, isNamed, permitted, collects => by
      rw [namedItems] at collects
      obtain ⟨_, between, evaluates, further⟩ := bind_ok_cases collects
      rw [List.forall_mem_cons] at isNamed permitted
      rw [sitesOfKeywords]
      exact (tallies_value permitted.1 evaluates).append
        (tallies_namedItems isNamed.2 permitted.2 further)

theorem tallies_entries : ∀ {pairs : List (Option Expr × Expr)} {collected result : Entries}
    {before after : σ × List Note},
    (∀ pair ∈ pairs, pair.1 ≠ none) →
    (∀ pair ∈ pairs, ∀ key, pair.1 = some key → key.Permitted (fun _ => True) False) →
    (∀ pair ∈ pairs, pair.2.Permitted (fun _ => True) False) →
    entries engine.noting scope.noting source collected pairs before = (.ok result, after) →
      Tallies engine scope (sitesOfEntries pairs) before after
  | [], _, _, before, after, _, _, _, collects => by
      rw [entries] at collects
      cases collects
      exact .nothing before
  | (none, _) :: _, _, _, _, _, isKeyed, _, _, _ => absurd rfl (isKeyed _ List.mem_cons_self)
  | (some key, expression) :: rest, _, _, before, after, isKeyed, inKeys, inValues, collects => by
      rw [entries] at collects
      obtain ⟨_, first, evaluatesKey, furtherKey⟩ := bind_ok_cases collects
      obtain ⟨_, second, evaluatesValue, furtherValue⟩ := bind_ok_cases furtherKey
      obtain ⟨_, third, inserts, further⟩ := bind_ok_cases furtherValue
      obtain ⟨-, rfl⟩ := ofOutcome_ok inserts
      rw [List.forall_mem_cons] at isKeyed inKeys inValues
      rw [sitesOfEntries]
      exact ((tallies_value (inKeys.1 key rfl) evaluatesKey).append
        (tallies_value inValues.1 evaluatesValue)).append
          (tallies_entries isKeyed.2 inKeys.2 inValues.2 further)

end

end Evaluate

/-! ### Sites among the nodes of the walk -/

namespace Expr

/-- Whether a site is a call, and not a filter. -/
def isCall : Expr → Bool
  | .call _ _ _ => true
  | _ => false

/-- The name that a site calls. -/
def called? : Expr → Option String
  | .call callee _ _ => callee.dottedName?
  | .binary _ .pipe right => right.filterName?
  | _ => none

theorem filterName?_of_dottedName? {expression : Expr} {name : String}
    (spells : expression.dottedName? = some name) : expression.filterName? = some name := by
  cases expression <;> first | exact spells | cases spells

theorem Makes.called {σ : Type} {engine : Engine σ} {scope : Scope σ} {site : Expr} {note : Note}
    (makes : Makes engine scope site note) :
    site.called? = some note.name := by
  cases makes with
  | call spells => exact spells
  | filterCall spells => exact spells
  | filter spells => exact filterName?_of_dottedName? spells

/-- Nothing is called to spell a name. -/
theorem sites_of_dottedName? : ∀ {expression : Expr} {name : String},
    expression.dottedName? = some name → expression.sites = []
  | .name _ _, _, _ => rfl
  | .member base _ _, _, spells => by
      obtain ⟨spelled, isSpelled, -⟩ := Option.map_eq_some_iff.mp spells
      rw [sites, sites_of_dottedName? isSpelled]

theorem sitesOfItems_eq (items : List Expr) : sitesOfItems items = items.flatMap sites := by
  induction items with
  | nil => rfl
  | cons item rest inductionHypothesis =>
      rw [sitesOfItems, inductionHypothesis, List.flatMap_cons]

theorem sitesOfKeywords_eq (keywords : List (Option String × Expr)) :
    sitesOfKeywords keywords = keywords.flatMap fun keyword => keyword.2.sites := by
  induction keywords with
  | nil => rfl
  | cons keyword rest inductionHypothesis =>
      rw [sitesOfKeywords, inductionHypothesis, List.flatMap_cons]

/-- A display is gone through entry by entry, but its keys are listed before its values. -/
theorem sitesOfEntries_perm (entries : List (Option Expr × Expr)) :
    ((entries.filterMap Prod.fst).flatMap sites ++ entries.flatMap fun entry => entry.2.sites).Perm
      (sitesOfEntries entries) := by
  have sideBySide : sitesOfEntries entries = entries.flatMap fun entry =>
      entry.1.toList.flatMap sites ++ entry.2.sites := by
    induction entries with
    | nil => rfl
    | cons entry rest inductionHypothesis =>
        obtain ⟨_ | key, value⟩ := entry <;>
          simp [sitesOfEntries, inductionHypothesis]
  rw [sideBySide, List.filterMap_eq_flatMap_toList, List.flatMap_assoc]
  exact List.flatMap_append_perm entries _ _

end Expr

namespace Node

open DeferredText.Expr

/-- The call or the filter that a node is. A call on the right side of a pipe is part of the
filter. -/
def site? : Node → Option Expr
  | .expr .plain (.call callee arguments keywords) => some (.call callee arguments keywords)
  | .expr _ (.binary left .pipe right) => some (.binary left .pipe right)
  | _ => none

/-- The sites at and below a node, in the order of their calls. -/
def sites : Node → List Expr
  | .expr .plain expression => expression.sites
  | .expr .rightSide (.call _ arguments keywords) =>
      sitesOfItems arguments ++ sitesOfKeywords keywords
  | .expr .rightSide _ => []
  | .keyword _ value => value.sites

theorem helperCall?_eq (node : Node) :
    node.helperCall? = node.site?.bind fun site => if site.isCall then site.called? else none := by
  cases node with
  | keyword name value => rfl
  | expr role expression =>
      cases role <;> cases expression with
      | binary left operator right => cases operator <;> rfl
      | _ => rfl

/-- Whether a node is a display of a mapping that unpacks another mapping. -/
def unpacks : Node → Bool
  | .expr _ (.dict entries) => entries.any fun entry => entry.1.isNone
  | _ => false

theorem fits_of_unpacks {node : Node} (unpacksNothing : node.unpacks = false) :
    node.Fits (fun _ => True) False := by
  rw [Fits.eq_def]
  split
  · trivial
  · rename_i role entries
    intro entry member unkeyed
    have keyed := List.any_eq_false.mp unpacksNothing entry member
    rw [unkeyed] at keyed
    exact keyed rfl
  · trivial

/-- A node of an expression that is evaluated: it is in order, its sites have names, and it names
a filter if it stands on the right side of a pipe. -/
structure Callable (node : Node) : Prop where
  sound : Throughout (Sound (fun _ => True) False) node
  named : ∀ site ∈ node.sites, site.called? ≠ none
  names : ∀ expression, node = .expr .rightSide expression → expression.filterName? ≠ none

variable {node part : Node}

theorem sites_binary (left right : Expr) : (Expr.binary left .pipe right).sites =
    left.sites ++ (Node.expr .rightSide right).sites ++ [.binary left .pipe right] := by
  cases right <;> simp [Expr.sites, sites]

theorem flatMap_plain (items : List Expr) :
    (items.map plain).flatMap sites = items.flatMap Expr.sites := by
  rw [List.flatMap_map]
  rfl

theorem flatMap_accessMark {access : Access} : (accessMark access).flatMap sites = [] := by
  cases access <;> rfl

theorem flatMap_unaryMark {operator : UnaryOperator} : (unaryMark operator).flatMap sites = [] := by
  cases operator <;> rfl

/-- The operands of a call, as parts of its node, have the sites that come before the call. -/
theorem flatMap_parts_call {callee : Expr} {name : String} (spells : callee.dottedName? = some name)
    (arguments : List Expr) (keywords : List (Option String × Expr)) :
    (partsOf (.call callee arguments keywords)).flatMap sites =
      sitesOfItems arguments ++ sitesOfKeywords keywords := by
  have inCallee : (plain callee).sites = [] := sites_of_dottedName? spells
  rw [partsOf, List.flatMap_append, List.flatMap_cons, inCallee, flatMap_plain, List.flatMap_map,
    sitesOfItems_eq, sitesOfKeywords_eq]
  rfl

/-- What names a filter is not itself a site, and has the sites of its parts. -/
theorem flatMap_parts_filter {right : Expr} {name : String}
    (spells : right.filterName? = some name) :
    (Node.expr .rightSide right).site? = none ∧
      (partsOf right).flatMap sites = (Node.expr .rightSide right).sites := by
  cases right with
  | call callee arguments keywords => exact ⟨rfl, flatMap_parts_call spells arguments keywords⟩
  | name identifier access => exact ⟨rfl, flatMap_accessMark⟩
  | member base field access =>
      obtain ⟨spelled, isSpelled, -⟩ := Option.map_eq_some_iff.mp spells
      have inBase : (plain base).sites = [] := sites_of_dottedName? isSpelled
      refine ⟨rfl, ?_⟩
      rw [partsOf, List.flatMap_cons, inBase, flatMap_accessMark]
      rfl
  | _ => cases spells

/-- The sites of a node are those of its parts, and the node itself if it is one. -/
theorem Callable.sites_perm (callable : node.Callable) :
    (node.site?.toList ++ node.parts.flatMap sites).Perm node.sites := by
  cases node with
  | keyword name value => simp [site?, parts, sites, plain]
  | expr role expression =>
      cases role with
      | rightSide =>
          obtain ⟨name, spells⟩ := Option.ne_none_iff_exists'.mp (callable.names expression rfl)
          obtain ⟨noSite, inParts⟩ := flatMap_parts_filter spells
          rw [noSite, parts, inParts]
          exact .refl _
      | plain =>
          rw [parts]
          cases expression with
          | constant | name => simp [site?, partsOf, sites, Expr.sites, flatMap_accessMark]
          | member | subscript =>
              simp [site?, partsOf, sites, Expr.sites, flatMap_accessMark, plain]
          | list | tuple =>
              simp [site?, partsOf, sites, Expr.sites, flatMap_accessMark, flatMap_plain,
                sitesOfItems_eq]
          | call callee arguments keywords =>
              have clear := clear_iff.mp callable.sound
              obtain ⟨name, spells⟩ := Option.ne_none_iff_exists'.mp clear.1
              rw [flatMap_parts_call spells, sites, Expr.sites]
              exact List.perm_append_comm
          | dict entries =>
              rw [partsOf, List.flatMap_append, flatMap_plain, List.flatMap_map, sites, Expr.sites]
              exact sitesOfEntries_perm entries
          | binary left operator right =>
              obtain ⟨rfl, -⟩ := clear_iff.mp callable.sound
              rw [sites, sites_binary]
              simp only [site?, partsOf, binaryMark, plain, sites, Option.toList_some,
                List.flatMap_append, List.flatMap_cons, List.flatMap_nil, List.append_nil]
              exact List.perm_append_comm
          | unary operator operand =>
              simp [site?, partsOf, sites, Expr.sites, flatMap_unaryMark, plain]
          | beyond construct inner => exact absurd callable.sound (not_clear_beyond construct inner)

/-- Only a binary operator has a right side. -/
theorem rightSide_mem_partsOf {whole right : Expr}
    (isPart : Node.expr .rightSide right ∈ partsOf whole) :
    ∃ left operator, whole = .binary left operator right := by
  have notPlain (items : List Expr) : Node.expr .rightSide right ∉ items.map plain := by
    simp [plain]
  have noMark (access : Access) : Node.expr .rightSide right ∉ accessMark access := by
    cases access <;> simp [accessMark, plain]
  cases whole with
  | binary left operator other =>
      cases operator <;> simp [partsOf, binaryMark, plain] at isPart <;>
        exact ⟨left, _, by rw [isPart]⟩
  | unary operator operand => cases operator <;> simp [partsOf, unaryMark, plain] at isPart
  | dict entries => simp [partsOf, plain] at isPart
  | _ => simp [partsOf, plain, notPlain, noMark] at isPart

/-- What is said of a node holds of its parts as well. -/
theorem Callable.deeper (callable : node.Callable) (isPart : part ∈ node.parts) :
    part.Callable where
  sound := (throughout_iff.mp callable.sound).2 part isPart
  named := fun site isSite => callable.named site (callable.sites_perm.subset
    (List.mem_append_right _ (List.mem_flatMap.mpr ⟨part, isPart, isSite⟩)))
  names := by
    rintro right rfl
    cases node with
    | keyword name value => cases List.mem_singleton.mp isPart
    | expr role whole =>
        obtain ⟨left, operator, rfl⟩ := rightSide_mem_partsOf isPart
        cases role with
        | rightSide => exact absurd rfl (callable.names _ rfl)
        | plain =>
            obtain ⟨rfl, -⟩ := clear_iff.mp callable.sound
            refine callable.named (.binary left .pipe right) ?_
            rw [sites, sites_binary]
            exact List.mem_append_right _ (List.mem_singleton_self _)

/-- Going down level by level meets each site once. -/
theorem levels_perm {depth : Nat} {level : List Node} (enough : ∀ node ∈ level, node.weight ≤ depth)
    (callable : ∀ node ∈ level, node.Callable) :
    ((levels depth level).filterMap site?).Perm (level.flatMap sites) := by
  induction depth generalizing level with
  | zero =>
      cases level with
      | nil => exact .refl _
      | cons node rest =>
          exact absurd (enough node List.mem_cons_self) (Nat.not_le_of_lt node.weight_pos)
  | succ depth inductionHypothesis =>
      rw [levels]
      split
      · rename_i isEmpty
        rw [List.isEmpty_iff.mp isEmpty]
        exact .refl _
      · have below : ((levels depth (level.flatMap parts)).filterMap site?).Perm
            (level.flatMap fun node => node.parts.flatMap sites) := by
          rw [← List.flatMap_assoc]
          refine inductionHypothesis (fun part isPart => ?_) fun part isPart => ?_
          · obtain ⟨node, isNode, among⟩ := List.mem_flatMap.mp isPart
            exact Nat.le_of_lt_succ ((weight_lt among).trans_le (enough node isNode))
          · obtain ⟨node, isNode, among⟩ := List.mem_flatMap.mp isPart
            exact (callable node isNode).deeper among
        rw [List.filterMap_append, List.filterMap_eq_flatMap_toList _ level]
        exact (below.append_left _).trans ((List.flatMap_append_perm level _ _).trans
          (List.Perm.flatMap_left level fun node isNode => (callable node isNode).sites_perm))

end Node

namespace Expr

open Node

/-- No display of a mapping in the expression unpacks another mapping. -/
def UnpacksNothing (expression : Expr) : Prop :=
  ∀ node ∈ expression.walk, node.unpacks = false

instance (expression : Expr) : Decidable expression.UnpacksNothing :=
  inferInstanceAs (Decidable (∀ node ∈ expression.walk, node.unpacks = false))

theorem UnpacksNothing.permitted {expression : Expr} (unpacksNothing : expression.UnpacksNothing)
    (accepted : expression.problems = []) : expression.Permitted (fun _ => True) False := by
  rw [problems, List.filterMap_eq_nil_iff] at accepted
  rw [permitted_iff]
  intro node member
  exact ⟨accepted node member, fits_of_unpacks (unpacksNothing node member)⟩

/-- The sites of an expression are the calls and filters among its nodes, each of them once. -/
theorem sites_perm {expression : Expr} (permitted : expression.Permitted (fun _ => True) False)
    (named : ∀ site ∈ expression.sites, site.called? ≠ none) :
    (expression.walk.filterMap Node.site?).Perm expression.sites := by
  have callable : (plain expression).Callable := ⟨permitted.clear, named, nofun⟩
  have within : (expression.walk.filterMap Node.site?).Perm ([plain expression].flatMap Node.sites) :=
    levels_perm (List.forall_mem_singleton.mpr (Nat.le_succ _))
      (List.forall_mem_singleton.mpr callable)
  rwa [List.flatMap_singleton] at within

/-- The helpers that an expression is said to call are what its sites that are calls name. -/
theorem helperCalls_perm {expression : Expr}
    (isPerm : (expression.walk.filterMap Node.site?).Perm expression.sites) :
    expression.helperCalls.Perm (expression.sites.filterMap fun site =>
      if site.isCall then site.called? else none) := by
  have split : expression.helperCalls = (expression.walk.filterMap Node.site?).filterMap
      fun site => if site.isCall then site.called? else none := by
    rw [helperCalls, List.filterMap_filterMap]
    exact List.filterMap_congr fun node _ => node.helperCall?_eq
  rw [split]
  exact isPerm.filterMap _

end Expr

/-! ### Reading the expressions of a text -/

theorem mem_of_forall₂ {α β : Type} {relation : α → β → Prop} {left : List α} {right : List β}
    {item : α} (each : List.Forall₂ relation left right) (member : item ∈ left) :
    ∃ other ∈ right, relation item other := by
  induction each with
  | nil => cases member
  | cons related _ inductionHypothesis =>
      rcases List.mem_cons.mp member with rfl | later
      · exact ⟨_, List.mem_cons_self, related⟩
      · obtain ⟨other, isOther, relates⟩ := inductionHypothesis later
        exact ⟨other, List.mem_cons_of_mem _ isOther, relates⟩

namespace Template

/-- The expressions are read as the trees, one by one. -/
def AreRead : List String → List Expr → Prop :=
  List.Forall₂ fun expression tree => readExpression expression = .ok tree

/-- An expression that is read has no problems, and is read the same without blanks. -/
theorem of_readExpression {expression : String} {tree : Expr}
    (reads : readExpression expression = .ok tree) :
    syntaxOf (trimBlank expression.toList) = .ok (some tree) ∧ tree.problems = [] := by
  rw [readExpression] at reads
  rcases found : syntaxOf (trimBlank expression.toList) with failure | _ | other <;>
    rw [found] at reads
  · cases reads
  · cases reads
  · dsimp only [bind, Except.bind] at reads
    split at reads
    · rename_i noProblem
      cases reads
      exact ⟨rfl, List.isEmpty_iff.mp noProblem⟩
    · cases reads

/-- Expressions are found without the blanks around them. -/
theorem trimmed_of_mem {content expression : String} (member : expression ∈ expressions content) :
    trimBlank expression.toList = expression.toList := by
  obtain ⟨segment, -, isBody⟩ := List.mem_filterMap.mp member
  obtain ⟨body, -, rfl⟩ := Option.map_eq_some_iff.mp isBody
  rw [String.toList_ofList, trimBlank_trimBlank]

theorem AreRead.mem {found : List String} {trees : List Expr} {tree : Expr}
    (areRead : AreRead found trees) (member : tree ∈ trees) :
    ∃ expression ∈ found, readExpression expression = .ok tree := by
  obtain ⟨expression, isFound, reads⟩ := mem_of_forall₂ areRead.flip member
  exact ⟨expression, isFound, reads⟩

/-- What is made of each expression, if it is made of the tree that the expression is read as. -/
theorem AreRead.mapM {α : Type} {found : List String} {trees : List Expr} {use : String → Outcome α}
    {result : Expr → α} (areRead : AreRead found trees)
    (uses : ∀ expression ∈ found, ∀ tree, readExpression expression = .ok tree →
      use expression = .ok (result tree)) : found.mapM use = .ok (trees.map result) := by
  induction areRead with
  | nil => rfl
  | @cons expression tree others further reads _ inductionHypothesis =>
      rw [List.forall_mem_cons] at uses
      rw [List.mapM_cons, uses.1 tree reads, inductionHypothesis uses.2]
      rfl

/-- The helpers that a text calls are those of its expressions, if all of them can be read. -/
theorem helperCalls_of_reads {content : String} {trees : List Expr}
    (areRead : AreRead (expressions content) trees) :
    helperCalls content = .ok (trees.flatMap Expr.helperCalls) := by
  rw [helperCalls, @AreRead.mapM _ _ _ _ Expr.helperCalls areRead ?_, List.flatMap_def]
  · rfl
  · intro expression member tree reads
    rw [← trimmed_of_mem member, (of_readExpression reads).1]
    rfl

end Template

/-! ### Calls of a rendering -/

namespace Engine

open DeferredText.Action DeferredText.Expr Template

variable {σ : Type} {engine : Engine σ} {scope : Scope σ} {after : σ × List Note}

/-- An expression that is evaluated was read, and one call was made at each of its sites. -/
theorem tallies_evaluate {expression : String} {found : Value} {before : σ × List Note}
    (evaluates : engine.noting.evaluate scope.noting expression before = (.ok found, after)) :
    ∃ tree, readExpression expression = .ok tree ∧
      (tree.Permitted (fun _ => True) False → Evaluate.Tallies engine scope tree.sites before after) := by
  obtain ⟨tree, between, reads, evaluated⟩ := bind_ok_cases evaluates
  obtain ⟨isRead, rfl⟩ := ofOutcome_ok reads
  refine ⟨tree, isRead, fun permitted => ?_⟩
  rw [mapFailure] at evaluated
  split at evaluated
  · cases evaluated
  · exact Evaluate.tallies_value permitted evaluated

/-- A text that is rendered makes the calls of its expressions, one expression after another. -/
theorem tallies_renderSegments {segments : List Segment} {rendered : Rendered}
    {before : σ × List Note}
    (renders : engine.noting.renderSegments scope.noting segments before = (.ok rendered, after)) :
    ∃ trees, AreRead (segments.filterMap fun segment =>
        segment.body?.map fun body => String.ofList (trimBlank body)) trees ∧
      ((∀ tree ∈ trees, tree.Permitted (fun _ => True) False) →
        Evaluate.Tallies engine scope (trees.flatMap sites) before after) := by
  induction segments generalizing rendered before with
  | nil =>
      cases renders
      exact ⟨[], .nil, fun _ => .nothing _⟩
  | cons segment rest inductionHypothesis =>
      cases segment with
      | literal character =>
          rw [renderSegments] at renders
          obtain ⟨further, between, behind, returns⟩ := bind_ok_cases renders
          cases returns
          exact inductionHypothesis behind
      | expression body =>
          rw [renderSegments] at renders
          obtain ⟨found, first, evaluates, renders⟩ := bind_ok_cases renders
          obtain ⟨text, second, inserts, renders⟩ := bind_ok_cases renders
          obtain ⟨further, between, behind, returns⟩ := bind_ok_cases renders
          obtain ⟨-, rfl⟩ := ofOutcome_ok inserts
          cases returns
          obtain ⟨tree, reads, tallies⟩ := tallies_evaluate evaluates
          obtain ⟨trees, readsRest, talliesRest⟩ := inductionHypothesis behind
          refine ⟨tree :: trees, .cons reads readsRest, fun permitted => ?_⟩
          rw [List.forall_mem_cons] at permitted
          rw [List.flatMap_cons]
          exact (tallies permitted.1).append (talliesRest permitted.2)

theorem tallies_render {content : String} {rendered : Rendered} {before : σ × List Note}
    (renders : engine.noting.render scope.noting (.text content) before = (.ok rendered, after)) :
    ∃ trees, AreRead (expressions content) trees ∧
      ((∀ tree ∈ trees, tree.Permitted (fun _ => True) False) →
        Evaluate.Tallies engine { scope with data := templateData scope.data }
          (trees.flatMap sites) before after) :=
  @tallies_renderSegments _ _ { scope with data := templateData scope.data } _ _ _ _ renders

end Engine

/-- The calls that belong to sites that are calls have the names that these sites name. -/
theorem Expr.names_of_makes {σ : Type} {engine : Engine σ} {scope : Scope σ} {sites : List Expr}
    {notes : List Note} (makes : List.Forall₂ (Expr.Makes engine scope) sites notes) :
    ((sites.zip notes).filter fun made => made.1.isCall).map (fun made => made.2.name) =
      sites.filterMap fun site => if site.isCall then site.called? else none := by
  induction makes with
  | nil => rfl
  | @cons site note sites notes made _ inductionHypothesis =>
      rw [List.zip_cons_cons, List.filter_cons]
      cases isCall : site.isCall with
      | false => simp [isCall, inductionHypothesis]
      | true => simp [isCall, made.called, inductionHypothesis]

/-- A rendering that succeeds makes one call at each site of its expressions, with what the operands
of the site give, in the order of the expressions and within an expression in the order of its
sites. The sites of an expression are the calls and filters among its nodes, each of them once, and
those sites that are calls name what the template is said to call, in some order. -/
theorem calls_in_order {σ : Type} (engine : Engine σ) (scope : Scope σ) (content : String)
    (before after : σ) (rendered : Rendered)
    (renders : engine.render scope (.text content) before = (.ok rendered, after))
    (unpacksNothing : ∀ expression ∈ Template.expressions content, ∀ tree,
      Template.readExpression expression = .ok tree → tree.UnpacksNothing) :
    ∃ trees names, Template.AreRead (Template.expressions content) trees ∧
      Template.helperCalls content = .ok names ∧
      List.Forall₂ (Expr.Makes engine { scope with data := templateData scope.data })
        (trees.flatMap Expr.sites) (engine.calls scope (.text content) before) ∧
      (∀ tree ∈ trees, (tree.walk.filterMap Node.site?).Perm tree.sites) ∧
      ((((trees.flatMap Expr.sites).zip (engine.calls scope (.text content) before)).filter
        fun made => made.1.isCall).map fun made => made.2.name).Perm names := by
  have noted := engine.render_noting scope (.text content) before
  rw [renders] at noted
  obtain ⟨trees, areRead, tallies⟩ := Engine.tallies_render noted
  have permitted : ∀ tree ∈ trees, tree.Permitted (fun _ => True) False := by
    intro tree member
    obtain ⟨expression, isExpression, reads⟩ := areRead.mem member
    exact (unpacksNothing expression isExpression tree reads).permitted
      (Template.of_readExpression reads).2
  obtain ⟨made, isMade, makes⟩ := tallies permitted
  obtain rfl : engine.calls scope (.text content) before = made := isMade
  have named : ∀ site ∈ trees.flatMap Expr.sites, site.called? ≠ none := by
    intro site member
    obtain ⟨note, -, itsNote⟩ := mem_of_forall₂ makes member
    exact itsNote.called ▸ nofun
  have perm : ∀ tree ∈ trees, (tree.walk.filterMap Node.site?).Perm tree.sites := fun tree member =>
    Expr.sites_perm (permitted tree member) fun site isSite =>
      named site (List.mem_flatMap.mpr ⟨tree, member, isSite⟩)
  refine ⟨trees, _, areRead, Template.helperCalls_of_reads areRead, makes, perm, ?_⟩
  rw [Expr.names_of_makes makes, List.filterMap_flatMap]
  exact .symm (List.Perm.flatMap_left trees fun tree member =>
    Expr.helperCalls_perm (perm tree member))

namespace Sample

/-- A helper of any name. -/
def answered : Scope Unit where
  data := .dict []
  helpers := fun _ => some fun _ => pure (.text "y")

def marking : Engine Unit := ⟨[("s", fun _ => pure (.text "z"))], false⟩

/-- Calls inside a call that is filtered, and a call after it. -/
def layered : String :=
  "\x7b\x7b f(g(), n=h()) | s \x7d\x7d\x7b\x7b g() \x7d\x7d"

/-- Inner calls come first, while the walk names outer ones first. -/
theorem layered_calls :
    (marking.calls answered (.text layered) ()).map Note.name = ["g", "h", "f", "s", "g"] ∧
      Template.helperCalls layered = .ok ["f", "g", "h", "g"] ∧
      ∃ trees, Template.AreRead (Template.expressions layered) trees ∧
        List.Forall₂ (Expr.Makes marking answered) (trees.flatMap Expr.sites)
          (marking.calls answered (.text layered) ()) := by
  have shows : marking.render answered (.text layered) () =
      (.ok ⟨"zy", ["f(g(), n=h()) | s", "g()"]⟩, ()) := by
    cbv
  have keyed : (Template.expressions layered).all (fun expression =>
      (Template.readExpression expression).toOption.all fun tree =>
        decide tree.UnpacksNothing) = true := by
    cbv
  obtain ⟨trees, names, areRead, -, makes, -⟩ := calls_in_order marking answered layered () () _
    shows fun expression member tree reads => by
      have isKeyed := List.all_eq_true.mp keyed expression member
      rw [reads] at isKeyed
      exact of_decide_eq_true isKeyed
  exact ⟨by cbv, by cbv, trees, areRead, makes⟩

end Sample

end DeferredText
