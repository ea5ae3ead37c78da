import DeferredText.Proofs.Thread
import Mathlib

/-!
Contract: the expressions a template may hold, by their structure.

The check goes over all nodes of a tree, level by level, and looks at each of them alone.
What it accepts is nevertheless a language with a grammar of its own. That language is the
documented one and somewhat more: literals of any kind, and displays of mappings that unpack
other mappings, which are left out when such a display is evaluated.

Owns: the grammar of accepted expressions, the nodes of a walk, and the operands that are
evaluated for the value of an expression.

Does not own: how texts are read (`Expression.Parse`).
-/

namespace DeferredText

/-! ### The grammar -/

namespace Value

/-- Literals that the documentation of templates names. -/
def IsPlainLiteral : Value → Prop
  | .none | .bool _ | .int _ | .float _ | .text _ => True
  | _ => False

end Value

/-- Expressions of the subset, given the literals in it and whether a display of a mapping may
unpack others. -/
inductive Expr.Permitted (literal : Value → Prop) (unpacking : Prop) : Expr → Prop where
  | constant {value : Value} (isLiteral : literal value) :
      Permitted literal unpacking (.constant value)
  | name (identifier : String) : Permitted literal unpacking (.name identifier .read)
  | member {base : Expr} {field : String} (isPublic : isPrivateName field = false)
      (inBase : Permitted literal unpacking base) :
      Permitted literal unpacking (.member base field .read)
  | subscript {base key : Expr} (inBase : Permitted literal unpacking base)
      (inKey : Permitted literal unpacking key) :
      Permitted literal unpacking (.subscript base key .read)
  | list {items : List Expr} (inItems : ∀ item ∈ items, Permitted literal unpacking item) :
      Permitted literal unpacking (.list items .read)
  | tuple {items : List Expr} (inItems : ∀ item ∈ items, Permitted literal unpacking item) :
      Permitted literal unpacking (.tuple items .read)
  | dict {entries : List (Option Expr × Expr)}
      (unpacks : ∀ entry ∈ entries, entry.1 = none → unpacking)
      (inKeys : ∀ entry ∈ entries, ∀ key, entry.1 = some key → Permitted literal unpacking key)
      (inValues : ∀ entry ∈ entries, Permitted literal unpacking entry.2) :
      Permitted literal unpacking (.dict entries)
  | call {callee : Expr} {name : String} {arguments : List Expr}
      {keywords : List (Option String × Expr)} (spells : callee.dottedName? = some name)
      (inCallee : Permitted literal unpacking callee)
      (inArguments : ∀ argument ∈ arguments, Permitted literal unpacking argument)
      (named : ∀ keyword ∈ keywords, keyword.1 ≠ none)
      (inKeywords : ∀ keyword ∈ keywords, Permitted literal unpacking keyword.2) :
      Permitted literal unpacking (.call callee arguments keywords)
  | plus {operand : Expr} (inOperand : Permitted literal unpacking operand) :
      Permitted literal unpacking (.unary .plus operand)
  | minus {operand : Expr} (inOperand : Permitted literal unpacking operand) :
      Permitted literal unpacking (.unary .minus operand)
  | filter {left right : Expr} (inLeft : Permitted literal unpacking left)
      (inRight : Permitted literal unpacking right) :
      Permitted literal unpacking (.binary left .pipe right)

namespace Expr

/-- The documented subset. -/
abbrev Documented : Expr → Prop := Permitted Value.IsPlainLiteral False

/-- The subset with literals of every kind, and with displays that unpack mappings. -/
abbrev Accepted : Expr → Prop := Permitted (fun _ => True) True

end Expr

/-! ### Nodes of a tree -/

namespace Node

/-- A node inside another one: that node itself, or a node inside one of its parts. -/
inductive Inside : Node → Node → Prop where
  | here {node : Node} : Inside node node
  | deeper {inner part node : Node} (isPart : part ∈ node.parts) (inside : Inside inner part) :
      Inside inner node

/-- A property of all nodes inside a node. -/
def Throughout
    (property : Node → Prop)
    (node : Node) : Prop :=
  ∀ inner, Inside inner node → property inner

/-- A bound on the number of levels at and below a node. -/
def weight : Node → Nat
  | .expr _ expression => expression.size
  | .keyword _ value => value.size + 1

def weights (nodes : List Node) : Nat :=
  (nodes.map weight).sum

variable {node part inner root : Node} {property : Node → Prop} {depth : Nat} {level : List Node}

theorem throughout_iff :
    node.Throughout property ↔ property node ∧ ∀ part ∈ node.parts, part.Throughout property := by
  constructor
  · intro all
    exact ⟨all node .here, fun part isPart inner inside => all inner (.deeper isPart inside)⟩
  · rintro ⟨here, parts⟩ inner inside
    cases inside with
    | here => exact here
    | deeper isPart within => exact parts _ isPart inner within

@[simp] theorem weights_nil : weights [] = 0 := rfl

@[simp] theorem weights_cons (node : Node) (rest : List Node) :
    weights (node :: rest) = node.weight + weights rest := by
  rw [weights, List.map_cons, List.sum_cons, weights]

@[simp] theorem weights_append (first second : List Node) :
    weights (first ++ second) = weights first + weights second := by
  rw [weights, List.map_append, List.sum_append, weights, weights]

@[simp] theorem weight_plain (expression : Expr) : (plain expression).weight = expression.size := rfl

@[simp] theorem weight_expr (role : Role) (expression : Expr) :
    (expr role expression).weight = expression.size := rfl

@[simp] theorem weights_plain (items : List Expr) :
    weights (items.map plain) = Expr.sizeItems items := by
  induction items with
  | nil => rfl
  | cons item rest inductionHypothesis =>
      rw [List.map_cons, weights_cons, inductionHypothesis, Expr.sizeItems, weight_plain]

@[simp] theorem weights_keywords (keywords : List (Option String × Expr)) :
    weights (keywords.map fun pair => .keyword pair.1 pair.2) = Expr.sizeKeywords keywords := by
  induction keywords with
  | nil => rfl
  | cons keyword rest inductionHypothesis =>
      rw [List.map_cons, weights_cons, inductionHypothesis, Expr.sizeKeywords, weight]

theorem weights_entries (entries : List (Option Expr × Expr)) :
    weights ((entries.filterMap Prod.fst).map plain) +
      weights (entries.map fun entry => plain entry.2) = Expr.sizeEntries entries := by
  induction entries with
  | nil => rfl
  | cons entry rest inductionHypothesis =>
      obtain ⟨_ | key, value⟩ := entry
      all_goals
        simp only [List.filterMap_cons, List.map_cons, weights_cons, weight_plain,
          Expr.sizeEntries]
        omega

theorem weights_accessMark (access : Access) : weights (accessMark access) ≤ 1 := by
  cases access <;> decide

theorem weights_unaryMark (operator : UnaryOperator) : weights (unaryMark operator) ≤ 1 := by
  cases operator <;> simp [unaryMark, plain, weight, Expr.mark, Expr.size, Expr.sizeItems]

theorem weights_binaryMark (operator : BinaryOperator) : weights (binaryMark operator) ≤ 1 := by
  cases operator <;> simp [binaryMark, plain, weight, Expr.mark, Expr.size, Expr.sizeItems]

theorem weights_partsOf (expression : Expr) : weights (partsOf expression) < expression.size := by
  cases expression with
  | constant value => exact Nat.one_pos
  | name identifier access =>
      have := weights_accessMark access
      simp only [partsOf, Expr.size]
      omega
  | member base field access =>
      have := weights_accessMark access
      simp only [partsOf, Expr.size, weights_cons, weight_plain]
      omega
  | subscript base key access =>
      have := weights_accessMark access
      simp only [partsOf, Expr.size, weights_cons, weight_plain]
      omega
  | call callee arguments keywords =>
      simp only [partsOf, Expr.size, weights_cons, weights_append, weight_plain, weights_plain,
        weights_keywords]
      omega
  | list items access =>
      have := weights_accessMark access
      simp only [partsOf, Expr.size, weights_append, weights_plain]
      omega
  | tuple items access =>
      have := weights_accessMark access
      simp only [partsOf, Expr.size, weights_append, weights_plain]
      omega
  | dict entries =>
      have := weights_entries entries
      simp only [partsOf, Expr.size, weights_append]
      omega
  | binary left operator right =>
      have := weights_binaryMark operator
      simp only [partsOf, Expr.size, weights_cons, weights_append, weights_nil, weight_plain,
        weight_expr]
      omega
  | unary operator operand =>
      have := weights_unaryMark operator
      simp only [partsOf, Expr.size, weights_cons, weights_append, weights_nil, weight_plain]
      omega
  | beyond construct parts =>
      simp only [partsOf, Expr.size, weights_plain]
      omega

theorem weight_pos (node : Node) : 0 < node.weight := by
  cases node with
  | expr role expression => exact Nat.zero_lt_of_lt (weights_partsOf expression)
  | keyword name value => exact Nat.succ_pos _

/-- The parts of a node have fewer levels below them. -/
theorem weight_lt (isPart : part ∈ node.parts) : part.weight < node.weight := by
  have among : part.weight ≤ weights node.parts := List.le_sum_of_mem (List.mem_map_of_mem isPart)
  cases node with
  | keyword name value =>
      rw [parts, weights_cons, weights_nil, weight_plain] at among
      exact Nat.lt_succ_of_le among
  | expr role expression => exact among.trans_lt (weights_partsOf expression)

theorem inside_of_mem_levels (member : node ∈ levels depth level) :
    ∃ root ∈ level, Inside node root := by
  induction depth generalizing level with
  | zero => cases member
  | succ depth inductionHypothesis =>
      rw [levels] at member
      split at member
      · cases member
      · rcases List.mem_append.mp member with here | below
        · exact ⟨node, here, .here⟩
        · obtain ⟨part, isPart, inside⟩ := inductionHypothesis below
          obtain ⟨root, isRoot, among⟩ := List.mem_flatMap.mp isPart
          exact ⟨root, isRoot, .deeper among inside⟩

/-- Enough levels hold every node inside the nodes of the first one. -/
theorem mem_levels_of_inside (enough : ∀ root ∈ level, root.weight ≤ depth) (isRoot : root ∈ level)
    (inside : Inside node root) : node ∈ levels depth level := by
  induction depth generalizing level root with
  | zero => exact absurd (enough root isRoot) (Nat.not_le_of_lt root.weight_pos)
  | succ depth inductionHypothesis =>
      have nonempty : level.isEmpty = false := by
        rw [List.isEmpty_eq_false_iff]
        exact List.ne_nil_of_mem isRoot
      rw [levels, nonempty, if_neg Bool.false_ne_true, List.mem_append]
      cases inside with
      | here => exact .inl isRoot
      | deeper isPart within =>
          refine .inr (inductionHypothesis ?_ (List.mem_flatMap.mpr ⟨root, isRoot, isPart⟩) within)
          intro part among
          obtain ⟨above, isAbove, isIts⟩ := List.mem_flatMap.mp among
          have fewer := weight_lt isIts
          have bound := enough above isAbove
          omega

/-- The walk over an expression visits exactly the nodes inside it. -/
theorem mem_walk_iff {expression : Expr} :
    node ∈ expression.walk ↔ Inside node (.plain expression) := by
  constructor
  · intro member
    obtain ⟨root, isRoot, inside⟩ := inside_of_mem_levels member
    exact List.mem_singleton.mp isRoot ▸ inside
  · intro inside
    refine mem_levels_of_inside (fun root isRoot => ?_) (List.mem_singleton_self _) inside
    rw [List.mem_singleton.mp isRoot, weight_plain]
    exact Nat.le_succ _

end Node

/-! ### Accepted expressions -/

namespace Node

/-- What the grammar asks of a node beyond having no problem. -/
def Fits (literal : Value → Prop) (unpacking : Prop) : Node → Prop
  | .expr _ (.constant value) => literal value
  | .expr _ (.dict entries) => ∀ entry ∈ entries, entry.1 = none → unpacking
  | _ => True

/-- A node of an expression of the grammar, looked at alone. -/
def Sound (literal : Value → Prop) (unpacking : Prop) (node : Node) : Prop :=
  node.problem? = none ∧ node.Fits literal unpacking

end Node

namespace Expr

variable {literal : Value → Prop} {unpacking : Prop} {expression : Expr}

open Node

/-- Every node inside the expression is in order. -/
def Clear (literal : Value → Prop) (unpacking : Prop) (expression : Expr) : Prop :=
  Throughout (Sound literal unpacking) (.plain expression)

/-- Where an expression stands makes no difference. -/
theorem throughout_role (role : Role) (expression : Expr) :
    Throughout (Sound literal unpacking) (.expr role expression) ↔
      expression.Clear literal unpacking := by
  have same : Sound literal unpacking (.expr role expression) ↔
      Sound literal unpacking (.plain expression) := by
    cases expression with
    | binary left operator right => cases operator <;> rfl
    | _ => rfl
  rw [Clear, throughout_iff, throughout_iff, same]
  rfl

theorem throughout_plain (expression : Expr) :
    Throughout (Sound literal unpacking) (.plain expression) ↔
      expression.Clear literal unpacking := Iff.rfl

theorem not_clear_beyond (construct : Construct) (parts : List Expr) :
    ¬ (beyond construct parts).Clear literal unpacking := by
  intro clear
  cases (throughout_iff.mp clear).1.1

theorem throughout_keyword (name : Option String) (value : Expr) :
    Throughout (Sound literal unpacking) (.keyword name value) ↔
      name ≠ none ∧ value.Clear literal unpacking := by
  rw [throughout_iff, parts, List.forall_mem_singleton, throughout_plain]
  cases name <;> simp [Sound, problem?, Fits]

theorem throughout_accessMark (access : Access) :
    (∀ part ∈ accessMark access, Throughout (Sound literal unpacking) part) ↔ access = .read := by
  cases access <;> simp [accessMark, throughout_plain, mark, not_clear_beyond]

theorem throughout_unaryMark (operator : UnaryOperator) :
    (∀ part ∈ unaryMark operator, Throughout (Sound literal unpacking) part) ↔
      operator = .plus ∨ operator = .minus := by
  cases operator <;> simp [unaryMark, throughout_plain, mark, not_clear_beyond]

/-- What it takes for all nodes of an expression to be in order. -/
theorem clear_iff : expression.Clear literal unpacking ↔
    match expression with
    | .constant value => literal value
    | .name _ access => access = .read
    | .member base field access =>
        isPrivateName field = false ∧ base.Clear literal unpacking ∧ access = .read
    | .subscript base key access =>
        base.Clear literal unpacking ∧ key.Clear literal unpacking ∧ access = .read
    | .call callee arguments keywords =>
        callee.dottedName? ≠ none ∧ callee.Clear literal unpacking ∧
          (∀ argument ∈ arguments, argument.Clear literal unpacking) ∧
          ∀ keyword ∈ keywords, keyword.1 ≠ none ∧ keyword.2.Clear literal unpacking
    | .list items access => (∀ item ∈ items, item.Clear literal unpacking) ∧ access = .read
    | .tuple items access => (∀ item ∈ items, item.Clear literal unpacking) ∧ access = .read
    | .dict entries =>
        (∀ entry ∈ entries, entry.1 = none → unpacking) ∧
          (∀ entry ∈ entries, ∀ key, entry.1 = some key → key.Clear literal unpacking) ∧
          ∀ entry ∈ entries, entry.2.Clear literal unpacking
    | .binary left operator right =>
        operator = .pipe ∧ left.Clear literal unpacking ∧ right.Clear literal unpacking
    | .unary operator operand =>
        (operator = .plus ∨ operator = .minus) ∧ operand.Clear literal unpacking
    | .beyond _ _ => False := by
  rw [Clear, throughout_iff]
  cases expression with
  | constant value => simp [plain, parts, partsOf, Sound, problem?, Fits]
  | name identifier access =>
      simp [plain, parts, partsOf, Sound, problem?, Fits, throughout_accessMark]
  | member base field access =>
      cases isPrivate : isPrivateName field <;>
        simp [plain, parts, partsOf, Sound, problem?, Fits, throughout_accessMark,
          throughout_role, isPrivate]
  | subscript base key access =>
      simp [plain, parts, partsOf, Sound, problem?, Fits, throughout_accessMark, throughout_role]
  | call callee arguments keywords =>
      have inParts : (∀ part ∈ (plain (.call callee arguments keywords)).parts,
          Throughout (Sound literal unpacking) part) ↔
            callee.Clear literal unpacking ∧
              (∀ argument ∈ arguments, argument.Clear literal unpacking) ∧
              ∀ keyword ∈ keywords, keyword.1 ≠ none ∧ keyword.2.Clear literal unpacking := by
        rw [plain, parts, partsOf, List.forall_mem_append, List.forall_mem_cons,
          List.forall_mem_map, List.forall_mem_map]
        simp only [throughout_keyword, throughout_plain, and_assoc]
      rw [inParts]
      simp [plain, Sound, problem?, Fits]
  | list items access =>
      simp [plain, parts, partsOf, Sound, problem?, Fits, throughout_accessMark, throughout_role,
        or_imp, forall_and]
  | tuple items access =>
      simp [plain, parts, partsOf, Sound, problem?, Fits, throughout_accessMark, throughout_role,
        or_imp, forall_and]
  | dict entries =>
      have inParts : (∀ part ∈ (plain (.dict entries)).parts,
          Throughout (Sound literal unpacking) part) ↔
            (∀ entry ∈ entries, ∀ key, entry.1 = some key → key.Clear literal unpacking) ∧
              ∀ entry ∈ entries, entry.2.Clear literal unpacking := by
        rw [plain, parts, partsOf, List.forall_mem_append, List.forall_mem_map,
          List.forall_mem_map, List.forall_mem_filterMap]
        simp only [throughout_plain]
      rw [inParts]
      simp [plain, Sound, problem?, Fits]
  | binary left operator right =>
      cases operator <;>
        simp [plain, parts, partsOf, Sound, problem?, Fits, throughout_role, binaryMark]
  | unary operator operand =>
      simp [plain, parts, partsOf, Sound, problem?, Fits, throughout_unaryMark, throughout_role,
        or_imp, forall_and]
  | beyond construct inner => simp [plain, Sound, problem?]

theorem Permitted.clear (permitted : expression.Permitted literal unpacking) :
    expression.Clear literal unpacking := by
  induction permitted with
  | constant isLiteral => exact clear_iff.mpr isLiteral
  | name identifier => exact clear_iff.mpr rfl
  | member isPublic _ inBase => exact clear_iff.mpr ⟨isPublic, inBase, rfl⟩
  | subscript _ _ inBase inKey => exact clear_iff.mpr ⟨inBase, inKey, rfl⟩
  | list _ inItems => exact clear_iff.mpr ⟨inItems, rfl⟩
  | tuple _ inItems => exact clear_iff.mpr ⟨inItems, rfl⟩
  | dict unpacks _ _ inKeys inValues => exact clear_iff.mpr ⟨unpacks, inKeys, inValues⟩
  | call spells _ _ named _ inCallee inArguments inKeywords =>
      exact clear_iff.mpr ⟨spells ▸ nofun, inCallee, inArguments, fun keyword member =>
        ⟨named keyword member, inKeywords keyword member⟩⟩
  | plus _ inOperand => exact clear_iff.mpr ⟨.inl rfl, inOperand⟩
  | minus _ inOperand => exact clear_iff.mpr ⟨.inr rfl, inOperand⟩
  | filter _ _ inLeft inRight => exact clear_iff.mpr ⟨rfl, inLeft, inRight⟩

theorem Clear.permitted (clear : expression.Clear literal unpacking) :
    expression.Permitted literal unpacking := by
  induction size : expression.size using Nat.strongRecOn generalizing expression with
  | ind bound inductionHypothesis =>
      -- A part of the expression is smaller, wherever it stands.
      have inner : ∀ {part : Node}, part ∈ partsOf expression → ∀ inside : Expr,
          inside.size ≤ part.weight → inside.Clear literal unpacking →
            inside.Permitted literal unpacking := by
        intro part isPart inside fewer clearInside
        have smaller : part.weight < (plain expression).weight := weight_lt isPart
        rw [weight_plain, size] at smaller
        exact inductionHypothesis _ (fewer.trans_lt smaller) clearInside rfl
      have parts := clear_iff.mp clear
      cases expression with
      | constant value => exact .constant parts
      | name identifier access =>
          obtain rfl : access = .read := parts
          exact .name identifier
      | member base field access =>
          obtain ⟨isPublic, inBase, rfl⟩ := parts
          exact .member isPublic (inner (List.mem_cons_self) base (Nat.le_refl _) inBase)
      | subscript base key access =>
          obtain ⟨inBase, inKey, rfl⟩ := parts
          exact .subscript (inner List.mem_cons_self base (Nat.le_refl _) inBase)
            (inner (List.mem_cons_of_mem _ List.mem_cons_self) key (Nat.le_refl _) inKey)
      | call callee arguments keywords =>
          obtain ⟨spells, inCallee, inArguments, inKeywords⟩ := parts
          obtain ⟨name, spells⟩ := Option.ne_none_iff_exists'.mp spells
          refine .call spells (inner List.mem_cons_self callee (Nat.le_refl _) inCallee) ?_
            (fun keyword member => (inKeywords keyword member).1) ?_
          · intro argument member
            exact inner (List.mem_append_left _ (List.mem_cons_of_mem _ (List.mem_map_of_mem member)))
              argument (Nat.le_refl _) (inArguments argument member)
          · intro keyword member
            exact inner (List.mem_append_right _ (List.mem_map_of_mem member)) keyword.2
              (Nat.le_succ _) (inKeywords keyword member).2
      | list items access =>
          obtain ⟨inItems, rfl⟩ := parts
          exact .list fun item member => inner (List.mem_append_left _ (List.mem_map_of_mem member))
            item (Nat.le_refl _) (inItems item member)
      | tuple items access =>
          obtain ⟨inItems, rfl⟩ := parts
          exact .tuple fun item member => inner (List.mem_append_left _ (List.mem_map_of_mem member))
            item (Nat.le_refl _) (inItems item member)
      | dict entries =>
          obtain ⟨unpacks, inKeys, inValues⟩ := parts
          refine .dict unpacks ?_ ?_
          · intro entry member key found
            exact inner (List.mem_append_left _ (List.mem_map_of_mem
              (List.mem_filterMap.mpr ⟨entry, member, found⟩))) key (Nat.le_refl _)
              (inKeys entry member key found)
          · intro entry member
            exact inner (List.mem_append_right _ (List.mem_map_of_mem member)) entry.2
              (Nat.le_refl _) (inValues entry member)
      | binary left operator right =>
          obtain ⟨rfl, inLeft, inRight⟩ := parts
          exact .filter (inner List.mem_cons_self left (Nat.le_refl _) inLeft)
            (inner (List.mem_cons_of_mem _ (List.mem_singleton_self _)) right (Nat.le_refl _) inRight)
      | unary operator operand =>
          obtain ⟨rfl | rfl, inOperand⟩ := parts
          · exact .plus (inner (List.mem_singleton_self _) operand (Nat.le_refl _) inOperand)
          · exact .minus (inner (List.mem_singleton_self _) operand (Nat.le_refl _) inOperand)
      | beyond construct inside => exact parts.elim

theorem permitted_iff : expression.Permitted literal unpacking ↔
    ∀ node ∈ expression.walk, node.Sound literal unpacking := by
  constructor
  · intro permitted node member
    exact permitted.clear node (mem_walk_iff.mp member)
  · intro each
    exact Clear.permitted fun node inside => each node (mem_walk_iff.mpr inside)

/-- The check accepts exactly the expressions of the wider grammar. -/
theorem problems_eq_nil_iff : expression.problems = [] ↔ expression.Accepted := by
  have fits : ∀ node : Node, node.Fits (fun _ => True) True := by
    intro node
    rw [Fits.eq_def]
    split <;> simp
  rw [problems, List.filterMap_eq_nil_iff, Accepted, permitted_iff]
  exact forall₂_congr fun node _ => (and_iff_left (fits node)).symm

/-- The documented expressions are those of the wider grammar without other literals and
without unpacking. -/
theorem documented_iff : expression.Documented ↔
    expression.Accepted ∧ ∀ node ∈ expression.walk, node.Fits Value.IsPlainLiteral False := by
  rw [Documented, permitted_iff, ← problems_eq_nil_iff, problems, List.filterMap_eq_nil_iff]
  exact ⟨fun each => ⟨fun node member => (each node member).1, fun node member =>
    (each node member).2⟩, fun ⟨first, second⟩ node member =>
      ⟨first node member, second node member⟩⟩

/-! ### Operands -/

/-- The expressions whose values the value of an expression is made from, in the order in which
they are evaluated: all its parts but those that only spell the name of what is called. -/
def operands : Expr → List Expr
  | .member base _ _ => [base]
  | .subscript base key _ => [base, key]
  | .call _ arguments keywords => arguments ++ keywords.map Prod.snd
  | .list items _ => items
  | .tuple items _ => items
  | .dict entries => entries.flatMap fun entry => entry.1.toList ++ [entry.2]
  | .binary left .pipe (.call _ arguments keywords) =>
      left :: (arguments ++ keywords.map Prod.snd)
  | .binary left .pipe _ => [left]
  | .unary _ operand => [operand]
  | _ => []

/-- An expression inside another one whose value is made from its value: that expression itself,
or one inside an operand. -/
inductive Part : Expr → Expr → Prop where
  | here {expression : Expr} : Part expression expression
  | deeper {part operand expression : Expr} (isOperand : operand ∈ expression.operands)
      (inside : Part part operand) : Part part expression

theorem Permitted.argument {callee argument : Expr} {arguments : List Expr}
    {keywords : List (Option String × Expr)}
    (permitted : (Expr.call callee arguments keywords).Permitted literal unpacking)
    (isArgument : argument ∈ arguments ++ keywords.map Prod.snd) :
    argument.Permitted literal unpacking := by
  cases permitted with
  | call spells inCallee inArguments named inKeywords =>
      rcases List.mem_append.mp isArgument with isPositional | isNamed
      · exact inArguments argument isPositional
      · obtain ⟨keyword, member, rfl⟩ := List.mem_map.mp isNamed
        exact inKeywords keyword member

/-- The operands of an expression of the grammar are expressions of the grammar. -/
theorem Permitted.operand {operand : Expr} (permitted : expression.Permitted literal unpacking)
    (isOperand : operand ∈ expression.operands) : operand.Permitted literal unpacking := by
  cases permitted with
  | constant | name => cases isOperand
  | member isPublic inBase => exact List.mem_singleton.mp isOperand ▸ inBase
  | subscript inBase inKey =>
      rcases List.mem_cons.mp isOperand with rfl | isKey
      · exact inBase
      · exact List.mem_singleton.mp isKey ▸ inKey
  | list inItems => exact inItems operand isOperand
  | tuple inItems => exact inItems operand isOperand
  | dict unpacks inKeys inValues =>
      obtain ⟨entry, member, isIts⟩ := List.mem_flatMap.mp isOperand
      rcases List.mem_append.mp isIts with isKey | isValue
      · exact inKeys entry member operand (Option.mem_toList.mp isKey)
      · exact List.mem_singleton.mp isValue ▸ inValues entry member
  | call spells inCallee inArguments named inKeywords =>
      exact (Permitted.call spells inCallee inArguments named inKeywords).argument isOperand
  | plus inOperand => exact List.mem_singleton.mp isOperand ▸ inOperand
  | minus inOperand => exact List.mem_singleton.mp isOperand ▸ inOperand
  | @filter left right inLeft inRight =>
      cases right with
      | call callee arguments keywords =>
          rcases List.mem_cons.mp isOperand with rfl | isArgument
          · exact inLeft
          · exact inRight.argument isArgument
      | _ => exact List.mem_singleton.mp isOperand ▸ inLeft

end Expr

/-- A computation of two parts that succeeded did so in both. -/
theorem Action.bind_ok_cases {σ α β : Type} {action : Action σ α} {next : α → Action σ β}
    {before after : σ} {result : β} (acts : (action >>= next) before = (.ok result, after)) :
    ∃ found middle, action before = (.ok found, middle) ∧ next found middle = (.ok result, after) := by
  rw [Action.bind_eq] at acts
  rcases first : action before with ⟨stop | found, middle⟩
  · rw [first] at acts
    cases acts
  · rw [first] at acts
    exact ⟨found, middle, rfl, acts⟩

theorem Action.ofOutcome_ok {σ α : Type} {outcome : Outcome α} {before after : σ} {result : α}
    (acts : (Action.ofOutcome outcome : Action σ α) before = (.ok result, after)) :
    outcome = .ok result ∧ after = before := by
  cases outcome with
  | error failure => cases acts
  | ok found =>
      cases acts
      exact ⟨rfl, rfl⟩

namespace Evaluate

open DeferredText.Expr

variable {σ : Type} {engine : Engine σ} {scope : Scope σ} {source : String}
  {before middle after : σ} {literal : Value → Prop} {found : Value}

theorem helper_ok {called : Option String} {operation : Operation σ}
    (helps : helper scope source called before = (.ok operation, after)) :
    called.bind scope.helpers = some operation ∧ after = before := by
  rw [helper] at helps
  rcases looked : called.bind scope.helpers with _ | found
  · rw [looked] at helps
    cases helps
  · rw [looked] at helps
    cases helps
    exact ⟨rfl, rfl⟩

theorem items_join {first second : List Expr} {values others : List Value}
    (evaluates : items engine scope source first before = (.ok values, middle))
    (further : items engine scope source second middle = (.ok others, after)) :
    items engine scope source (first ++ second) before = (.ok (values ++ others), after) := by
  induction first generalizing before values with
  | nil =>
      cases evaluates
      exact further
  | cons expression rest inductionHypothesis =>
      obtain ⟨head, tail, between, rfl, evaluated, evaluatesRest⟩ := items_cons evaluates
      rw [List.cons_append, items]
      exact Action.bind_ok evaluated (Action.bind_ok (inductionHypothesis evaluatesRest) rfl)

theorem items_single {expression : Expr}
    (evaluates : value engine scope source expression before = (.ok found, after)) :
    items engine scope source [expression] before = (.ok [found], after) := by
  rw [items]
  exact Action.bind_ok evaluates (Action.bind_ok rfl rfl)

/-- Keyword arguments that are collected were all evaluated, in order. -/
theorem items_of_namedItems {keywords : List (Option String × Expr)}
    {collected result : List (String × Value)} (named : ∀ keyword ∈ keywords, keyword.1 ≠ none)
    (collects : namedItems engine scope source collected keywords before = (.ok result, after)) :
    ∃ values, items engine scope source (keywords.map Prod.snd) before = (.ok values, after) := by
  induction keywords generalizing collected before with
  | nil =>
      cases collects
      exact ⟨[], rfl⟩
  | cons keyword rest inductionHypothesis =>
      obtain ⟨_ | name, expression⟩ := keyword
      · exact absurd rfl (named _ List.mem_cons_self)
      · rw [namedItems] at collects
        obtain ⟨argument, between, evaluated, further⟩ := Action.bind_ok_cases collects
        obtain ⟨values, others⟩ := inductionHypothesis
          (fun other member => named other (List.mem_cons_of_mem _ member)) further
        exact ⟨_, items_join (items_single evaluated) others⟩

/-- Entries that are collected were all evaluated, key before value, if none of them unpacks. -/
theorem items_of_entries {pairs : List (Option Expr × Expr)} {collected result : Entries}
    (keyed : ∀ pair ∈ pairs, pair.1 ≠ none)
    (collects : entries engine scope source collected pairs before = (.ok result, after)) :
    ∃ values, items engine scope source (pairs.flatMap fun pair => pair.1.toList ++ [pair.2])
      before = (.ok values, after) := by
  induction pairs generalizing collected before with
  | nil =>
      cases collects
      exact ⟨[], rfl⟩
  | cons pair rest inductionHypothesis =>
      obtain ⟨_ | key, expression⟩ := pair
      · exact absurd rfl (keyed _ List.mem_cons_self)
      · rw [entries] at collects
        obtain ⟨keyValue, first, evaluatesKey, furtherKey⟩ := Action.bind_ok_cases collects
        obtain ⟨entryValue, second, evaluatesValue, furtherValue⟩ := Action.bind_ok_cases furtherKey
        obtain ⟨extended, third, inserts, further⟩ := Action.bind_ok_cases furtherValue
        obtain ⟨-, rfl⟩ := Action.ofOutcome_ok inserts
        obtain ⟨values, others⟩ := inductionHypothesis
          (fun other member => keyed other (List.mem_cons_of_mem _ member)) further
        exact ⟨_, items_join (items_join (items_single evaluatesKey) (items_single evaluatesValue))
          others⟩

/-- Arguments that are collected were all evaluated, positional ones first. -/
theorem items_of_arguments {arguments : List Expr} {keywords : List (Option String × Expr)}
    {positional : List Value} {named : List (String × Value)}
    (keyed : ∀ keyword ∈ keywords, keyword.1 ≠ none)
    (evaluates : items engine scope source arguments before = (.ok positional, middle))
    (collects : namedItems engine scope source [] keywords middle = (.ok named, after)) :
    ∃ values, items engine scope source (arguments ++ keywords.map Prod.snd) before =
      (.ok values, after) := by
  obtain ⟨values, others⟩ := items_of_namedItems keyed collects
  exact ⟨_, items_join evaluates others⟩

/-- An expression that unpacks nothing has a value only after all its operands were evaluated,
one after the other. -/
theorem items_of_value {expression : Expr} (permitted : expression.Permitted literal False)
    (evaluates : value engine scope source expression before = (.ok found, after)) :
    ∃ values between, items engine scope source expression.operands before =
      (.ok values, between) := by
  cases permitted with
  | constant | name => exact ⟨[], before, rfl⟩
  | member isPublic inBase =>
      rw [value] at evaluates
      obtain ⟨base, between, evaluated, -⟩ := Action.bind_ok_cases evaluates
      exact ⟨_, _, items_single evaluated⟩
  | subscript inBase inKey =>
      rw [value] at evaluates
      obtain ⟨base, between, evaluatesBase, further⟩ := Action.bind_ok_cases evaluates
      obtain ⟨key, last, evaluatesKey, -⟩ := Action.bind_ok_cases further
      exact ⟨_, _, items_join (items_single evaluatesBase) (items_single evaluatesKey)⟩
  | list inItems =>
      rw [value] at evaluates
      obtain ⟨values, between, evaluated, -⟩ := Action.bind_ok_cases evaluates
      exact ⟨_, _, evaluated⟩
  | tuple inItems =>
      rw [value] at evaluates
      obtain ⟨values, between, evaluated, -⟩ := Action.bind_ok_cases evaluates
      exact ⟨_, _, evaluated⟩
  | dict unpacks inKeys inValues =>
      rw [value] at evaluates
      obtain ⟨collected, between, collects, -⟩ := Action.bind_ok_cases evaluates
      obtain ⟨values, evaluated⟩ := items_of_entries unpacks collects
      exact ⟨_, _, evaluated⟩
  | call spells inCallee inArguments named inKeywords =>
      rw [value] at evaluates
      obtain ⟨operation, start, helps, further⟩ := Action.bind_ok_cases evaluates
      obtain ⟨positional, between, evaluated, more⟩ := Action.bind_ok_cases further
      obtain ⟨collected, last, collects, -⟩ := Action.bind_ok_cases more
      obtain ⟨-, rfl⟩ := helper_ok helps
      obtain ⟨values, evaluated⟩ := items_of_arguments named evaluated collects
      exact ⟨_, _, evaluated⟩
  | plus inOperand =>
      rw [value] at evaluates
      obtain ⟨operand, between, evaluated, -⟩ := Action.bind_ok_cases evaluates
      exact ⟨_, _, items_single evaluated⟩
  | minus inOperand =>
      rw [value] at evaluates
      obtain ⟨operand, between, evaluated, -⟩ := Action.bind_ok_cases evaluates
      exact ⟨_, _, items_single evaluated⟩
  | @filter left right inLeft inRight =>
      cases inRight with
      | call spells inCallee inArguments named inKeywords =>
          rw [value] at evaluates
          obtain ⟨piped, start, evaluatesLeft, further⟩ := Action.bind_ok_cases evaluates
          obtain ⟨positional, between, evaluated, more⟩ := Action.bind_ok_cases further
          obtain ⟨collected, last, collects, -⟩ := Action.bind_ok_cases more
          obtain ⟨values, others⟩ := items_of_arguments named evaluated collects
          exact ⟨_, _, items_join (items_single evaluatesLeft) others⟩
      | _ =>
          rw [value] at evaluates
          · obtain ⟨piped, between, evaluated, -⟩ := Action.bind_ok_cases evaluates
            exact ⟨_, _, items_single evaluated⟩
          · rintro _ _ _ ⟨⟩

theorem value_of_items {expression : Expr} {expressions : List Expr} {values : List Value}
    (member : expression ∈ expressions)
    (evaluates : items engine scope source expressions before = (.ok values, after)) :
    ∃ start result next, value engine scope source expression start = (.ok result, next) := by
  induction expressions generalizing before values with
  | nil => cases member
  | cons head rest inductionHypothesis =>
      obtain ⟨first, others, between, rfl, evaluated, further⟩ := items_cons evaluates
      rcases List.mem_cons.mp member with rfl | later
      · exact ⟨before, first, between, evaluated⟩
      · exact inductionHypothesis later further

/-- No part of an expression that unpacks nothing is left out when it is evaluated. -/
theorem items_of_part {part expression : Expr} (permitted : expression.Permitted literal False)
    (inside : Part part expression)
    (evaluates : value engine scope source expression before = (.ok found, after)) :
    ∃ start values next, items engine scope source part.operands start = (.ok values, next) := by
  induction inside generalizing before found after with
  | here =>
      obtain ⟨values, next, evaluated⟩ := items_of_value permitted evaluates
      exact ⟨before, values, next, evaluated⟩
  | deeper isOperand _ inductionHypothesis =>
      obtain ⟨values, next, evaluated⟩ := items_of_value permitted evaluates
      obtain ⟨start, result, middle, inner⟩ := value_of_items isOperand evaluated
      exact inductionHypothesis (permitted.operand isOperand) inner

end Evaluate

/-- An expression that was read is accepted exactly if it belongs to the wider grammar, and is
refused with a report otherwise. The documented subset is what is left of that grammar without
literals of other kinds and without unpacking, and nothing in it is left out by an evaluation. -/
theorem accepted_expressions {expression : String} {tree : Expr}
    (reads : Template.syntaxOf (trimBlank expression.toList) = .ok (some tree)) :
    (Template.readExpression expression = .ok tree ↔ tree.Accepted) ∧
      (¬ tree.Accepted → ∃ detail, Template.readExpression expression =
        .error (.reported (.templateError detail expression))) ∧
      (tree.Documented ↔
        tree.Accepted ∧ ∀ node ∈ tree.walk, node.Fits Value.IsPlainLiteral False) ∧
      (tree.Documented → ∀ (σ : Type) (engine : Engine σ) (scope : Scope σ) (before after : σ)
        (found : Value), Evaluate.value engine scope expression tree before = (.ok found, after) →
          ∀ part, Expr.Part part tree → ∃ start values next,
            Evaluate.items engine scope expression part.operands start = (.ok values, next)) := by
  have decides : Template.readExpression expression =
      if tree.problems.isEmpty then .ok tree
      else .error (.reported (.templateError ("; ".intercalate (tree.problems.map Problem.message))
        expression)) := by
    rw [Template.readExpression, reads]
    rfl
  refine ⟨?_, ?_, Expr.documented_iff, ?_⟩
  · rw [decides, ← Expr.problems_eq_nil_iff, ← List.isEmpty_iff]
    split <;> simp [*]
  · intro refused
    rw [decides, if_neg fun isEmpty => refused
      (Expr.problems_eq_nil_iff.mp (List.isEmpty_iff.mp isEmpty))]
    exact ⟨_, rfl⟩
  · intro documented σ engine scope before after found evaluates part inside
    exact Evaluate.items_of_part documented inside evaluates

namespace Sample

/-- The tree of a filtered call with arguments of both kinds. -/
def documentedTree : Expr :=
  .binary
    (.call (.member (.name "g" .read) "f" .read) [.unary .minus (.constant (.int 1))]
      [(some "n", .list [.name "x" .read] .read)])
    .pipe (.name "s" .read)

/-- An expression of the documented subset is accepted. -/
theorem accepted_documented :
    Template.syntaxOf (trimBlank "g.f(-1, n=[x]) | s".toList) = .ok (some documentedTree) ∧
      Template.readExpression "g.f(-1, n=[x]) | s" = .ok documentedTree ∧
      documentedTree.Documented := by
  have reads : Template.syntaxOf (trimBlank "g.f(-1, n=[x]) | s".toList) =
      .ok (some documentedTree) := by cbv
  have documented : documentedTree.Documented := by
    refine .filter (.call rfl (.member (by decide) (.name "g")) ?_ ?_ ?_) (.name "s")
    · rw [List.forall_mem_singleton]
      exact .minus (.constant trivial)
    · rw [List.forall_mem_singleton]
      exact Option.some_ne_none _
    · rw [List.forall_mem_singleton]
      refine .list ?_
      rw [List.forall_mem_singleton]
      exact .name "x"
  obtain ⟨accepts, -, documents, -⟩ := accepted_expressions reads
  exact ⟨reads, accepts.mpr (documents.mp documented).1, documented⟩

/-- A display that unpacks the result of a call, in a scope without helpers. -/
def unpackingTree : Expr :=
  .dict [(none, .call (.name "f" .read) [] [])]

/-- A display that unpacks a mapping is accepted, and what it unpacks is left out: it has a value
though the call in it has none. Literals of other kinds are accepted as well. -/
theorem accepted_undocumented :
    Template.readExpression "\x7b**f()\x7d" = .ok unpackingTree ∧
      ¬ unpackingTree.Documented ∧
      (⟨[], false⟩ : Engine Unit).evaluate ⟨.dict [], fun _ => none⟩ "\x7b**f()\x7d" () =
        (.ok (.dict []), ()) ∧
      (⟨[], false⟩ : Engine Unit).evaluate ⟨.dict [], fun _ => none⟩ "f()" () =
        (.error (.failed (.reported (.helperNotFound (some "f") "f()"))), ()) ∧
      Template.readExpression "..." = .ok (.constant .ellipsis) ∧
      ¬ (Expr.constant .ellipsis).Documented := by
  refine ⟨by cbv, ?_, by cbv, by cbv, by cbv, ?_⟩
  · intro documented
    cases documented with
    | dict unpacks => exact unpacks _ List.mem_cons_self rfl
  · intro documented
    cases documented with
    | constant isLiteral => exact isLiteral

end Sample

end DeferredText
