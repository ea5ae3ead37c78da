import DeferredText.Value.Basic

/-!
Contract: the syntax of expressions.

Templates use a small subset of a larger expression grammar. The constructors of
`Expr` other than `beyond` are that subset, up to operators and private names;
everything else the grammar allows is kept as a named construct with its parts, so
that it can be reported in place.

Owns: the tree, dotted names, the parts of a node in order, and the breadth-first
walk over all nodes.

Does not own: reading (`Expression.Parse`) and acceptance (`Expression.Problem`).
-/

namespace DeferredText

/-- Grammar outside the subset. -/
inductive Construct where
  | boolOp | namedExpr | lambda | ifExp | setDisplay | listComp | setComp | dictComp
  | generatorExp | comprehension | await | yield | yieldFrom | compare | joinedText
  | formattedValue | starred | slice | parameters | parameter | store
  | and | or | add | subtract | multiply | matrixMultiply | divide | modulo | power
  | leftShift | rightShift | bitXor | bitAnd | floorDivide | invert | not
  | equal | notEqual | less | lessEqual | greater | greaterEqual
  | identical | notIdentical | member | notMember
deriving DecidableEq, Repr

namespace Construct

/-- The name a construct is reported under. -/
def label : Construct → String
  | .boolOp => "BoolOp"
  | .namedExpr => "NamedExpr"
  | .lambda => "Lambda"
  | .ifExp => "IfExp"
  | .setDisplay => "Set"
  | .listComp => "ListComp"
  | .setComp => "SetComp"
  | .dictComp => "DictComp"
  | .generatorExp => "GeneratorExp"
  | .comprehension => "comprehension"
  | .await => "Await"
  | .yield => "Yield"
  | .yieldFrom => "YieldFrom"
  | .compare => "Compare"
  | .joinedText => "JoinedStr"
  | .formattedValue => "FormattedValue"
  | .starred => "Starred"
  | .slice => "Slice"
  | .parameters => "arguments"
  | .parameter => "arg"
  | .store => "Store"
  | .and => "And"
  | .or => "Or"
  | .add => "Add"
  | .subtract => "Sub"
  | .multiply => "Mult"
  | .matrixMultiply => "MatMult"
  | .divide => "Div"
  | .modulo => "Mod"
  | .power => "Pow"
  | .leftShift => "LShift"
  | .rightShift => "RShift"
  | .bitXor => "BitXor"
  | .bitAnd => "BitAnd"
  | .floorDivide => "FloorDiv"
  | .invert => "Invert"
  | .not => "Not"
  | .equal => "Eq"
  | .notEqual => "NotEq"
  | .less => "Lt"
  | .lessEqual => "LtE"
  | .greater => "Gt"
  | .greaterEqual => "GtE"
  | .identical => "Is"
  | .notIdentical => "IsNot"
  | .member => "In"
  | .notMember => "NotIn"

end Construct

/-- Whether a place is read or bound. -/
inductive Access where
  | read
  | bind
deriving DecidableEq, Repr

inductive UnaryOperator where
  | plus
  | minus
  | beyond (construct : Construct)
deriving DecidableEq, Repr

inductive BinaryOperator where
  | pipe
  | beyond (construct : Construct)
deriving DecidableEq, Repr

inductive Expr where
  | constant (value : Value)
  | name (identifier : String) (access : Access)
  | member (base : Expr) (field : String) (access : Access)
  | subscript (base key : Expr) (access : Access)
  | call (callee : Expr) (arguments : List Expr) (keywords : List (Option String × Expr))
  | list (items : List Expr) (access : Access)
  | tuple (items : List Expr) (access : Access)
  /-- Entries of a mapping display; one without a key unpacks another mapping. -/
  | dict (entries : List (Option Expr × Expr))
  | binary (left : Expr) (operator : BinaryOperator) (right : Expr)
  | unary (operator : UnaryOperator) (operand : Expr)
  | beyond (construct : Construct) (parts : List Expr)
deriving Repr, Inhabited

namespace Expr

/-- The name of the kind of an expression. -/
def label : Expr → String
  | .constant _ => "Constant"
  | .name _ _ => "Name"
  | .member _ _ _ => "Attribute"
  | .subscript _ _ _ => "Subscript"
  | .call _ _ _ => "Call"
  | .list _ _ => "List"
  | .tuple _ _ => "Tuple"
  | .dict _ => "Dict"
  | .binary _ _ _ => "BinOp"
  | .unary _ _ => "UnaryOp"
  | .beyond construct _ => construct.label

/-- The dotted name an expression spells: a name, or an attribute of a dotted name. -/
def dottedName? : Expr → Option String
  | .name identifier _ => some identifier
  | .member base field _ => base.dottedName?.map fun spelled => spelled ++ "." ++ field
  | _ => none

/-- A construct without parts, such as an operator. -/
def mark (construct : Construct) : Expr :=
  .beyond construct []

end Expr

/-- Where an expression stands: as the right side of a binary operator, or elsewhere. -/
inductive Role where
  | plain
  | rightSide
deriving DecidableEq, Repr

/-- A node of the tree: an expression, or a keyword argument of a call. -/
inductive Node where
  | expr (role : Role) (expression : Expr)
  | keyword (name : Option String) (value : Expr)
deriving Repr

namespace Node

def plain (expression : Expr) : Node :=
  .expr .plain expression

def unaryMark : UnaryOperator → List Node
  | .beyond construct => [plain (Expr.mark construct)]
  | _ => []

def binaryMark : BinaryOperator → List Node
  | .beyond construct => [plain (Expr.mark construct)]
  | _ => []

def accessMark : Access → List Node
  | .read => []
  | .bind => [plain (Expr.mark .store)]

/-- Direct parts of an expression, in order. -/
def partsOf : Expr → List Node
  | .constant _ => []
  | .name _ access => accessMark access
  | .member base _ access => plain base :: accessMark access
  | .subscript base key access => plain base :: plain key :: accessMark access
  | .call callee arguments keywords =>
      plain callee :: arguments.map plain ++
        keywords.map fun pair => .keyword pair.1 pair.2
  | .list items access => items.map plain ++ accessMark access
  | .tuple items access => items.map plain ++ accessMark access
  | .dict entries =>
      (entries.filterMap Prod.fst).map plain ++ entries.map fun entry => plain entry.2
  | .binary left operator right =>
      plain left :: binaryMark operator ++ [.expr .rightSide right]
  | .unary operator operand => unaryMark operator ++ [plain operand]
  | .beyond _ parts => parts.map plain

/-- Direct parts of a node, in order. -/
def parts : Node → List Node
  | .expr _ expression => partsOf expression
  | .keyword _ value => [plain value]

end Node

namespace Expr

mutual

/-- Number of nodes, which bounds the number of levels of the tree. -/
def size : Expr → Nat
  | .constant _ => 1
  | .name _ _ => 2
  | .member base _ _ => base.size + 2
  | .subscript base key _ => base.size + key.size + 2
  | .call callee arguments keywords =>
      callee.size + sizeItems arguments + sizeKeywords keywords + 1
  | .list items _ => sizeItems items + 2
  | .tuple items _ => sizeItems items + 2
  | .dict entries => sizeEntries entries + 1
  | .binary left _ right => left.size + right.size + 2
  | .unary _ operand => operand.size + 2
  | .beyond _ parts => sizeItems parts + 1

def sizeItems : List Expr → Nat
  | [] => 0
  | item :: rest => item.size + sizeItems rest

def sizeKeywords : List (Option String × Expr) → Nat
  | [] => 0
  | (_, value) :: rest => value.size + 1 + sizeKeywords rest

def sizeEntries : List (Option Expr × Expr) → Nat
  | [] => 0
  | (none, value) :: rest => value.size + sizeEntries rest
  | (some key, value) :: rest => key.size + value.size + sizeEntries rest

end

end Expr

namespace Node

/-- The nodes of a level, then those of the levels below it, at most `depth` of them. -/
def levels : Nat → List Node → List Node
  | 0, _ => []
  | depth + 1, level =>
      if level.isEmpty then [] else level ++ levels depth (level.flatMap parts)

end Node

/-- Every node below and including an expression, breadth first. -/
def Expr.walk (expression : Expr) : List Node :=
  Node.levels (expression.size + 1) [.plain expression]

end DeferredText
