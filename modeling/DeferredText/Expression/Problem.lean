import DeferredText.Expression.Syntax
import DeferredText.Text.Search

/-!
Contract: which expressions a template may hold.

Owns: the problem of a node, if it has one, and its wording; the problems of an
expression in the order of the walk.

Does not own: expressions that cannot be read at all (`Expression.Parse`).
-/

namespace DeferredText

/-- Why a node may not stand in a template. -/
inductive Problem where
  | unsupported (construct : Construct)
  | arithmetic
  | privateAccess (field : String)
  | unnamedCall
  | keywordUnpacking
deriving DecidableEq, Repr

namespace Problem

def message : Problem → String
  | .unsupported construct => construct.label ++ " is not supported in templates"
  | .arithmetic => "Arithmetic expressions not supported"
  | .privateAccess field => "Access to private attribute '" ++ field ++ "' not allowed"
  | .unnamedCall => "Only named helpers can be called"
  | .keywordUnpacking => "Keyword argument unpacking (**) not supported"

end Problem

/-- Names that start with an underscore are private. -/
def isPrivateName (field : String) : Bool :=
  startsWithText "_" field

namespace Node

def problem? : Node → Option Problem
  | .expr _ (.beyond construct _) => some (.unsupported construct)
  | .expr _ (.binary _ (.beyond _) _) => some .arithmetic
  | .expr _ (.member _ field _) =>
      if isPrivateName field then some (.privateAccess field) else none
  | .expr _ (.call callee _ _) =>
      if callee.dottedName?.isNone then some .unnamedCall else none
  | .keyword none _ => some .keywordUnpacking
  | _ => none

end Node

namespace Expr

/-- Everything wrong with an expression, breadth first. -/
def problems (expression : Expr) : List Problem :=
  expression.walk.filterMap Node.problem?

end Expr

namespace Node

/-- The name a node calls, unless the call is the right side of a binary operator. -/
def helperCall? : Node → Option String
  | .expr .plain (.call callee _ _) => callee.dottedName?
  | _ => none

end Node

/-- Names of the helpers an expression calls, outer calls first. -/
def Expr.helperCalls (expression : Expr) : List String :=
  expression.walk.filterMap Node.helperCall?

end DeferredText
