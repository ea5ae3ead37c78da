import DeferredText.Expression.Parse
import DeferredText.Expression.Problem
import DeferredText.Report.Standard
import DeferredText.Template.Segment
import DeferredText.Text.Blank

/-!
Contract: finding, reading and checking the expressions of a template.

Owns: the list of expressions, reading one with its errors, the helpers a template
calls, and validation without rendering.

Does not own: evaluation (`Template.Evaluate`).
-/

namespace DeferredText

namespace Template

/-- The expressions of a text, without the blanks around them. -/
def expressions (text : String) : List String :=
  (Segment.cut text.toList).filterMap fun segment =>
    segment.body?.map fun body => String.ofList (trimBlank body)

def hasExpressions (text : String) : Bool :=
  (Segment.cut text.toList).any fun segment => segment.body?.isSome

/-- A text with a null character is refused before it is read. -/
def nullCharacter : Failure :=
  .badValue "source code string cannot contain null bytes"

/-- Reads an expression: none if it is no expression at all. -/
def syntaxOf (expression : List Char) : Outcome (Option Expr) :=
  if expression.contains (Char.ofNat 0) then .error nullCharacter
  else .ok (Expr.ofText? expression)

def invalidExpression (expression : String) : String :=
  "Invalid expression '" ++ expression ++ "': invalid syntax"

/-- Reads an expression and refuses whatever templates may not hold. -/
def readExpression (expression : String) : Outcome Expr := do
  match ← syntaxOf (trimBlank expression.toList) with
  | none => throw (.reported (.templateError (invalidExpression expression) expression))
  | some tree =>
      let problems := tree.problems
      if problems.isEmpty then return tree
      else
        let detail := "; ".intercalate (problems.map Problem.message)
        throw (.reported (.templateError detail expression))

/-- Names of the helpers that the expressions of a text call; an expression that
cannot be read calls none. -/
def helperCalls (text : String) : Outcome (List String) := do
  let calls ← (expressions text).mapM fun expression => do
    match ← syntaxOf expression.toList with
    | some tree => return tree.helperCalls
    | none => return []
  return calls.flatten

/-- Everything wrong with the expressions of a text. -/
def validate (text : String) : Outcome (List String) := do
  let problems ← (expressions text).mapM fun expression => do
    if expression == "" then return ["Empty expression: \x7b\x7b \x7d\x7d"]
    else
      match ← syntaxOf expression.toList with
      | some tree => return tree.problems.map Problem.message
      | none => return [invalidExpression expression]
  return problems.flatten

end Template

end DeferredText
