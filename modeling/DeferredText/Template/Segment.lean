/-!
Contract: the expressions inside a text.

An expression stands between two opening and two closing braces. Its body has at
least one character and ends at the first closing pair after that one.

Owns: cutting a text into literal characters and expression bodies.

Does not own: the syntax of bodies (`Expression.Parse`).
-/

namespace DeferredText

/-- A literal character, or the body of an expression. -/
inductive Segment where
  | literal (character : Char)
  | expression (body : List Char)
deriving DecidableEq, Repr

namespace Segment

/-- The characters before the first closing pair. -/
def untilClosed? : List Char → Option (List Char)
  | [] => none
  | head :: rest =>
      if head = '\x7d' ∧ rest.head? = some '\x7d' then some []
      else (untilClosed? rest).map (head :: ·)

/-- The body of the expression that starts where the text starts. -/
def opened? : List Char → Option (List Char)
  | '\x7b' :: '\x7b' :: first :: rest => (untilClosed? rest).map (first :: ·)
  | _ => none

/-- Cuts a text; the next `skipped` characters belong to an expression already cut. -/
def cutFrom : Nat → List Char → List Segment
  | _, [] => []
  | skipped + 1, _ :: rest => cutFrom skipped rest
  | 0, head :: rest =>
      match opened? (head :: rest) with
      | some body => .expression body :: cutFrom (body.length + 3) rest
      | none => .literal head :: cutFrom 0 rest

def cut (text : List Char) : List Segment :=
  cutFrom 0 text

def body? : Segment → Option (List Char)
  | .expression body => some body
  | .literal _ => none

end Segment

end DeferredText
