import DeferredText.Placeholder.Shape

/-!
Contract: fresh placeholder tokens from a pseudo-random sequence.

Owns: the generator and its alphabet, drawing the characters of a token.

Does not own: distinctness of tokens, which callers may only assume.
-/

namespace DeferredText

/-- State of a linear congruential generator. -/
structure Supply where
  state : Nat
deriving DecidableEq, Repr

namespace Supply

def initial : Supply := ⟨1⟩

def alphabet : List Char :=
  "abcdefghijklmnopqrstuvwxyzABCDEFGHIJKLMNOPQRSTUVWXYZ0123456789".toList

def step (supply : Supply) : Supply :=
  ⟨(supply.state * 1103515245 + 12345) % Nat.pow 2 31⟩

/-- The character a state stands for. -/
def character (supply : Supply) : Char :=
  alphabet.getD (supply.state / Nat.pow 2 16 % alphabet.length) 'a'

/-- The next `count` characters, and the supply after them. -/
def draw : Nat → Supply → List Char × Supply
  | 0, supply => ([], supply)
  | count + 1, supply =>
      let next := supply.step
      let rest := draw count next
      (next.character :: rest.1, rest.2)

/-- A fresh token of a shape. -/
def token
    (shape : PlaceholderShape)
    (supply : Supply) : String × Supply :=
  let drawn := draw shape.length supply
  (String.ofList (shape.token drawn.1), drawn.2)

/-- `count` fresh tokens. -/
def tokens
    (shape : PlaceholderShape) : Nat → Supply → List String × Supply
  | 0, supply => ([], supply)
  | count + 1, supply =>
      let first := token shape supply
      let rest := tokens shape count first.2
      (first.1 :: rest.1, rest.2)

end Supply

end DeferredText
