import DeferredText.Number.Binary64

/-!
Contract: the fewest decimal digits that read back as a given binary64 datum.

On the grid of each digit count from 1 to 17 the two neighbours of the exact value
are tried; the first grid with a neighbour that rounds to the datum wins, and of
two such neighbours the nearer one.

Owns: decimal magnitude, the grid search, and rounding to a given digit count.

Does not own: where the point is written (`Number.Layout`).
-/

namespace DeferredText

/-- `digits * 10 ^ exponent` as exact decimal notation. -/
structure Decimal where
  digits : Nat
  exponent : Int
deriving DecidableEq, Repr

namespace Decimal

def digitCount (number : Nat) : Nat :=
  (Nat.toDigits 10 number).length

/-- Greatest `power` with `10 ^ power ≤ numerator / denominator`, for positive arguments. -/
def floorLog10
    (numerator denominator : Nat) : Int :=
  let guess : Int := (digitCount numerator : Int) - (digitCount denominator : Int)
  let reaches : Bool :=
    match guess with
    | .ofNat power => denominator * Nat.pow 10 power ≤ numerator
    | .negSucc power => denominator ≤ numerator * Nat.pow 10 (power + 1)
  if reaches then guess else guess - 1

/-- `numerator / denominator / 10 ^ exponent` as a pair of naturals. -/
def scaled
    (numerator denominator : Nat)
    (exponent : Int) : Nat × Nat :=
  match exponent with
  | .ofNat power => (numerator, denominator * Nat.pow 10 power)
  | .negSucc power => (numerator * Nat.pow 10 (power + 1), denominator)

/-- Drops trailing zeros, at most `fuel` of them. -/
def stripZeros : Nat → Decimal → Decimal
  | 0, decimal => decimal
  | fuel + 1, decimal =>
      if decimal.digits ≠ 0 ∧ decimal.digits % 10 = 0 then
        stripZeros fuel ⟨decimal.digits / 10, decimal.exponent + 1⟩
      else decimal

/-- The neighbour on the grid of `10 ^ exponent` that rounds to `datum`, if any. -/
def onGrid?
    (datum : Binary64)
    (numerator denominator : Nat)
    (exponent : Int) : Option Decimal :=
  let pair := scaled numerator denominator exponent
  let below := pair.1 / pair.2
  let readsBack (digits : Nat) : Bool :=
    Binary64.ofDecimal false digits exponent == datum
  let nearerAbove := pair.2 < 2 * (pair.1 % pair.2)
  match readsBack below, readsBack (below + 1) with
  | true, true => some ⟨if nearerAbove then below + 1 else below, exponent⟩
  | true, false => some ⟨below, exponent⟩
  | false, true => some ⟨below + 1, exponent⟩
  | false, false => none

/-- Tries the grids of `count`, `count + 1`, … digits, `fuel` of them. -/
def search
    (datum : Binary64)
    (numerator denominator : Nat)
    (magnitude : Int) : Nat → Nat → Decimal
  | 0, count =>
      let exponent := magnitude - (count : Int) + 1
      let pair := scaled numerator denominator exponent
      ⟨Binary64.roundHalfEven pair.1 pair.2, exponent⟩
  | fuel + 1, count =>
      match onGrid? datum numerator denominator (magnitude - (count : Int) + 1) with
      | some decimal => decimal
      | none => search datum numerator denominator magnitude fuel (count + 1)

/-- Shortest decimal that reads back as the positive datum `mantissa * 2 ^ exponent`. -/
def shortest
    (mantissa : Nat)
    (exponent : Int) : Decimal :=
  if mantissa = 0 then ⟨0, 0⟩
  else
    let pair := Binary64.ratio mantissa exponent
    let magnitude := floorLog10 pair.1 pair.2
    stripZeros 20
      (search (.finite false mantissa exponent) pair.1 pair.2 magnitude 16 1)

/-- The exact quotient rounded to `count` significant digits, a half to the even one. -/
def significant
    (numerator denominator : Nat)
    (count : Nat) : Decimal :=
  if numerator = 0 then ⟨0, 1 - (count : Int)⟩
  else
    let exponent := floorLog10 numerator denominator - (count : Int) + 1
    let pair := scaled numerator denominator exponent
    let digits := Binary64.roundHalfEven pair.1 pair.2
    if digits = Nat.pow 10 count then ⟨Nat.pow 10 (count - 1), exponent + 1⟩
    else ⟨digits, exponent⟩

/-- The exact quotient as a whole number of units of `10 ^ (-places)`, a half to the even one. -/
def fixedUnits
    (numerator denominator places : Nat) : Nat :=
  Binary64.roundHalfEven (numerator * Nat.pow 10 places) denominator

end Decimal

end DeferredText
