/-!
Contract: binary64 numbers as exact dyadic rationals.

A finite datum is a sign, a mantissa and a power of two, so every question about
it is a question about integers. `ofRatio` is the only rounding step: it takes an
exact quotient to the nearest datum, a half going to the even mantissa.

Owns: the data type, rounding, exact comparison, and the four operations that
configuration values and clocks need.

Does not own: decimal text (`Number.Shortest`, `Number.Layout`).
-/

namespace DeferredText

inductive Binary64 where
  | nan
  | infinite (negative : Bool)
  | finite (negative : Bool) (mantissa : Nat) (exponent : Int)
deriving DecidableEq, Repr, Inhabited

namespace Binary64

/-- Least exponent of a datum; the subnormal ones all have it. -/
def leastExponent : Int := -1074

/-- Greatest exponent of a datum. -/
def greatestExponent : Int := 971

def zero (negative : Bool) : Binary64 :=
  .finite negative 0 leastExponent

/-- The quotient `numerator / denominator / 2 ^ exponent` as a pair of naturals. -/
def scaled
    (numerator denominator : Nat)
    (exponent : Int) : Nat × Nat :=
  match exponent with
  | .ofNat power => (numerator, denominator * Nat.pow 2 power)
  | .negSucc power => (numerator * Nat.pow 2 (power + 1), denominator)

/-- Nearest natural to `numerator / denominator`, a half going to the even one. -/
def roundHalfEven
    (numerator denominator : Nat) : Nat :=
  let whole := numerator / denominator
  let twice := 2 * (numerator % denominator)
  if twice < denominator then whole
  else if denominator < twice then whole + 1
  else whole + whole % 2

/-- The exponent at which `numerator / denominator` has a mantissa of 53 bits,
or the least exponent if that is greater. -/
def ratioExponent
    (numerator denominator : Nat) : Int :=
  let guess : Int := (numerator.log2 : Int) - (denominator.log2 : Int) - 52
  let pair := scaled numerator denominator guess
  let exact := if pair.1 / pair.2 < Nat.pow 2 52 then guess - 1 else guess
  max leastExponent exact

/-- Nearest datum to `numerator / denominator`, for a positive denominator. -/
def ofRatio
    (negative : Bool)
    (numerator denominator : Nat) : Binary64 :=
  if numerator = 0 then zero negative
  else
    let exponent := ratioExponent numerator denominator
    let pair := scaled numerator denominator exponent
    let mantissa := roundHalfEven pair.1 pair.2
    let carried := mantissa = Nat.pow 2 53
    let settled : Nat × Int :=
      if carried then (Nat.pow 2 52, exponent + 1) else (mantissa, exponent)
    if greatestExponent < settled.2 then .infinite negative
    else .finite negative settled.1 settled.2

/-- Nearest datum to an integer. -/
def ofInt (number : Int) : Binary64 :=
  ofRatio (number < 0) number.natAbs 1

/-- Nearest datum to `digits * 10 ^ exponent`. Exponents far outside the range
are settled without computing the power. -/
def ofDecimal
    (negative : Bool)
    (digits : Nat)
    (exponent : Int) : Binary64 :=
  if digits = 0 then zero negative
  else
    let magnitude := (digits.log2 : Int) / 4 + exponent
    if 400 < magnitude then .infinite negative
    else if (digits.log2 : Int) / 3 + 1 + exponent < -400 then zero negative
    else
      match exponent with
      | .ofNat power => ofRatio negative (digits * Nat.pow 10 power) 1
      | .negSucc power => ofRatio negative digits (Nat.pow 10 (power + 1))

def isNegative : Binary64 → Bool
  | .nan => false
  | .infinite negative => negative
  | .finite negative _ _ => negative

def isZero : Binary64 → Bool
  | .finite _ mantissa _ => mantissa == 0
  | _ => false

def isFinite : Binary64 → Bool
  | .finite _ _ _ => true
  | _ => false

def neg : Binary64 → Binary64
  | .nan => .nan
  | .infinite negative => .infinite (!negative)
  | .finite negative mantissa exponent => .finite (!negative) mantissa exponent

def abs : Binary64 → Binary64
  | .nan => .nan
  | .infinite _ => .infinite false
  | .finite _ mantissa exponent => .finite false mantissa exponent

/-- Magnitude of a finite datum as a quotient of naturals. -/
def ratio
    (mantissa : Nat)
    (exponent : Int) : Nat × Nat :=
  match exponent with
  | .ofNat power => (mantissa * Nat.pow 2 power, 1)
  | .negSucc power => (mantissa, Nat.pow 2 (power + 1))

/-- A finite datum as a signed numerator and a positive denominator. -/
def toRatio? : Binary64 → Option (Int × Nat)
  | .finite negative mantissa exponent =>
      let pair := ratio mantissa exponent
      some (if negative then -(pair.1 : Int) else (pair.1 : Int), pair.2)
  | _ => none

theorem positive_ratio (mantissa : Nat) (exponent : Int) : 0 < (ratio mantissa exponent).2 := by
  cases exponent with
  | ofNat power => exact Nat.one_pos
  | negSucc power => exact Nat.two_pow_pos _

theorem positive_toRatio? {datum : Binary64} {pair : Int × Nat}
    (finite : datum.toRatio? = some pair) : 0 < pair.2 := by
  cases datum with
  | nan => cases finite
  | infinite sign => cases finite
  | finite sign mantissa exponent =>
      cases finite
      exact positive_ratio mantissa exponent

/-- Numeric equality: zeros of either sign agree and nothing equals `nan`. -/
def numEq
    (left right : Binary64) : Bool :=
  match left.toRatio?, right.toRatio? with
  | some first, some second => first.1 * (second.2 : Int) == second.1 * (first.2 : Int)
  | none, none =>
      match left, right with
      | .infinite first, .infinite second => first == second
      | _, _ => false
  | _, _ => false

/-- Numeric equality with an integer, without rounding the integer. -/
def eqInt
    (datum : Binary64)
    (number : Int) : Bool :=
  match datum.toRatio? with
  | some pair => pair.1 == number * (pair.2 : Int)
  | none => false

/-- The datum `numerator / denominator` for a signed numerator. -/
def ofSignedRatio
    (numerator : Int)
    (denominator : Nat) : Binary64 :=
  ofRatio (numerator < 0) numerator.natAbs denominator

/-- Correctly rounded sum. -/
def add
    (left right : Binary64) : Binary64 :=
  match left.toRatio?, right.toRatio? with
  | some first, some second =>
      let total := first.1 * (second.2 : Int) + second.1 * (first.2 : Int)
      if total = 0 then zero (left.isNegative && right.isNegative)
      else ofSignedRatio total (first.2 * second.2)
  | some _, none => right
  | none, some _ => left
  | none, none =>
      match left, right with
      | .infinite first, .infinite second => if first == second then left else .nan
      | _, _ => .nan

/-- Correctly rounded product. -/
def mul
    (left right : Binary64) : Binary64 :=
  let negative := left.isNegative != right.isNegative
  match left.toRatio?, right.toRatio? with
  | some first, some second =>
      ofRatio negative (first.1 * second.1).natAbs (first.2 * second.2)
  | _, _ =>
      if left = .nan || right = .nan || left.isZero || right.isZero then .nan
      else .infinite negative

/-- Correctly rounded quotient by a positive integer. -/
def divNat
    (datum : Binary64)
    (divisor : Nat) : Binary64 :=
  match datum.toRatio? with
  | some pair => ofRatio datum.isNegative pair.1.natAbs (pair.2 * divisor)
  | none => datum

/-- Integer part of a finite datum, toward zero. -/
def truncate? (datum : Binary64) : Option Int :=
  datum.toRatio?.map fun pair => Int.tdiv pair.1 (pair.2 : Int)

end Binary64

end DeferredText
