import DeferredText.Value.Basic
import Mathlib.Algebra.Field.Rat
import Mathlib.Tactic.NormNum

/-!
Contract: which keys count as the same.

Numbers are the same key exactly if they are worth the same, so an integer, a datum and a truth
value may be one key; every other value is compared part by part. Being the same key is an
equivalence.

Owns: the worth of a number, and the laws of `Value.same`.

Does not own: lookups in mappings (`Proofs.Layers`).
-/

namespace DeferredText

/-! ### The worth of a number -/

/-- What a number is worth, however it is given. -/
inductive Worth where
  | undefined
  | infinite (negative : Bool)
  | ratio (quotient : ℚ)

namespace Binary64

/-- The worth of a datum. -/
def worth (datum : Binary64) : Worth :=
  match datum.toRatio?, datum with
  | some pair, _ => .ratio ((pair.1 : ℚ) / pair.2)
  | none, .infinite negative => .infinite negative
  | none, _ => .undefined

variable {datum left right : Binary64} {pair : Int × Nat}

theorem worth_of_toRatio? (finite : datum.toRatio? = some pair) :
    datum.worth = .ratio ((pair.1 : ℚ) / pair.2) := by
  unfold worth
  rw [finite]

theorem denominator_ne_zero (finite : datum.toRatio? = some pair) : (pair.2 : ℚ) ≠ 0 :=
  Nat.cast_ne_zero.mpr (positive_toRatio? finite).ne'

theorem eqInt_iff (datum : Binary64) (number : Int) :
    datum.eqInt number = true ↔ datum.worth = .ratio number := by
  unfold eqInt
  cases finite : datum.toRatio? with
  | none =>
      unfold worth
      rw [finite]
      cases datum <;> simp
  | some pair =>
      rw [worth_of_toRatio? finite, Worth.ratio.injEq, div_eq_iff (denominator_ne_zero finite),
        beq_iff_eq]
      norm_cast

theorem isZero_iff (datum : Binary64) : datum.isZero = true ↔ datum.worth = .ratio 0 := by
  have zero : datum.isZero = datum.eqInt 0 := by
    cases datum with
    | finite negative mantissa exponent =>
        have scaled : (ratio mantissa exponent).1 = 0 ↔ mantissa = 0 := by
          cases exponent with
          | ofNat power => simp [ratio]
          | negSucc power => rfl
        rw [Bool.eq_iff_iff]
        cases negative <;> simp [isZero, eqInt, toRatio?, scaled]
    | _ => rfl
  rw [zero, eqInt_iff, Int.cast_zero]

theorem numEq_iff (first : left.toRatio? = some pair) (right : Binary64) :
    left.numEq right = true ↔ left.worth = right.worth := by
  unfold numEq
  rw [first, worth_of_toRatio? first]
  cases second : right.toRatio? with
  | none =>
      unfold worth
      rw [second]
      cases right <;> simp
  | some other =>
      rw [worth_of_toRatio? second, Worth.ratio.injEq,
        div_eq_div_iff (denominator_ne_zero first) (denominator_ne_zero second)]
      dsimp only
      rw [beq_iff_eq]
      norm_cast

end Binary64

namespace Value

/-- Data are the same key exactly if they are worth the same. -/
theorem sameDatum_iff (left right : Binary64) :
    sameDatum left right = true ↔ left.worth = right.worth := by
  unfold sameDatum
  cases left with
  | finite negative mantissa exponent =>
      have isNumber : ((Binary64.finite negative mantissa exponent) == Binary64.nan) = false := rfl
      rw [isNumber, Bool.false_and, Bool.or_false]
      exact Binary64.numEq_iff rfl right
  | nan => cases right <;> simp [Binary64.numEq, Binary64.toRatio?, Binary64.worth]
  | infinite negative => cases right <;> simp [Binary64.numEq, Binary64.toRatio?, Binary64.worth]

/-- The worth of the real and of the imaginary part. -/
def Numeric.worth : Numeric → Worth × Worth
  | .whole number => (.ratio number, .ratio 0)
  | .datum number => (number.worth, .ratio 0)
  | .complex realPart imaginaryPart => (realPart.worth, imaginaryPart.worth)

/-- Numbers are the same key exactly if they are worth the same. -/
theorem Numeric.same_iff (left right : Numeric) :
    left.same right = true ↔ left.worth = right.worth := by
  cases left with
  | whole left =>
      cases right with
      | whole right => simp [same, worth]
      | datum right =>
          simp only [same, worth, Binary64.eqInt_iff, Prod.mk.injEq, and_true]
          exact eq_comm
      | complex realPart imaginaryPart =>
          simp only [same, worth, Bool.and_eq_true, Binary64.eqInt_iff, Binary64.isZero_iff,
            Prod.mk.injEq]
          exact and_congr eq_comm eq_comm
  | datum left =>
      cases right with
      | whole right => simp [same, worth, Binary64.eqInt_iff]
      | datum right => simp [same, worth, sameDatum_iff]
      | complex realPart imaginaryPart =>
          simp only [same, worth, Bool.and_eq_true, sameDatum_iff, Binary64.isZero_iff,
            Prod.mk.injEq]
          exact and_congr_right fun _ => eq_comm
  | complex realPart imaginaryPart =>
      cases right with
      | whole right => simp [same, worth, Binary64.eqInt_iff, Binary64.isZero_iff]
      | datum right => simp [same, worth, sameDatum_iff, Binary64.isZero_iff]
      | complex otherReal otherImaginary => simp [same, worth, sameDatum_iff]

/-! ### Numbers as keys -/

/-- How a value is compared that is a number: with numbers by their worth, and with nothing else. -/
theorem same_number {left : Value} {number : Numeric} (isNumber : left.numeric? = some number)
    (right : Value) : left.same right = right.numeric?.any number.same := by
  cases left <;> cases isNumber <;> cases right <;> rfl

theorem Numeric.same_comm (left right : Numeric) : left.same right = right.same left := by
  rw [Bool.eq_iff_iff, same_iff, same_iff]
  exact eq_comm

theorem Numeric.same_congr {left middle : Numeric} (isSame : left.same middle = true)
    (right : Numeric) : left.same right = middle.same right := by
  rw [same_iff] at isSame
  rw [Bool.eq_iff_iff, same_iff, same_iff, isSame]

theorem same_self_number {value : Value} {number : Numeric}
    (isNumber : value.numeric? = some number) : value.same value = true := by
  rw [same_number isNumber, isNumber, Option.any_some, Numeric.same_iff]

theorem same_comm_number {left : Value} {number : Numeric}
    (isNumber : left.numeric? = some number) (right : Value) :
    left.same right = right.same left := by
  cases isOther : right.numeric? with
  | some other =>
      rw [same_number isNumber, same_number isOther, isNumber, isOther, Option.any_some,
        Option.any_some, Numeric.same_comm]
  | none =>
      rw [same_number isNumber, isOther]
      cases right <;> cases isOther <;> cases left <;> cases isNumber <;> rfl

theorem same_congr_number {left middle : Value} {number : Numeric}
    (isNumber : left.numeric? = some number) (isSame : left.same middle = true) (right : Value) :
    left.same right = middle.same right := by
  rw [same_number isNumber, Option.any_eq_true] at isSame
  obtain ⟨other, isOther, agree⟩ := isSame
  rw [same_number isNumber, same_number isOther]
  exact congrArg (fun test => right.numeric?.any test) (funext (Numeric.same_congr agree))

/-! ### Being the same key -/

mutual

/-- Every value is the same key as itself. -/
theorem same_self : ∀ value : Value, value.same value = true
  | .bool _ | .int _ | .float _ | .complex _ _ => same_self_number rfl
  | .none | .ellipsis => rfl
  | .text content => beq_self_eq_true content
  | .bytes content => beq_self_eq_true content
  | .object identity _ => beq_self_eq_true identity
  | .opaqueOf name => beq_self_eq_true name
  | .list items => sameItems_self items
  | .tuple items => sameItems_self items
  | .dict entries => sameEntries_self entries
  | .exception kind arguments => by
      rw [same, beq_self_eq_true, sameItems_self, Bool.and_self]

theorem sameItems_self : ∀ items : List Value, sameItems items items = true
  | [] => rfl
  | item :: rest => by rw [sameItems, same_self item, sameItems_self rest, Bool.and_self]

theorem sameEntries_self : ∀ entries : List (Value × Value), sameEntries entries entries = true
  | [] => rfl
  | (key, value) :: rest => by
      rw [sameEntries, same_self key, same_self value, sameEntries_self rest, Bool.and_self,
        Bool.and_self]

end

mutual

theorem same_comm : ∀ left right : Value, left.same right = right.same left
  | .bool _, right | .int _, right | .float _, right | .complex _ _, right =>
      same_comm_number rfl right
  | .none, right => by cases right <;> rfl
  | .ellipsis, right => by cases right <;> rfl
  | .text left, right => by
      cases right with
      | text right => exact BEq.comm
      | _ => rfl
  | .bytes left, right => by
      cases right with
      | bytes right => exact BEq.comm
      | _ => rfl
  | .object left _, right => by
      cases right with
      | object right _ => exact BEq.comm
      | _ => rfl
  | .opaqueOf left, right => by
      cases right with
      | opaqueOf right => exact BEq.comm
      | _ => rfl
  | .list left, right => by
      cases right with
      | list right => exact sameItems_comm left right
      | _ => rfl
  | .tuple left, right => by
      cases right with
      | tuple right => exact sameItems_comm left right
      | _ => rfl
  | .dict left, right => by
      cases right with
      | dict right => exact sameEntries_comm left right
      | _ => rfl
  | .exception kind left, right => by
      cases right with
      | exception other right =>
          rw [same, same, sameItems_comm left right, BEq.comm (a := kind)]
      | _ => rfl

theorem sameItems_comm : ∀ left right : List Value, sameItems left right = sameItems right left
  | [], [] | [], _ :: _ | _ :: _, [] => rfl
  | item :: rest, other :: others => by
      rw [sameItems, sameItems, same_comm item other, sameItems_comm rest others]

theorem sameEntries_comm : ∀ left right : List (Value × Value),
    sameEntries left right = sameEntries right left
  | [], [] | [], _ :: _ | _ :: _, [] => rfl
  | (key, value) :: rest, (otherKey, other) :: others => by
      rw [sameEntries, sameEntries, same_comm key otherKey, same_comm value other,
        sameEntries_comm rest others]

end

mutual

/-- Values that are the same key are the same as the same others. -/
theorem same_congr : ∀ left middle : Value, left.same middle = true → ∀ right : Value,
    left.same right = middle.same right
  | .bool _, _, isSame, right | .int _, _, isSame, right | .float _, _, isSame, right
  | .complex _ _, _, isSame, right => same_congr_number rfl isSame right
  | .none, middle, isSame, right => by cases middle <;> first | rfl | cases isSame
  | .ellipsis, middle, isSame, right => by cases middle <;> first | rfl | cases isSame
  | .text left, middle, isSame, right => by
      cases middle with
      | text middle => rw [eq_of_beq (show (left == middle) = true from isSame)]
      | _ => cases isSame
  | .bytes left, middle, isSame, right => by
      cases middle with
      | bytes middle => rw [eq_of_beq (show (left == middle) = true from isSame)]
      | _ => cases isSame
  | .object left _, middle, isSame, right => by
      cases middle with
      | object middle _ =>
          rw [eq_of_beq (show (left == middle) = true from isSame)]
          cases right <;> rfl
      | _ => cases isSame
  | .opaqueOf left, middle, isSame, right => by
      cases middle with
      | opaqueOf middle => rw [eq_of_beq (show (left == middle) = true from isSame)]
      | _ => cases isSame
  | .list left, middle, isSame, right => by
      cases middle with
      | list middle =>
          cases right with
          | list right => exact sameItems_congr left middle isSame right
          | _ => rfl
      | _ => cases isSame
  | .tuple left, middle, isSame, right => by
      cases middle with
      | tuple middle =>
          cases right with
          | tuple right => exact sameItems_congr left middle isSame right
          | _ => rfl
      | _ => cases isSame
  | .dict left, middle, isSame, right => by
      cases middle with
      | dict middle =>
          cases right with
          | dict right => exact sameEntries_congr left middle isSame right
          | _ => rfl
      | _ => cases isSame
  | .exception kind left, middle, isSame, right => by
      cases middle with
      | exception other middle =>
          rw [same, Bool.and_eq_true, beq_iff_eq] at isSame
          cases right with
          | exception third right =>
              rw [same, same, isSame.1, sameItems_congr left middle isSame.2 right]
          | _ => rfl
      | _ => cases isSame

theorem sameItems_congr : ∀ left middle : List Value, sameItems left middle = true →
    ∀ right : List Value, sameItems left right = sameItems middle right
  | [], [], _, _ => rfl
  | item :: rest, other :: others, isSame, right => by
      rw [sameItems, Bool.and_eq_true] at isSame
      cases right with
      | nil => rfl
      | cons third further =>
          rw [sameItems, sameItems, same_congr item other isSame.1 third,
            sameItems_congr rest others isSame.2 further]
  | [], _ :: _, isSame, _ | _ :: _, [], isSame, _ => nomatch isSame

theorem sameEntries_congr : ∀ left middle : List (Value × Value),
    sameEntries left middle = true →
    ∀ right : List (Value × Value), sameEntries left right = sameEntries middle right
  | [], [], _, _ => rfl
  | (key, value) :: rest, (otherKey, other) :: others, isSame, right => by
      rw [sameEntries, Bool.and_eq_true, Bool.and_eq_true] at isSame
      obtain ⟨⟨keys, values⟩, entries⟩ := isSame
      cases right with
      | nil => rfl
      | cons third further =>
          rw [sameEntries, sameEntries, same_congr key otherKey keys third.1,
            same_congr value other values third.2, sameEntries_congr rest others entries further]
  | [], _ :: _, isSame, _ | _ :: _, [], isSame, _ => nomatch isSame

end

/-- Being the same key carries over from the left. -/
theorem same_trans {left middle right : Value} (first : left.same middle = true)
    (second : middle.same right = true) : left.same right = true := by
  rw [same_congr left middle first, second]

end Value

end DeferredText
