import NestBackend.Binary64
import NestBackend.JavaScript

namespace NestBackend

/-!
# Arithmetic on doubles

A number that was read from a text stands for the nearest double, and every
operation rounds its result.
-/

namespace JavaScript.Numeric

/-- The double that a number stands for. -/
def toDouble : Numeric → Numeric
  | .finite value =>
      if |value| < Binary64.limit then
        .finite (Binary64.nearest value)
      else
        .infinite (value < 0)
  | other => other

/-- The operator `*`. -/
def times : Numeric → Numeric → Numeric
  | .finite left, .finite right => toDouble (.finite (left * right))
  | .finite value, .infinite negative =>
      if value = 0 then .notANumber else .infinite (negative != (value < 0))
  | .infinite negative, .finite value =>
      if value = 0 then .notANumber else .infinite (negative != (value < 0))
  | .infinite left, .infinite right => .infinite (left != right)
  | _, _ => .notANumber

/-- The operator `/`. -/
def divide : Numeric → Numeric → Numeric
  | .finite left, .finite right =>
      if right = 0 then
        if left = 0 then .notANumber else .infinite (left < 0)
      else
        toDouble (.finite (left / right))
  | .infinite negative, .finite right =>
      .infinite (negative != decide (right < 0))
  | .finite _, .infinite _ => .finite 0
  | _, _ => .notANumber

/-- `Math.ceil`. -/
def ceil : Numeric → Numeric
  | .finite value => .finite (⌈value⌉ : Int)
  | other => other

/-- Neither infinite nor `NaN`. -/
def isFinite : Numeric → Bool
  | .finite _ => true
  | _ => false

/-- A number is as large as another one. -/
def atLeast (least : Rat) : Numeric → Bool
  | .finite value => least ≤ value
  | .infinite negative => !negative
  | .notANumber => false

/-- A number is as small as another one. -/
def atMost (most : Rat) : Numeric → Bool
  | .finite value => value ≤ most
  | .infinite negative => negative
  | .notANumber => false

/-- A number below the limit is rounded. -/
theorem toDouble_of_lt
    {value : Rat}
    (nonneg : 0 ≤ value)
    (below : value < Binary64.limit) :
    toDouble (.finite value) = .finite (Binary64.nearest value) := by
  simp only [toDouble, abs_of_nonneg nonneg, below, ↓reduceIte]

/-- A number from the limit on is infinite. -/
theorem toDouble_of_limit_le
    {value : Rat}
    (above : Binary64.limit ≤ value) :
    toDouble (.finite value) = .infinite false := by
  have positive : 0 < value :=
    (Binary64.lt_limit (by norm_num)).trans_le above
  simp only [toDouble, abs_of_pos positive, not_lt.mpr above, ↓reduceIte,
    not_lt.mpr positive.le, decide_false]

/-- A natural number of up to 53 bits stays as it is. -/
theorem toDouble_natCast
    {count : Nat}
    (few : count ≤ 2 ^ 53) :
    toDouble (.finite count) = .finite count := by
  have fewRat : (count : Rat) ≤ 2 ^ 53 := by exact_mod_cast few
  have below : (count : Rat) < Binary64.limit :=
    Binary64.lt_limit (fewRat.trans (by norm_num))
  rw [toDouble_of_lt (Nat.cast_nonneg count) below,
    (Binary64.isDouble_natCast few).nearest_eq]

/-- What a number stands for, where it is finite. -/
theorem isDouble_of_toDouble
    {number : Numeric}
    {value : Rat}
    (same : number.toDouble = .finite value) :
    Binary64.IsDouble value ∧ value < Binary64.limit := by
  cases number with
  | finite given =>
      simp only [toDouble] at same
      split at same
      next below =>
        obtain rfl := Numeric.finite.inj same
        exact ⟨Binary64.isDouble_nearest given,
          Binary64.nearest_lt_limit (abs_lt.mp below).2⟩
      next => cases same
  | infinite negative => cases same
  | notANumber => cases same

/-- Numbers stand for doubles in the same order. -/
theorem nearest_le_of_toDouble
    {value double bound : Rat}
    (same : toDouble (.finite value) = .finite double)
    (nonneg : 0 ≤ bound)
    (below : bound ≤ value) :
    Binary64.nearest bound ≤ double := by
  simp only [toDouble] at same
  split at same
  next =>
    obtain rfl := Numeric.finite.inj same
    exact Binary64.nearest_mono nonneg below
  next => cases same

/-- A natural number below a number stays below the double. -/
theorem natCast_le_of_toDouble
    {value double : Rat}
    {count : Nat}
    (same : toDouble (.finite value) = .finite double)
    (few : count ≤ 2 ^ 53)
    (below : (count : Rat) ≤ value) :
    (count : Rat) ≤ double := by
  rw [← (Binary64.isDouble_natCast few).nearest_eq]
  exact nearest_le_of_toDouble same (Nat.cast_nonneg count) below

/-- A number that stands for a double is finite. -/
theorem exists_of_toDouble
    {number : Numeric}
    {double : Rat}
    (same : number.toDouble = .finite double) :
    ∃ value, number = .finite value := by
  cases number with
  | finite value => exact ⟨value, rfl⟩
  | infinite negative => cases same
  | notANumber => cases same

/-- A product with a finite number is finite only if the other one is. -/
theorem exists_of_times
    {number : Numeric}
    {size product : Rat}
    (same : number.times (.finite size) = .finite product) :
    ∃ value,
      number = .finite value ∧
        toDouble (.finite (value * size)) = .finite product := by
  cases number with
  | finite value => exact ⟨value, rfl, same⟩
  | infinite negative =>
      simp only [times] at same
      split at same <;> cases same
  | notANumber => cases same

end JavaScript.Numeric

end NestBackend
