import Mathlib.Algebra.Order.Field.Power
import Mathlib.Algebra.Order.Round
import Mathlib.Data.Int.Log
import Mathlib.Data.Rat.Floor
import Mathlib.Tactic.FieldSimp
import Mathlib.Tactic.Linarith

namespace NestBackend

/-!
# Doubles

A rational number is rounded to the nearest number with a significand of 53
bits and an exponent of at least -1074, of two equally near ones to the one with
the even significand.  From `limit` on there is no finite double to round to.

The zeros are one number here, as no comparison tells them apart.
-/

namespace Binary64

/-! ## Rounding to an integer -/

/-- The nearest integer, of two equally near ones the even one. -/
def roundEven (value : Rat) : Int :=
  let below := ⌊value⌋
  let rest := value - below
  if rest < 1 / 2 then
    below
  else if 1 / 2 < rest then
    below + 1
  else if below % 2 = 0 then
    below
  else
    below + 1

/-- The rounded integer is the one below, or the next one. -/
theorem roundEven_cases (value : Rat) :
    (roundEven value = ⌊value⌋ ∧ value - ⌊value⌋ ≤ 1 / 2) ∨
      (roundEven value = ⌊value⌋ + 1 ∧ 1 / 2 ≤ value - ⌊value⌋) := by
  unfold roundEven
  simp only
  split
  next less => exact .inl ⟨rfl, less.le⟩
  next notLess =>
    split
    next more => exact .inr ⟨rfl, more.le⟩
    next notMore =>
      split
      next => exact .inl ⟨rfl, not_lt.mp notMore⟩
      next => exact .inr ⟨rfl, not_lt.mp notLess⟩

/-- Rounding goes no further than one half. -/
theorem abs_roundEven_sub_le (value : Rat) :
    |(roundEven value : Rat) - value| ≤ 1 / 2 := by
  have below := Int.floor_le value
  have above := Int.lt_floor_add_one value
  rw [abs_le]
  rcases roundEven_cases value with ⟨same, near⟩ | ⟨next, near⟩
  · rw [same]
    constructor <;> linarith
  · rw [next]
    push_cast
    constructor <;> linarith

/-- An integer below stays below. -/
theorem le_roundEven
    {count : Int}
    {value : Rat}
    (below : (count : Rat) ≤ value) :
    count ≤ roundEven value := by
  have floored := Int.le_floor.mpr below
  rcases roundEven_cases value with ⟨same, -⟩ | ⟨next, -⟩
  · omega
  · omega

/-- An integer above stays above. -/
theorem roundEven_le
    {count : Int}
    {value : Rat}
    (above : value ≤ count) :
    roundEven value ≤ count := by
  have floored := Int.floor_le value
  rcases roundEven_cases value with ⟨same, -⟩ | ⟨next, near⟩
  · rw [same]
    exact_mod_cast floored.trans above
  · have strictly : (⌊value⌋ : Rat) < count := by linarith
    have inIntegers : ⌊value⌋ < count := by exact_mod_cast strictly
    omega

/-- Rounding to an integer keeps the order. -/
theorem roundEven_mono
    {left right : Rat}
    (le : left ≤ right) :
    roundEven left ≤ roundEven right := by
  by_contra greater
  have next : roundEven right + 1 ≤ roundEven left := not_le.mp greater
  have nextRat : (roundEven right : Rat) + 1 ≤ roundEven left := by
    exact_mod_cast next
  have leftNear := abs_le.mp (abs_roundEven_sub_le left)
  have rightNear := abs_le.mp (abs_roundEven_sub_le right)
  -- both are halfway between the two integers
  have same : left = right := by linarith
  rw [same] at next
  omega

/-- An even integer takes in what is one half away at most. -/
theorem roundEven_of_even
    {count : Int}
    {value : Rat}
    (even : count % 2 = 0)
    (near : |value - count| ≤ 1 / 2) :
    roundEven value = count := by
  obtain ⟨notBelow, notAbove⟩ := abs_le.mp near
  have floored := Int.floor_le value
  have next := Int.lt_floor_add_one value
  have lower : (count : Rat) < ⌊value⌋ + 2 := by linarith
  have upper : (⌊value⌋ : Rat) < count + 1 := by linarith
  have lowerInt : count < ⌊value⌋ + 2 := by exact_mod_cast lower
  have upperInt : ⌊value⌋ < count + 1 := by exact_mod_cast upper
  have cases : count = ⌊value⌋ ∨ count = ⌊value⌋ + 1 := by omega
  unfold roundEven
  simp only
  rcases cases with isFloor | isNext
  · have notMore : ¬ 1 / 2 < value - ⌊value⌋ := by
      rw [← isFloor]
      linarith
    have isEven : ⌊value⌋ % 2 = 0 := isFloor ▸ even
    rw [if_neg notMore, if_pos isEven, ite_self]
    exact isFloor.symm
  · have isNextRat : (count : Rat) = ⌊value⌋ + 1 := by exact_mod_cast isNext
    have notLess : ¬ value - ⌊value⌋ < 1 / 2 := by
      intro less
      linarith
    rw [if_neg notLess]
    split
    next => exact isNext.symm
    next =>
      rw [if_neg (by omega)]
      exact isNext.symm

/-- An integer takes in what is less than one half away. -/
theorem roundEven_of_lt
    {count : Int}
    {value : Rat}
    (near : |value - count| < 1 / 2) :
    roundEven value = count := by
  have rounded := abs_roundEven_sub_le value
  have close : |(roundEven value : Rat) - count| < 1 := by
    calc
      |(roundEven value : Rat) - count| =
          |((roundEven value : Rat) - value) + (value - count)| := by
        rw [sub_add_sub_cancel]
      _ ≤ |(roundEven value : Rat) - value| + |value - count| :=
        abs_add_le _ _
      _ < 1 := by linarith
  have inIntegers : |roundEven value - count| < 1 := by exact_mod_cast close
  have same := Int.abs_lt_one_iff.mp inIntegers
  omega

/-! ## Rounding to a double -/

/-- The exponent of the last place of the significand. -/
def lastPlace (value : Rat) : Int :=
  max (Int.log 2 |value| - 52) (-1074)

/-- A unit in the last place. -/
def unit (value : Rat) : Rat := 2 ^ lastPlace value

/-- The nearest double. -/
def nearest (value : Rat) : Rat :=
  roundEven (value / unit value) * unit value

/-- Half a unit in the last place of the largest double. -/
def largestHalf : Rat := 2 ^ 970

/-- Halfway between the largest double and the power of two after it. -/
def limit : Rat := (2 ^ 54 - 1) * largestHalf

/-- A number with a significand of 53 bits that is not too small. -/
def IsDouble (value : Rat) : Prop :=
  ∃ significand exponent : Int,
    value = significand * 2 ^ exponent ∧
      |significand| < 2 ^ 53 ∧ -1074 ≤ exponent

theorem unit_pos (value : Rat) : 0 < unit value :=
  zpow_pos (by norm_num) _

/-- A number in terms of the units of its last place. -/
theorem abs_lt_units (value : Rat) : |value| < 2 ^ 53 * unit value := by
  have below : |value| < (2 : Rat) ^ (Int.log 2 |value| + 1) := by
    exact_mod_cast Int.lt_zpow_succ_log_self one_lt_two |value|
  have exponents : Int.log 2 |value| + 1 ≤ 53 + lastPlace value := by
    unfold lastPlace
    omega
  calc
    |value| < (2 : Rat) ^ (Int.log 2 |value| + 1) := below
    _ ≤ (2 : Rat) ^ (53 + lastPlace value) :=
      zpow_le_zpow_right₀ one_le_two exponents
    _ = 2 ^ 53 * unit value := by
      rw [zpow_add₀ two_ne_zero]
      rfl

/-- A number that is not too small has 53 bits before its last place. -/
theorem units_le_abs
    {value : Rat}
    (nonzero : value ≠ 0)
    (normal : -1074 < lastPlace value) :
    2 ^ 52 * unit value ≤ |value| := by
  have exponent : lastPlace value = Int.log 2 |value| - 52 := by
    unfold lastPlace at normal ⊢
    omega
  calc
    2 ^ 52 * unit value = (2 : Rat) ^ (Int.log 2 |value|) := by
      unfold unit
      rw [exponent, ← zpow_natCast, ← zpow_add₀ two_ne_zero]
      congr 1
      push_cast
      omega
    _ ≤ |value| := by
      exact_mod_cast
        Int.zpow_log_le_self one_lt_two (abs_pos.mpr nonzero)

/-- Rounding goes no further than half a unit in the last place. -/
theorem abs_nearest_sub_le (value : Rat) :
    |nearest value - value| ≤ unit value / 2 := by
  have positive := unit_pos value
  have whole : value = value / unit value * unit value := by
    field_simp
  calc
    |nearest value - value| =
        |(roundEven (value / unit value) - value / unit value) *
          unit value| := by
      rw [sub_mul, ← whole]
      rfl
    _ = |(roundEven (value / unit value) : Rat) - value / unit value| *
          unit value := by
      rw [abs_mul, abs_of_pos positive]
    _ ≤ 1 / 2 * unit value :=
      mul_le_mul_of_nonneg_right (abs_roundEven_sub_le _) positive.le
    _ = unit value / 2 := by ring

/-- Some units in the last place take in what is less than half of one away. -/
theorem nearest_of_lt
    {value : Rat}
    {count : Int}
    (near : |value - count * unit value| < unit value / 2) :
    nearest value = count * unit value := by
  have positive := unit_pos value
  have scaled : |value / unit value - count| < 1 / 2 := by
    have split :
        value / unit value - count =
          (value - count * unit value) / unit value := by
      field_simp
    rw [split, abs_div, abs_of_pos positive, div_lt_iff₀ positive]
    linarith
  unfold nearest
  rw [roundEven_of_lt scaled]

/-- A double is a number of units in the last place of what is no smaller. -/
theorem IsDouble.units
    {double : Rat}
    (isDouble : IsDouble double)
    (value : Rat) :
    (∃ count : Int, double = count * unit value) ∨
      (|double| < 2 ^ 52 * unit value ∧ -1074 < lastPlace value) := by
  obtain ⟨significand, exponent, rfl, few, notSmall⟩ := isDouble
  by_cases coarse : lastPlace value ≤ exponent
  · obtain ⟨shift, isShift⟩ := Int.eq_ofNat_of_zero_le (sub_nonneg.mpr coarse)
    refine .inl ⟨significand * 2 ^ shift, ?_⟩
    have exponents : exponent = shift + lastPlace value := by omega
    unfold unit
    rw [exponents, zpow_add₀ two_ne_zero, zpow_natCast]
    push_cast
    ring
  · refine .inr ⟨?_, by omega⟩
    have fewRat : |(significand : Rat)| < 2 ^ 53 := by exact_mod_cast few
    have positive : (0 : Rat) < 2 ^ exponent := zpow_pos (by norm_num) _
    calc
      |(significand : Rat) * 2 ^ exponent| =
          |(significand : Rat)| * 2 ^ exponent := by
        rw [abs_mul, abs_of_pos positive]
      _ < 2 ^ 53 * 2 ^ exponent := mul_lt_mul_of_pos_right fewRat positive
      _ = 2 ^ 52 * (2 : Rat) ^ (exponent + 1) := by
        rw [zpow_add_one₀ two_ne_zero]
        ring
      _ ≤ 2 ^ 52 * unit value := by
        unfold unit
        gcongr
        · norm_num
        · omega

/-- A double is rounded to itself. -/
theorem IsDouble.nearest_eq
    {double : Rat}
    (isDouble : IsDouble double) :
    nearest double = double := by
  rcases isDouble.units double with ⟨count, isCount⟩ | ⟨small, normal⟩
  · have positive := unit_pos double
    have near : |double - count * unit double| < unit double / 2 := by
      rw [← isCount, sub_self, abs_zero]
      positivity
    exact (nearest_of_lt near).trans isCount.symm
  · by_cases zero : double = 0
    · subst zero
      simp [nearest, roundEven]
    · exact absurd (units_le_abs zero normal) (not_le.mpr small)

/-- What is rounded is a double. -/
theorem isDouble_nearest (value : Rat) : IsDouble (nearest value) := by
  have positive := unit_pos value
  have lower : -1074 ≤ lastPlace value := by
    unfold lastPlace
    omega
  have few : |value / unit value| ≤ ((2 ^ 53 : Int) : Rat) := by
    rw [abs_div, abs_of_pos positive, div_le_iff₀ positive]
    push_cast
    exact (abs_lt_units value).le
  obtain ⟨notBelow, notAbove⟩ := abs_le.mp few
  have atMost := roundEven_le notAbove
  have atLeast : -2 ^ 53 ≤ roundEven (value / unit value) :=
    le_roundEven (by exact_mod_cast notBelow)
  have carried :
      (2 : Rat) ^ 53 * unit value = 1 * 2 ^ (53 + lastPlace value) := by
    rw [zpow_add₀ two_ne_zero, one_mul]
    rfl
  by_cases atTop : roundEven (value / unit value) = 2 ^ 53
  · refine ⟨1, 53 + lastPlace value, ?_, by norm_num, by omega⟩
    unfold nearest
    rw [atTop, Int.cast_one, ← carried]
    push_cast
    rfl
  · by_cases atBottom : roundEven (value / unit value) = -2 ^ 53
    · refine ⟨-1, 53 + lastPlace value, ?_, by norm_num, by omega⟩
      unfold nearest
      rw [atBottom, Int.cast_neg, Int.cast_neg, Int.cast_one, neg_mul, neg_mul,
        ← carried]
      push_cast
      rfl
    · refine ⟨_, _, rfl, ?_, lower⟩
      rw [abs_lt]
      omega

/-- A double below stays below. -/
theorem IsDouble.le_nearest
    {double value : Rat}
    (isDouble : IsDouble double)
    (below : double ≤ value) :
    double ≤ nearest value := by
  have positive := unit_pos value
  rcases isDouble.units value with ⟨count, rfl⟩ | ⟨small, normal⟩
  · have scaled : (count : Rat) ≤ value / unit value := by
      rwa [le_div_iff₀ positive]
    have rounded : (count : Rat) ≤ roundEven (value / unit value) := by
      exact_mod_cast le_roundEven scaled
    exact mul_le_mul_of_nonneg_right rounded positive.le
  · obtain ⟨notBelow, notAbove⟩ := abs_lt.mp small
    by_cases zero : value = 0
    · subst zero
      simpa [nearest, roundEven] using below
    · have large := units_le_abs zero normal
      rcases le_abs.mp large with isLarge | isLarge
      · have scaled : ((2 ^ 52 : Int) : Rat) ≤ value / unit value := by
          rw [le_div_iff₀ positive]
          exact_mod_cast isLarge
        have rounded :
            ((2 ^ 52 : Int) : Rat) ≤ roundEven (value / unit value) := by
          exact_mod_cast le_roundEven scaled
        calc
          double ≤ ((2 ^ 52 : Int) : Rat) * unit value := by
            push_cast
            exact notAbove.le
          _ ≤ nearest value :=
            mul_le_mul_of_nonneg_right rounded positive.le
      · linarith

/-- A double above stays above. -/
theorem IsDouble.nearest_le
    {double value : Rat}
    (isDouble : IsDouble double)
    (above : value ≤ double) :
    nearest value ≤ double := by
  have positive := unit_pos value
  rcases isDouble.units value with ⟨count, rfl⟩ | ⟨small, normal⟩
  · have scaled : value / unit value ≤ count := by
      rwa [div_le_iff₀ positive]
    have rounded : (roundEven (value / unit value) : Rat) ≤ count := by
      exact_mod_cast roundEven_le scaled
    exact mul_le_mul_of_nonneg_right rounded positive.le
  · obtain ⟨notBelow, notAbove⟩ := abs_lt.mp small
    by_cases zero : value = 0
    · subst zero
      simpa [nearest, roundEven] using above
    · have large := units_le_abs zero normal
      rcases le_abs.mp large with isLarge | isLarge
      · linarith
      · have scaled : value / unit value ≤ ((-2 ^ 52 : Int) : Rat) := by
          rw [div_le_iff₀ positive]
          push_cast
          linarith
        have rounded :
            (roundEven (value / unit value) : Rat) ≤
              ((-2 ^ 52 : Int) : Rat) := by
          exact_mod_cast roundEven_le scaled
        calc
          nearest value ≤ ((-2 ^ 52 : Int) : Rat) * unit value :=
            mul_le_mul_of_nonneg_right rounded positive.le
          _ ≤ double := by
            push_cast
            linarith

/-- The first bit of a significand is a double by itself. -/
theorem isDouble_units (value : Rat) : IsDouble (2 ^ 52 * unit value) := by
  refine ⟨1, 52 + lastPlace value, ?_, by norm_num, ?_⟩
  · rw [Int.cast_one, one_mul, zpow_add₀ two_ne_zero]
    rfl
  · unfold lastPlace
    omega

/-- Rounding keeps the order. -/
theorem nearest_mono
    {left right : Rat}
    (nonneg : 0 ≤ left)
    (le : left ≤ right) :
    nearest left ≤ nearest right := by
  have isZero : IsDouble 0 := ⟨0, 0, by norm_num, by norm_num, by norm_num⟩
  rcases nonneg.eq_or_lt with rfl | positive
  · rw [isZero.nearest_eq]
    exact isZero.le_nearest le
  have exponents : Int.log 2 |left| ≤ Int.log 2 |right| := by
    rw [abs_of_pos positive, abs_of_pos (positive.trans_le le)]
    exact Int.log_mono_right positive le
  have places : lastPlace left ≤ lastPlace right := by
    unfold lastPlace
    omega
  rcases places.eq_or_lt with same | finer
  · have scaled : left / unit left ≤ right / unit left :=
      div_le_div_of_nonneg_right le (unit_pos left).le
    have rounded :
        (roundEven (left / unit left) : Rat) ≤
          roundEven (right / unit left) := by
      exact_mod_cast roundEven_mono scaled
    have sameUnit : unit right = unit left := by
      unfold unit
      rw [same]
    unfold nearest
    rw [sameUnit]
    exact mul_le_mul_of_nonneg_right rounded (unit_pos left).le
  · -- a power of two is between them
    have isPower := isDouble_units right
    have large : 2 ^ 52 * unit right ≤ right := by
      have normal : -1074 < lastPlace right := by
        unfold lastPlace at finer ⊢
        omega
      have units := units_le_abs (positive.trans_le le).ne' normal
      rwa [abs_of_pos (positive.trans_le le)] at units
    have small : left ≤ 2 ^ 52 * unit right := by
      have next : unit left * 2 ≤ unit right := by
        unfold unit
        rw [← zpow_add_one₀ two_ne_zero]
        exact zpow_le_zpow_right₀ one_le_two finer
      have units := (le_abs_self left).trans (abs_lt_units left).le
      linarith
    exact (isPower.nearest_le small).trans (isPower.le_nearest large)

/-! ## Integers -/

/-- An integer of up to 53 bits is a double. -/
theorem isDouble_intCast
    {count : Int}
    (few : |count| ≤ 2 ^ 53) :
    IsDouble count := by
  obtain ⟨notBelow, notAbove⟩ := abs_le.mp few
  by_cases atTop : count = 2 ^ 53
  · exact ⟨1, 53, by rw [atTop]; norm_num, by norm_num, by norm_num⟩
  · by_cases atBottom : count = -2 ^ 53
    · exact ⟨-1, 53, by rw [atBottom]; norm_num, by norm_num, by norm_num⟩
    · exact ⟨count, 0, by simp, by rw [abs_lt]; omega, by norm_num⟩

/-- A natural number of up to 53 bits is a double. -/
theorem isDouble_natCast
    {count : Nat}
    (few : count ≤ 2 ^ 53) :
    IsDouble count := by
  have inIntegers : |(count : Int)| ≤ 2 ^ 53 := by
    rw [abs_of_nonneg (Int.natCast_nonneg count)]
    exact_mod_cast few
  exact_mod_cast isDouble_intCast inIntegers

/-- From so many on, every double is an integer. -/
theorem exists_nat_nearest
    {value : Rat}
    (large : 2 ^ 52 ≤ value) :
    ∃ count : Nat, nearest value = count := by
  have positive : 0 < value := lt_of_lt_of_le (by norm_num) large
  have whole : (0 : Int) ≤ lastPlace value := by
    have exponent : (52 : Int) ≤ Int.log 2 |value| := by
      rw [abs_of_pos positive]
      apply (Int.zpow_le_iff_le_log one_lt_two positive).mp
      exact_mod_cast large
    unfold lastPlace
    omega
  obtain ⟨shift, isShift⟩ := Int.eq_ofNat_of_zero_le whole
  have isInt :
      nearest value =
        ((roundEven (value / unit value) * 2 ^ shift : Int) : Rat) := by
    unfold nearest unit
    rw [isShift, zpow_natCast]
    push_cast
    rfl
  have nonneg : 0 ≤ roundEven (value / unit value) :=
    le_roundEven (by exact_mod_cast (div_pos positive (unit_pos value)).le)
  obtain ⟨count, isCount⟩ :=
    Int.eq_ofNat_of_zero_le
      (mul_nonneg nonneg (by positivity : (0 : Int) ≤ 2 ^ shift))
  refine ⟨count, ?_⟩
  rw [isInt, isCount]
  rfl

/-- An integer takes in what is half a unit in the last place away at most. -/
theorem nearest_eq_natCast
    {value : Rat}
    {count : Nat}
    (fractional : lastPlace value < 0)
    (near : |value - count| ≤ unit value / 2) :
    nearest value = count := by
  have positive := unit_pos value
  obtain ⟨places, isPlaces⟩ :=
    Int.eq_ofNat_of_zero_le (by omega : 0 ≤ -lastPlace value - 1)
  have inUnits :
      (count : Rat) =
        ((count * 2 ^ (places + 1) : Int) : Rat) * unit value := by
    have exponent : lastPlace value = -((places + 1 : Nat) : Int) := by
      push_cast
      omega
    unfold unit
    rw [exponent, zpow_neg, zpow_natCast]
    push_cast
    field_simp
  have even : ((count * 2 ^ (places + 1) : Int)) % 2 = 0 := by
    rw [pow_succ, ← mul_assoc, Int.mul_emod_left]
  have scaled :
      |value / unit value - ((count * 2 ^ (places + 1) : Int) : Rat)| ≤
        1 / 2 := by
    have split :
        value / unit value - ((count * 2 ^ (places + 1) : Int) : Rat) =
          (value - count) / unit value := by
      rw [inUnits, sub_div, mul_div_cancel_right₀ _ positive.ne']
    rw [split, abs_div, abs_of_pos positive, div_le_iff₀ positive]
    linarith
  unfold nearest
  rw [roundEven_of_even even scaled]
  exact inUnits.symm

/--
A number is rounded to an integer exactly if it is half a unit in the last place
away from one at most.
-/
theorem nearest_isNat_iff
    {value : Rat}
    (nonneg : 0 ≤ value) :
    (∃ count : Nat, nearest value = count) ↔
      ∃ count : Nat, |value - count| ≤ unit value / 2 := by
  constructor
  · rintro ⟨count, isCount⟩
    refine ⟨count, ?_⟩
    rw [← isCount, abs_sub_comm]
    exact abs_nearest_sub_le value
  · rintro ⟨count, near⟩
    by_cases large : 2 ^ 52 ≤ value
    · exact exists_nat_nearest large
    · refine ⟨count, nearest_eq_natCast ?_ near⟩
      rcases nonneg.eq_or_lt with zero | positive
      · subst zero
        decide +kernel
      · have exponent : Int.log 2 |value| < 52 := by
          rw [abs_of_pos positive]
          apply (Int.lt_zpow_iff_log_lt one_lt_two positive).mp
          exact_mod_cast not_le.mp large
        unfold lastPlace
        omega

/-- A unit in the last place is a small part of a number of 1 at least. -/
theorem unit_le
    {value : Rat}
    (fromOne : 1 ≤ value) :
    2 ^ 52 * unit value ≤ value := by
  have positive : 0 < value := lt_of_lt_of_le one_pos fromOne
  have exponent : (0 : Int) ≤ Int.log 2 |value| := by
    rw [abs_of_pos positive]
    apply (Int.zpow_le_iff_le_log one_lt_two positive).mp
    exact_mod_cast fromOne
  have large :=
    units_le_abs positive.ne' (by unfold lastPlace; omega)
  rwa [abs_of_pos positive] at large

/-! ## Large numbers -/

theorem le_largestHalf : 2 ^ 20 ≤ largestHalf :=
  pow_le_pow_right₀ one_le_two (by norm_num)

/-- A power of two in terms of the last place of the largest double. -/
theorem two_zpow_largest (places : Nat) :
    (2 : Rat) ^ ((970 + places : Nat) : Int) = 2 ^ places * largestHalf := by
  rw [zpow_natCast, pow_add, mul_comm]
  rfl

theorem two_zpow_971 : (2 : Rat) ^ (971 : Int) = 2 * largestHalf := by
  simpa using two_zpow_largest 1

/-- The largest double. -/
theorem isDouble_largest : IsDouble ((2 ^ 54 - 2) * largestHalf) := by
  refine ⟨2 ^ 53 - 1, 971, ?_, by norm_num, by norm_num⟩
  rw [two_zpow_971]
  push_cast
  ring

/-- The limit is far away. -/
theorem lt_limit
    {value : Rat}
    (few : value ≤ 2 ^ 70) :
    value < limit := by
  have large := le_largestHalf
  unfold limit
  linarith

/-- What is below the limit is rounded to something below it. -/
theorem nearest_lt_limit
    {value : Rat}
    (below : value < limit) :
    nearest value < limit := by
  have large := le_largestHalf
  by_cases le : value ≤ (2 ^ 54 - 2) * largestHalf
  · refine (isDouble_largest.nearest_le le).trans_lt ?_
    unfold limit
    linarith
  · have above := not_le.mp le
    have positive : 0 < value := by linarith
    have exponent : Int.log 2 |value| = 1023 := by
      rw [abs_of_pos positive]
      apply le_antisymm
      · apply Int.lt_add_one_iff.mp
        apply (Int.lt_zpow_iff_log_lt one_lt_two positive).mp
        refine below.trans_le ((?_ : _ ≤ 2 ^ 54 * largestHalf).trans
          (two_zpow_largest 54).ge)
        unfold limit
        linarith
      · apply (Int.zpow_le_iff_le_log one_lt_two positive).mp
        refine (two_zpow_largest 53).le.trans ?_
        linarith
    have isUnit : unit value = 2 * largestHalf := by
      unfold unit lastPlace
      rw [exponent]
      exact two_zpow_971
    have near :
        |value - ((2 ^ 53 - 1 : Int) : Rat) * unit value| <
          unit value / 2 := by
      have isCount :
          ((2 ^ 53 - 1 : Int) : Rat) * unit value =
            (2 ^ 54 - 2) * largestHalf := by
        rw [isUnit]
        push_cast
        ring
      rw [isCount, isUnit, abs_of_pos (sub_pos.mpr above)]
      unfold limit at below
      linarith
    rw [nearest_of_lt near, isUnit, limit]
    push_cast
    linarith

/-! ## Differences and quotients -/

/-- A double that is no smaller is a number of units in the last place. -/
theorem IsDouble.units_of_le
    {double value : Rat}
    (isDouble : IsDouble double)
    (positive : 0 < value)
    (le : value ≤ double) :
    ∃ count : Int, double = count * unit value := by
  rcases isDouble.units value with inUnits | ⟨small, normal⟩
  · exact inUnits
  · have large := units_le_abs positive.ne' normal
    rw [abs_of_pos positive] at large
    rw [abs_of_pos (positive.trans_le le)] at small
    linarith

/-- One less than a double of 53 bits is a double. -/
theorem IsDouble.sub_one
    {double : Rat}
    (isDouble : IsDouble double)
    (fromOne : 1 ≤ double)
    (few : double ≤ 2 ^ 53) :
    IsDouble (double - 1) := by
  have positive : 0 < double := lt_of_lt_of_le one_pos fromOne
  rcases few.eq_or_lt with top | below
  · have isInt : double - 1 = ((2 ^ 53 - 1 : Int) : Rat) := by
      rw [top]
      norm_num
    rw [isInt]
    exact isDouble_intCast (by norm_num)
  · have exponent : Int.log 2 |double| < 53 := by
      rw [abs_of_pos positive]
      apply (Int.lt_zpow_iff_log_lt one_lt_two positive).mp
      exact_mod_cast below
    obtain ⟨places, isPlaces⟩ :=
      Int.eq_ofNat_of_zero_le
        (by unfold lastPlace; omega : 0 ≤ -lastPlace double)
    have lower : -1074 ≤ lastPlace double := by
      unfold lastPlace
      omega
    have unitPositive := unit_pos double
    obtain ⟨count, isCount⟩ := isDouble.units_of_le positive le_rfl
    have isOne : (1 : Rat) = ((2 ^ places : Int) : Rat) * unit double := by
      have isExponent : lastPlace double = -(places : Int) := by omega
      unfold unit
      rw [isExponent, zpow_neg, zpow_natCast]
      push_cast
      field_simp
    have fewUnits := abs_lt_units double
    rw [abs_of_pos positive] at fewUnits
    have upper : (count : Rat) < 2 ^ 53 := by
      apply lt_of_mul_lt_mul_right _ unitPositive.le
      rwa [← isCount]
    have lowerRat : ((2 ^ places : Int) : Rat) ≤ count := by
      apply le_of_mul_le_mul_right _ unitPositive
      rwa [← isOne, ← isCount]
    have upperInt : count < 2 ^ 53 := by exact_mod_cast upper
    have lowerInt : (2 : Int) ^ places ≤ count := by exact_mod_cast lowerRat
    have someUnits : (0 : Int) < 2 ^ places := by positivity
    refine ⟨count - 2 ^ places, lastPlace double, ?_, ?_, lower⟩
    · calc
        double - 1 =
            count * unit double - ((2 ^ places : Int) : Rat) * unit double := by
          rw [← isCount, ← isOne]
        _ = ((count - 2 ^ places : Int) : Rat) * 2 ^ lastPlace double := by
          rw [← sub_mul]
          push_cast
          rfl
    · rw [abs_lt]
      omega

/-- One less than a large double is rounded to it. -/
theorem IsDouble.nearest_sub_one
    {double : Rat}
    (isDouble : IsDouble double)
    (large : 2 ^ 60 ≤ double) :
    nearest (double - 1) = double := by
  have positive : 0 < double - 1 := by linarith
  obtain ⟨count, isCount⟩ :=
    isDouble.units_of_le positive (by linarith)
  have exponent : (59 : Int) ≤ Int.log 2 |double - 1| := by
    rw [abs_of_pos positive]
    apply (Int.zpow_le_iff_le_log one_lt_two positive).mp
    norm_num
    linarith
  have coarse : (2 : Rat) ^ (7 : Int) ≤ unit (double - 1) := by
    apply zpow_le_zpow_right₀ one_le_two
    unfold lastPlace
    omega
  have near :
      |double - 1 - count * unit (double - 1)| < unit (double - 1) / 2 := by
    rw [← isCount, sub_sub_cancel_left, abs_neg, abs_one]
    norm_num at coarse
    linarith
  exact (nearest_of_lt near).trans isCount.symm

/--
The quotient of a double by a number is more than a factor whose product with
the number is a smaller double.
-/
theorem IsDouble.lt_nearest_div
    {left right factor : Rat}
    (isLeft : IsDouble left)
    (isProduct : IsDouble (factor * right))
    (fromOne : 1 ≤ factor)
    (positive : 0 < right)
    (more : factor * right < left) :
    factor < nearest (left / right) := by
  have productPositive : 0 < factor * right := by positivity
  have unitPositive := unit_pos (factor * right)
  obtain ⟨count, isCount⟩ := isLeft.units_of_le productPositive more.le
  obtain ⟨other, isOther⟩ := isProduct.units_of_le productPositive le_rfl
  have apart : factor * right + unit (factor * right) ≤ left := by
    have counted : (other : Rat) < count := by
      apply lt_of_mul_lt_mul_right _ unitPositive.le
      rwa [← isCount, ← isOther]
    have inIntegers : other + 1 ≤ count := by exact_mod_cast counted
    have inUnits : ((other + 1 : Int) : Rat) ≤ count := by
      exact_mod_cast inIntegers
    calc
      factor * right + unit (factor * right) =
          ((other + 1 : Int) : Rat) * unit (factor * right) := by
        push_cast
        rw [add_mul, one_mul, ← isOther]
      _ ≤ count * unit (factor * right) :=
        mul_le_mul_of_nonneg_right inUnits unitPositive.le
      _ = left := isCount.symm
  have above : factor + factor / 2 ^ 53 < left / right := by
    have fewUnits := abs_lt_units (factor * right)
    rw [abs_of_pos productPositive] at fewUnits
    have part : factor / 2 ^ 53 * right < unit (factor * right) := by
      rw [div_mul_eq_mul_div, div_lt_iff₀ (by norm_num)]
      linarith
    rw [lt_div_iff₀ positive]
    linarith
  by_contra notLess
  -- the quotient is too close to the factor for its unit
  have power : 2 ^ 52 * unit (left / right) ≤ left / right := by
    apply unit_le
    have part : 0 ≤ factor / 2 ^ 53 := by positivity
    linarith
  have rounded := (isDouble_units (left / right)).le_nearest power
  have near := (abs_le.mp (abs_nearest_sub_le (left / right))).1
  linarith

end Binary64

end NestBackend
