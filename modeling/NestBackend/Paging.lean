import NestBackend.ExposedClass

namespace NestBackend

open JavaScript

/-!
# Pages

`PagingRequestDTO` computes where a page begins, and `PagingResponseDTO` how
many pages there are.  Both compute with doubles, so that a product or a
quotient is not always the exact one.
-/

namespace PAGING

/-- `PAGING.PAGE`. -/
def PAGE : Json := .int 1

/-- `PAGING.PAGE_SIZE`. -/
def PAGE_SIZE : Json := .int 15

/-- `PAGING.ORDER_BY_ID`. -/
def ORDER_BY_ID : Json := .str "id"

end PAGING

/-- `Order`. -/
def orders : List String := ["ASC", "DESC"]

/-- `PagingRequestDTO`, as far as it says which page is asked for. -/
structure PagingRequestDTO where
  page : PropertyValue
  pageSize : PropertyValue

namespace PagingRequestDTO

/-- `page`, with its decorators. -/
def pageProperty : ExposedProperty where
  name := "page"
  default := .json PAGING.PAGE
  convert := PropertyValue.asNumber
  optional := true
  checks := [.min 1, .isNumber]

/-- `pageSize`. -/
def pageSizeProperty : ExposedProperty where
  name := "pageSize"
  default := .json PAGING.PAGE_SIZE
  convert := PropertyValue.asNumber
  optional := true
  checks := [.max 50, .min 1, .isNumber]

/-- `order`. -/
def orderProperty : ExposedProperty where
  name := "order"
  default := .json (.str "ASC")
  convert := id
  optional := true
  checks := [.isEnum orders]

/-- `orderBy`. -/
def orderByProperty : ExposedProperty where
  name := "orderBy"
  default := .json PAGING.ORDER_BY_ID
  convert := id
  optional := true
  checks := [.isString]

/-- The properties that a class of queries inherits. -/
def exposed : List ExposedProperty :=
  [pageProperty, pageSizeProperty, orderProperty, orderByProperty]

/-- The validators accept the page and its size. -/
def valid (query : PagingRequestDTO) : Bool :=
  pageProperty.accepts query.page && pageSizeProperty.accepts query.pageSize

/-- `skip`. -/
def skip (query : PagingRequestDTO) : Numeric :=
  (query.page.toNumeric.minus 1).toDouble.times query.pageSize.toNumeric

end PagingRequestDTO

/-- `PagingResponseDTO`. -/
structure PagingResponseDTO (Item : Type) where
  list : List Item
  currentPage : PropertyValue
  totalPages : Numeric
  totalItems : Nat

namespace PagingResponseDTO

/-- `totalPages` in the constructor. -/
def pagesOf (totalItems : Nat) (pageSize : PropertyValue) : Numeric :=
  ((Numeric.finite totalItems).toDouble.divide pageSize.toNumeric).ceil

end PagingResponseDTO

namespace PagingRequestDTO

variable
  {query : PagingRequestDTO}
  {totalItems : Nat}
  {page size : Rat}

/-! ## Where a page begins -/

/-- Where the page begins that is asked for. -/
theorem skip_eq
    (isPage : query.page.number? = some (.finite page))
    (isSize : query.pageSize.number? = some (.finite size)) :
    query.skip =
      (Numeric.finite (page - 1)).toDouble.times (.finite size) := by
  rw [skip, PropertyValue.toNumeric_of_number? isPage,
    PropertyValue.toNumeric_of_number? isSize]
  rfl

/-- Where a page begins whose number has up to 53 bits. -/
theorem skip_of_page
    {number : Nat}
    (isPage : query.page.number? = some (.finite (number + 1 : Nat)))
    (isSize : query.pageSize.number? = some (.finite size))
    (few : number < 2 ^ 53) :
    query.skip = (Numeric.finite (number * size)).toDouble := by
  have before : ((number + 1 : Nat) : Rat) - 1 = number := by
    push_cast
    ring
  rw [skip_eq isPage isSize, before, Numeric.toDouble_natCast few.le]
  rfl

/-- A page of a whole size begins at an index, the rounded product. -/
theorem skip_of_wholeSize
    {number count : Nat}
    (isPage : query.page.number? = some (.finite (number + 1 : Nat)))
    (isSize : query.pageSize.number? = some (.finite (count : Rat)))
    (few : number < 2 ^ 53)
    (atMost : count ≤ 50) :
    ∃ start : Nat,
      query.skip = .finite start ∧
        (start : Rat) = Binary64.nearest (number * count : Nat) := by
  have isSkip := skip_of_page isPage isSize few
  rw [← Nat.cast_mul] at isSkip
  have below : ((number * count : Nat) : Rat) < Binary64.limit := by
    apply Binary64.lt_limit
    have product : number * count ≤ 2 ^ 53 * 50 :=
      Nat.mul_le_mul few.le atMost
    exact_mod_cast product.trans (by norm_num)
  rw [Numeric.toDouble_of_lt (Nat.cast_nonneg _) below] at isSkip
  rcases le_total (number * count) (2 ^ 53) with exact | large
  · have same := (Binary64.isDouble_natCast exact).nearest_eq
    exact ⟨_, isSkip.trans (congrArg _ same), same.symm⟩
  · have largeRat : (2 : Rat) ^ 52 ≤ (number * count : Nat) := by
      exact_mod_cast le_trans (by norm_num) large
    obtain ⟨start, isStart⟩ := Binary64.exists_nat_nearest largeRat
    exact ⟨start, isSkip.trans (congrArg _ isStart), isStart.symm⟩

/-- What is undefined is `NaN` in arithmetic. -/
theorem skip_of_undefined
    (undefined : query.page = .undefined ∨ query.pageSize = .undefined) :
    query.skip = .notANumber := by
  unfold skip
  rcases undefined with noPage | noSize
  · rw [noPage]
    rfl
  · rw [noSize]
    cases (query.page.toNumeric.minus 1).toDouble <;> rfl

/-- Without a size, a page begins at 0. -/
theorem skip_of_null
    {before : Rat}
    (isBefore :
      (query.page.toNumeric.minus 1).toDouble = .finite before)
    (noSize : query.pageSize = .json .null) :
    query.skip = .finite (0 : Nat) := by
  have zero : (PropertyValue.json .null).toNumeric = .finite (0 : Nat) :=
    Numeric.toDouble_natCast (by norm_num)
  unfold skip
  rw [isBefore, noSize, zero]
  simp only [Numeric.times, Nat.cast_zero, mul_zero]
  exact Numeric.toDouble_natCast (by norm_num : 0 ≤ 2 ^ 53)

/-- A null page is one before the first, and begins below 0. -/
theorem skip_of_nullPage
    (nullPage : query.page = .json .null)
    (isSize : query.pageSize.number? = some (.finite size))
    (fromOne : 1 ≤ size)
    (start : Nat) :
    query.skip ≠ .finite start := by
  have before :
      ((PropertyValue.json .null).toNumeric.minus 1).toDouble =
        .finite (-1) := by
    decide +kernel
  unfold skip
  rw [nullPage, before, PropertyValue.toNumeric_of_number? isSize]
  intro same
  simp only [Numeric.times, Numeric.toDouble] at same
  split at same
  next =>
    have isMinusOne : Binary64.IsDouble (-1) :=
      ⟨-1, 0, by norm_num, by norm_num, by norm_num⟩
    have below : Binary64.nearest (-1 * size) ≤ -1 :=
      isMinusOne.nearest_le (by linarith)
    rw [Numeric.finite.inj same] at below
    have nonneg : (0 : Rat) ≤ start := Nat.cast_nonneg start
    linarith
  next => cases same

/-! ## How many pages there are -/

/-- How many pages there are, where the size is a number. -/
theorem pagesOf_eq
    (isSize : query.pageSize.number? = some (.finite size))
    (someSize : 0 < size) :
    PagingResponseDTO.pagesOf totalItems query.pageSize =
      match (Numeric.finite totalItems).toDouble with
      | .finite total => (Numeric.finite (total / size)).toDouble.ceil
      | other => other := by
  unfold PagingResponseDTO.pagesOf
  rw [PropertyValue.toNumeric_of_number? isSize]
  cases given : (Numeric.finite totalItems).toDouble with
  | finite total => simp [Numeric.divide, someSize.ne']
  | infinite negative =>
      simp [Numeric.divide, Numeric.ceil, not_lt.mpr someSize.le]
  | notANumber => rfl

/-- How many pages there are of records that a double can count. -/
theorem pagesOf_finite
    (isSize : query.pageSize.number? = some (.finite size))
    (fromOne : 1 ≤ size)
    (below : (totalItems : Rat) < Binary64.limit) :
    PagingResponseDTO.pagesOf totalItems query.pageSize =
      .finite
        (⌈Binary64.nearest (Binary64.nearest totalItems / size)⌉ : Int) := by
  have nonneg : 0 ≤ Binary64.nearest totalItems := by
    have isZero : Binary64.IsDouble 0 :=
      ⟨0, 0, by norm_num, by norm_num, by norm_num⟩
    exact isZero.le_nearest (Nat.cast_nonneg totalItems)
  have fits : Binary64.nearest totalItems / size < Binary64.limit :=
    (div_le_self nonneg fromOne).trans_lt (Binary64.nearest_lt_limit below)
  rw [pagesOf_eq isSize (by linarith),
    Numeric.toDouble_of_lt (Nat.cast_nonneg totalItems) below]
  simp only
  rw [Numeric.toDouble_of_lt (by positivity) fits]
  rfl

/-- With more records, there are infinitely many pages. -/
theorem pagesOf_infinite
    (isSize : query.pageSize.number? = some (.finite size))
    (fromOne : 1 ≤ size)
    (above : Binary64.limit ≤ (totalItems : Rat)) :
    PagingResponseDTO.pagesOf totalItems query.pageSize =
      .infinite false := by
  rw [pagesOf_eq isSize (by linarith), Numeric.toDouble_of_limit_le above]

/-- Records that fit on one page need one page, or none. -/
theorem pagesOf_single
    (isSize : query.pageSize.number? = some (.finite size))
    (fromOne : 1 ≤ size)
    (atMost : size ≤ 50)
    (fits : (totalItems : Rat) ≤ size) :
    PagingResponseDTO.pagesOf totalItems query.pageSize =
      .finite (if totalItems = 0 then 0 else 1) := by
  have few : totalItems ≤ 50 := by exact_mod_cast fits.trans atMost
  have below : (totalItems : Rat) < Binary64.limit :=
    Binary64.lt_limit ((fits.trans atMost).trans (by norm_num))
  rw [pagesOf_finite isSize fromOne below,
    (Binary64.isDouble_natCast (by omega)).nearest_eq]
  split
  next none => simp [none, Binary64.nearest, Binary64.roundEven]
  next some =>
    have someItems : (1 : Rat) ≤ totalItems := by
      exact_mod_cast Nat.one_le_iff_ne_zero.mpr some
    have isOne : Binary64.IsDouble 1 :=
      ⟨1, 0, by norm_num, by norm_num, by norm_num⟩
    have isPart : Binary64.IsDouble (1 / 64) :=
      ⟨1, -6, by norm_num, by norm_num, by norm_num⟩
    have upper : Binary64.nearest ((totalItems : Rat) / size) ≤ 1 :=
      isOne.nearest_le ((div_le_one (by linarith)).mpr fits)
    have lower : 1 / 64 ≤ Binary64.nearest ((totalItems : Rat) / size) := by
      apply isPart.le_nearest
      rw [le_div_iff₀ (by linarith)]
      linarith
    have isCeil : ⌈Binary64.nearest ((totalItems : Rat) / size)⌉ = 1 := by
      rw [Int.ceil_eq_iff]
      constructor
      · push_cast
        linarith
      · exact_mod_cast upper
    rw [isCeil]
    rfl

/-! ## What is accepted -/

/-- What counts as no value is undefined or null. -/
theorem cases_of_isNil
    {value : PropertyValue}
    (nil : value.isNil = true) :
    value = .undefined ∨ value = .json .null := by
  cases value with
  | undefined => exact .inl rfl
  | json value =>
      cases value with
      | null => exact .inr rfl
      | _ => cases nil
  | number value => cases nil

/-- A number that is not too small is a finite one from the least on. -/
theorem number_of_min
    {value : PropertyValue}
    {least : Rat}
    (isNumber : value.isNumber = true)
    (min : value.min least = true) :
    ∃ number,
      value.number? = some (.finite number) ∧ least ≤ number := by
  unfold PropertyValue.isNumber at isNumber
  unfold PropertyValue.min at min
  cases given : value.number? with
  | none =>
      rw [given] at isNumber
      cases isNumber
  | some number =>
      rw [given, Option.any_some] at isNumber min
      cases number with
      | finite number => exact ⟨number, rfl, of_decide_eq_true min⟩
      | infinite negative => cases isNumber
      | notANumber => cases isNumber

/-- A page that is accepted is a number from 1 on, or left out. -/
theorem page_cases
    {page : PropertyValue}
    (accepted : pageProperty.accepts page = true) :
    page = .undefined ∨ page = .json .null ∨
      ∃ number, page.number? = some (.finite number) ∧ 1 ≤ number := by
  simp only [ExposedProperty.accepts, pageProperty, Bool.true_and,
    List.all_cons, List.all_nil, Bool.and_true, Bool.or_eq_true,
    Bool.and_eq_true] at accepted
  rcases accepted with nil | ⟨min, isNumber⟩
  · exact (cases_of_isNil nil).imp_right .inl
  · exact .inr (.inr (by exact_mod_cast number_of_min isNumber min))

/-- A size that is accepted is a number from 1 to 50, or left out. -/
theorem pageSize_cases
    {pageSize : PropertyValue}
    (accepted : pageSizeProperty.accepts pageSize = true) :
    pageSize = .undefined ∨ pageSize = .json .null ∨
      ∃ number,
        pageSize.number? = some (.finite number) ∧
          1 ≤ number ∧ number ≤ 50 := by
  simp only [ExposedProperty.accepts, pageSizeProperty, Bool.true_and,
    List.all_cons, List.all_nil, Bool.and_true, Bool.or_eq_true,
    Bool.and_eq_true] at accepted
  rcases accepted with nil | ⟨max, min, isNumber⟩
  · exact (cases_of_isNil nil).imp_right .inl
  · obtain ⟨number, isFinite, fromOne⟩ := number_of_min isNumber min
    refine .inr (.inr ⟨number, isFinite, by exact_mod_cast fromOne, ?_⟩)
    change pageSize.number?.any (Numeric.atMost (50 : Nat)) = true at max
    rw [isFinite] at max
    simpa [Numeric.atMost] using max

/-- A page is a number that is 1 at least. -/
theorem pageProperty_accepts
    {value : PropertyValue}
    {count : Nat}
    (isNumber : value.number? = some (.finite (count : Rat)))
    (fromOne : 1 ≤ count) :
    pageProperty.accepts value = true := by
  have fromOneRat : ((1 : Nat) : Rat) ≤ count := by exact_mod_cast fromOne
  simp only [ExposedProperty.accepts, pageProperty, PropertyCheck.min,
    PropertyCheck.isNumber, PropertyValue.min, PropertyValue.isNumber,
    isNumber, List.all_cons, List.all_nil, Option.any_some,
    Numeric.atLeast, Numeric.isFinite, decide_eq_true fromOneRat,
    Bool.and_self, Bool.or_true]

/-- A size is a number from 1 to 50. -/
theorem pageSizeProperty_accepts
    {value : PropertyValue}
    {count : Nat}
    (isNumber : value.number? = some (.finite (count : Rat)))
    (fromOne : 1 ≤ count)
    (atMost : count ≤ 50) :
    pageSizeProperty.accepts value = true := by
  have fromOneRat : ((1 : Nat) : Rat) ≤ count := by exact_mod_cast fromOne
  have atMostRat : (count : Rat) ≤ ((50 : Nat) : Rat) := by
    exact_mod_cast atMost
  simp only [ExposedProperty.accepts, pageSizeProperty, PropertyCheck.min,
    PropertyCheck.max, PropertyCheck.isNumber, PropertyValue.min,
    PropertyValue.max, PropertyValue.isNumber, isNumber, List.all_cons,
    List.all_nil, Option.any_some, Numeric.atLeast, Numeric.atMost,
    Numeric.isFinite, decide_eq_true fromOneRat,
    decide_eq_true atMostRat, Bool.and_self, Bool.or_true]

end PagingRequestDTO

end NestBackend
