import NestBackend.Paging

namespace NestBackend

open JavaScript

/-!
# What the pages show

Together the pages of a list should show every record once.  They do so if the
doubles in which their bounds are computed are exact, and the size of a page is
whole.
-/

namespace PagingRequestDTO

/-- The same request for another page. -/
def forPage (query : PagingRequestDTO) (page : Nat) : PagingRequestDTO :=
  { query with page := .number (.finite page) }

/-- The window of a page has an index: it is from `skip` on, below its end. -/
def Shows (query : PagingRequestDTO) (page index : Nat) : Prop :=
  ∃ start size,
    (query.forPage page).skip = .finite start ∧
      query.pageSize.toNumeric = .finite size ∧
      start ≤ index ∧ (index : Rat) < start + size

/-- A page is one of so many. -/
def Within (page : Nat) : Numeric → Prop
  | .finite pages => 1 ≤ page ∧ (page : Rat) ≤ pages
  | .infinite negative => 1 ≤ page ∧ negative = false
  | .notANumber => False

/-- A page comes after so many. -/
def Beyond (page : Nat) (pages : Numeric) : Prop :=
  pages.lessThan (.finite page) = true

/--
The pages partition the result: the one that is asked for begins at an index,
as do all that there are, each record is on one of these, and on none after
them.
-/
structure Partitions
    (query : PagingRequestDTO)
    (totalItems : Nat) : Prop where
  skip : ∃ start : Nat, query.skip = .finite start
  skips :
    ∀ page,
      Within page (PagingResponseDTO.pagesOf totalItems query.pageSize) →
        ∃ start : Nat, (query.forPage page).skip = .finite start
  covered :
    ∀ index < totalItems,
      ∃! page,
        Within page (PagingResponseDTO.pagesOf totalItems query.pageSize) ∧
          query.Shows page index
  nothingAfter :
    ∀ page,
      Beyond page (PagingResponseDTO.pagesOf totalItems query.pageSize) →
        ∀ index < totalItems, ¬ query.Shows page index

/--
The doubles `page - 1` and `size` have a product that is half a unit in its last
place away from an index at most.  A page beyond all integers of 53 bits only
has to begin at a finite number.
-/
def BeginsAtIndex (page size : Rat) : Prop :=
  if page ≤ 2 ^ 53 then
    ∃ start : Nat,
      |(page - 1) * size - start| ≤ Binary64.unit ((page - 1) * size) / 2
  else
    page * size < Binary64.limit

/--
Every page with a record begins at a product that is a double, below the number
of records as a double, and the first page without one does not begin before
the end.  The numbers of all these pages are doubles.
-/
def CountsPages (size totalItems : Nat) : Prop :=
  ∀ number : Nat,
    number * size < totalItems + size →
      number < 2 ^ 53 ∧
        (number * size < totalItems →
          Binary64.nearest (number * size : Nat) = (number * size : Nat) ∧
            ((number * size : Nat) : Rat) < Binary64.nearest totalItems) ∧
        (totalItems ≤ number * size →
          (totalItems : Rat) ≤ Binary64.nearest (number * size : Nat))

/--
Page and size are numbers, the page begins at an index, and one page shows
everything, or the size is whole and its pages are counted; or there is a page,
but no size, and nothing to show.
-/
def StartsAtIndex
    (query : PagingRequestDTO)
    (totalItems : Nat) : Prop :=
  (∃ page size,
      query.page.number? = some (.finite page) ∧
        query.pageSize.number? = some (.finite size) ∧
        BeginsAtIndex page size ∧
        ((totalItems : Rat) ≤ size ∨
          ∃ count : Nat, size = count ∧ CountsPages count totalItems)) ∨
    query.page ≠ .undefined ∧ query.pageSize = .json .null ∧ totalItems = 0

variable
  {query : PagingRequestDTO}
  {totalItems : Nat}
  {page size : Rat}

/-! ## The page that is asked for -/

/-- The product of a page and its size begins somewhere. -/
theorem exists_start_iff
    {product : Rat}
    (nonneg : 0 ≤ product) :
    (∃ start : Nat, (Numeric.finite product).toDouble = .finite start) ↔
      product < Binary64.limit ∧
        ∃ start : Nat, Binary64.nearest product = start := by
  by_cases below : product < Binary64.limit
  · rw [Numeric.toDouble_of_lt nonneg below]
    simp [below]
  · rw [Numeric.toDouble_of_limit_le (not_lt.mp below)]
    simp [below]

/-- It is an index exactly if the product of the doubles is close to one. -/
theorem begins_iff
    (isPage : query.page.number? = some (.finite page))
    (isSize : query.pageSize.number? = some (.finite size))
    (double : Binary64.IsDouble page)
    (below : page < Binary64.limit)
    (fromOne : 1 ≤ page)
    (someSize : 1 ≤ size)
    (atMost : size ≤ 50) :
    (∃ start : Nat, query.skip = .finite start) ↔
      BeginsAtIndex page size := by
  have nonneg : 0 ≤ page - 1 := by linarith
  have fits : page - 1 < Binary64.limit := by linarith
  rw [skip_eq isPage isSize, Numeric.toDouble_of_lt nonneg fits]
  unfold BeginsAtIndex
  split
  next few =>
    rw [(double.sub_one fromOne few).nearest_eq]
    have productNonneg : 0 ≤ (page - 1) * size := by positivity
    have productFits : (page - 1) * size < Binary64.limit := by
      apply Binary64.lt_limit
      calc
        (page - 1) * size ≤ 2 ^ 53 * 50 := by
          gcongr
          linarith
        _ ≤ 2 ^ 70 := by norm_num
    exact (exists_start_iff productNonneg).trans
      ((and_iff_right productFits).trans
        (Binary64.nearest_isNat_iff productNonneg))
  next many =>
    have isLeast : Binary64.IsDouble (2 ^ 52) :=
      ⟨1, 52, by norm_num, by norm_num, by norm_num⟩
    have large : (2 : Rat) ^ 52 ≤ Binary64.nearest (page - 1) :=
      isLeast.le_nearest (by linarith)
    have product :
        (2 : Rat) ^ 52 ≤ Binary64.nearest (page - 1) * size := by
      calc
        (2 : Rat) ^ 52 ≤ Binary64.nearest (page - 1) := large
        _ ≤ Binary64.nearest (page - 1) * size :=
          le_mul_of_one_le_right (le_trans (by norm_num) large) someSize
    refine (exists_start_iff (le_trans (by norm_num) product)).trans
      ((and_iff_left (Binary64.exists_nat_nearest product)).trans ?_)
    by_cases veryLarge : 2 ^ 60 ≤ page
    · rw [double.nearest_sub_one veryLarge]
    · have upper : Binary64.nearest (page - 1) ≤ page :=
        double.nearest_le (by linarith)
      have few : page * size ≤ 2 ^ 70 := by
        calc
          page * size ≤ 2 ^ 60 * 50 := by
            gcongr
            exact (not_le.mp veryLarge).le
          _ ≤ 2 ^ 70 := by norm_num
      refine iff_of_true (Binary64.lt_limit (le_trans ?_ few))
        (Binary64.lt_limit few)
      gcongr

/-! ## The other pages -/

/-- The number of another page, if it is a double. -/
theorem number?_forPage
    {number : Nat}
    (few : number < 2 ^ 53) :
    (query.forPage (number + 1)).page.number? =
      some (.finite (number + 1 : Nat)) := by
  rw [← Numeric.toDouble_natCast few]
  rfl

/-- Another page begins where the first of them begins, or later. -/
theorem nearest_le_start
    {start : Rat}
    {number count : Nat}
    (isSize : query.pageSize.number? = some (.finite size))
    (begins : (query.forPage (number + 1)).skip = .finite start)
    (someSize : 0 < size)
    (after : count ≤ number)
    (few : count < 2 ^ 53) :
    Binary64.nearest (count * size) ≤ start := by
  have isStart :
      ((Numeric.finite (number + 1 : Nat)).toDouble.minus 1).toDouble.times
          query.pageSize.toNumeric =
        .finite start :=
    begins
  rw [PropertyValue.toNumeric_of_number? isSize] at isStart
  obtain ⟨before, isBefore, isProduct⟩ := Numeric.exists_of_times isStart
  obtain ⟨difference, isDifference⟩ := Numeric.exists_of_toDouble isBefore
  rw [isDifference] at isBefore
  obtain ⟨page, isPage⟩ :
      ∃ page, (Numeric.finite (number + 1 : Nat)).toDouble = .finite page := by
    cases given : (Numeric.finite (number + 1 : Nat)).toDouble with
    | finite page => exact ⟨page, rfl⟩
    | infinite negative =>
        rw [given] at isDifference
        cases isDifference
    | notANumber =>
        rw [given] at isDifference
        cases isDifference
  rw [isPage] at isDifference
  obtain rfl : page - 1 = difference := Numeric.finite.inj isDifference
  have pageBound : ((count + 1 : Nat) : Rat) ≤ page :=
    Numeric.natCast_le_of_toDouble isPage few
      (by exact_mod_cast Nat.succ_le_succ after)
  have beforeBound : (count : Rat) ≤ before :=
    Numeric.natCast_le_of_toDouble isBefore few.le
      (by push_cast at pageBound; linarith)
  exact
    Numeric.nearest_le_of_toDouble isProduct (by positivity) (by gcongr)

/-- The page after all that have numbers begins with the last one of them. -/
theorem skip_forPage_unreadable :
    (query.forPage (2 ^ 53 + 1)).skip = (query.forPage (2 ^ 53)).skip := by
  have sameNumber :
      (Numeric.finite ((2 ^ 53 + 1 : Nat) : Rat)).toDouble =
        (Numeric.finite ((2 ^ 53 : Nat) : Rat)).toDouble := by
    decide +kernel
  have samePage :
      (query.forPage (2 ^ 53 + 1)).page.toNumeric =
        (query.forPage (2 ^ 53)).page.toNumeric :=
    sameNumber
  unfold skip
  rw [samePage]
  rfl

/-! ## The pages that there are -/

/-- A page is there if it begins at a double below the number of records. -/
theorem within_of_lt
    (isSize : query.pageSize.number? = some (.finite size))
    (fromOne : 1 ≤ size)
    (atMost : size ≤ 50)
    {number : Nat}
    (isProduct : Binary64.IsDouble (number * size))
    (inside : number * size < Binary64.nearest totalItems) :
    Within (number + 1)
      (PagingResponseDTO.pagesOf totalItems query.pageSize) := by
  rcases lt_or_ge (totalItems : Rat) Binary64.limit with below | above
  · rw [pagesOf_finite isSize fromOne below]
    refine ⟨Nat.le_add_left 1 number, ?_⟩
    have reached :
        (number : Rat) <
          Binary64.nearest (Binary64.nearest totalItems / size) := by
      cases number with
      | zero =>
          have isPart : Binary64.IsDouble (1 / 64) :=
            ⟨1, -6, by norm_num, by norm_num, by norm_num⟩
          have some : totalItems ≠ 0 := by
            rintro rfl
            simp [Binary64.nearest, Binary64.roundEven] at inside
          have oneItem : ((1 : Nat) : Rat) ≤ Binary64.nearest totalItems := by
            apply (Binary64.isDouble_natCast (by norm_num)).le_nearest
            exact_mod_cast Nat.one_le_iff_ne_zero.mpr some
          have part :
              1 / 64 ≤
                Binary64.nearest (Binary64.nearest totalItems / size) := by
            apply isPart.le_nearest
            rw [le_div_iff₀ (by linarith)]
            push_cast at oneItem
            linarith
          rw [Nat.cast_zero]
          linarith
      | succ before =>
          exact
            (Binary64.isDouble_nearest totalItems).lt_nearest_div isProduct
              (by exact_mod_cast Nat.le_add_left 1 before) (by linarith) inside
    have rounded :
        (number : Int) <
          ⌈Binary64.nearest (Binary64.nearest totalItems / size)⌉ :=
      Int.lt_ceil.mpr (by exact_mod_cast reached)
    exact_mod_cast Int.add_one_le_iff.mpr rounded
  · rw [pagesOf_infinite isSize fromOne above]
    exact ⟨Nat.le_add_left 1 number, rfl⟩

/-- A page that is there begins below the number of records, as a double. -/
theorem lt_of_within
    (isSize : query.pageSize.number? = some (.finite size))
    (fromOne : 1 ≤ size)
    (atMost : size ≤ 50)
    {number : Nat}
    (few : number < 2 ^ 53)
    (isWithin :
      Within (number + 1)
        (PagingResponseDTO.pagesOf totalItems query.pageSize)) :
    number * size < Binary64.nearest totalItems := by
  rcases lt_or_ge (totalItems : Rat) Binary64.limit with below | above
  · rw [pagesOf_finite isSize fromOne below] at isWithin
    have rounded :
        (number : Int) + 1 ≤
          ⌈Binary64.nearest (Binary64.nearest totalItems / size)⌉ := by
      exact_mod_cast isWithin.2
    have reached :
        (number : Rat) <
          Binary64.nearest (Binary64.nearest totalItems / size) := by
      exact_mod_cast Int.lt_ceil.mp (Int.add_one_le_iff.mp rounded)
    by_contra notInside
    have quotient : Binary64.nearest totalItems / size ≤ number := by
      rw [div_le_iff₀ (by linarith)]
      exact not_lt.mp notInside
    have upper := (Binary64.isDouble_natCast few.le).nearest_le quotient
    linarith
  · have isBound : Binary64.IsDouble (2 ^ 69) :=
      ⟨1, 69, by norm_num, by norm_num, by norm_num⟩
    have far : (2 : Rat) ^ 69 ≤ Binary64.nearest totalItems :=
      isBound.le_nearest
        ((Binary64.lt_limit (by norm_num)).le.trans above)
    have fewRat : (number : Rat) ≤ 2 ^ 53 := by exact_mod_cast few.le
    calc
      number * size ≤ 2 ^ 53 * 50 := by gcongr
      _ < 2 ^ 69 := by norm_num
      _ ≤ Binary64.nearest totalItems := far

/-- A page is there, or after those that are. -/
theorem within_or_beyond
    (isSize : query.pageSize.number? = some (.finite size))
    (fromOne : 1 ≤ size)
    (number : Nat) :
    Within (number + 1)
        (PagingResponseDTO.pagesOf totalItems query.pageSize) ∨
      Beyond (number + 1)
        (PagingResponseDTO.pagesOf totalItems query.pageSize) := by
  rcases lt_or_ge (totalItems : Rat) Binary64.limit with below | above
  · rw [pagesOf_finite isSize fromOne below]
    rcases le_or_gt ((number + 1 : Nat) : Rat)
        (⌈Binary64.nearest (Binary64.nearest totalItems / size)⌉ : Int) with
      le | gt
    · exact .inl ⟨Nat.le_add_left 1 number, le⟩
    · exact .inr (decide_eq_true gt)
  · rw [pagesOf_infinite isSize fromOne above]
    exact .inl ⟨Nat.le_add_left 1 number, rfl⟩

/-- A page is not after those that are there. -/
theorem Within.not_beyond
    {number : Nat}
    {pages : Numeric}
    (isWithin : Within number pages) :
    ¬ Beyond number pages := by
  intro beyond
  cases pages with
  | finite pages =>
      exact absurd (of_decide_eq_true beyond) (not_lt.mpr isWithin.2)
  | infinite negative =>
      rw [isWithin.2] at beyond
      cases beyond
  | notANumber => exact isWithin.elim

/-- With a page, those before it are there. -/
theorem Within.of_le
    {number other : Nat}
    {pages : Numeric}
    (isWithin : Within number pages)
    (someNumber : 1 ≤ other)
    (le : other ≤ number) :
    Within other pages := by
  cases pages with
  | finite pages =>
      have leRat : (other : Rat) ≤ number := by exact_mod_cast le
      exact ⟨someNumber, leRat.trans isWithin.2⟩
  | infinite negative => exact ⟨someNumber, isWithin.2⟩
  | notANumber => exact isWithin.elim

/-- Page 0 is not after those that are there. -/
theorem not_beyond_zero
    (isSize : query.pageSize.number? = some (.finite size))
    (fromOne : 1 ≤ size) :
    ¬ Beyond 0 (PagingResponseDTO.pagesOf totalItems query.pageSize) := by
  intro beyond
  rcases lt_or_ge (totalItems : Rat) Binary64.limit with below | above
  · rw [pagesOf_finite isSize fromOne below] at beyond
    have isZero : Binary64.IsDouble 0 :=
      ⟨0, 0, by norm_num, by norm_num, by norm_num⟩
    have nonneg :
        0 ≤ Binary64.nearest (Binary64.nearest totalItems / size) :=
      isZero.le_nearest
        (div_nonneg (isZero.le_nearest (Nat.cast_nonneg totalItems))
          (by linarith))
    have rounded :
        (0 : Int) ≤
          ⌈Binary64.nearest (Binary64.nearest totalItems / size)⌉ :=
      Int.ceil_nonneg nonneg
    have negative :
        ((⌈Binary64.nearest (Binary64.nearest totalItems / size)⌉ : Int) :
            Rat) <
          (0 : Nat) :=
      of_decide_eq_true beyond
    have negativeInt :
        ⌈Binary64.nearest (Binary64.nearest totalItems / size)⌉ <
          (0 : Int) := by
      exact_mod_cast negative
    omega
  · rw [pagesOf_infinite isSize fromOne above] at beyond
    cases beyond

/-- There is no page 0. -/
theorem Within.exists_eq_add_one
    {number : Nat}
    {pages : Numeric}
    (isWithin : Within number pages) :
    ∃ before, number = before + 1 := by
  have someNumber : 1 ≤ number := by
    cases pages with
    | finite pages => exact isWithin.1
    | infinite negative => exact isWithin.1
    | notANumber => exact isWithin.elim
  exact ⟨number - 1, by omega⟩

/-! ## Pages of a whole size -/

section Whole

variable
  {count : Nat}
  (isSize : query.pageSize.number? = some (.finite (count : Rat)))
  (positive : 0 < count)
  (atMost : count ≤ 50)

include isSize

/-- A page shows the records from its start on. -/
theorem shows_iff
    {number start : Nat}
    (begins : (query.forPage (number + 1)).skip = .finite start)
    (index : Nat) :
    query.Shows (number + 1) index ↔
      start ≤ index ∧ index < start + count := by
  have isNumeric := PropertyValue.toNumeric_of_number? isSize
  constructor
  · rintro ⟨other, length, isStart, isLength, lower, upper⟩
    rw [begins] at isStart
    obtain rfl := Numeric.finite.inj isStart
    rw [isNumeric] at isLength
    obtain rfl := Numeric.finite.inj isLength
    exact ⟨by exact_mod_cast lower, by exact_mod_cast upper⟩
  · rintro ⟨lower, upper⟩
    exact
      ⟨start, count, begins, isNumeric, by exact_mod_cast lower,
        by exact_mod_cast upper⟩

include positive in
/-- Where nothing comes after them, a page that shows a record is there. -/
theorem Partitions.within_of_shows
    (partitions : query.Partitions totalItems)
    {number index : Nat}
    (inRange : index < totalItems)
    (shown : query.Shows (number + 1) index) :
    Within (number + 1)
      (PagingResponseDTO.pagesOf totalItems query.pageSize) := by
  have fromOne : (1 : Rat) ≤ count := by exact_mod_cast positive
  rcases within_or_beyond isSize fromOne number with isWithin | beyond
  · exact isWithin
  · exact absurd shown (partitions.nothingAfter _ beyond index inRange)

include atMost

/-- A page with a number that is a double begins at the rounded product. -/
theorem exists_start
    {number : Nat}
    (few : number < 2 ^ 53) :
    ∃ start : Nat,
      (query.forPage (number + 1)).skip = .finite start ∧
        (start : Rat) = Binary64.nearest (number * count : Nat) :=
  skip_of_wholeSize (number?_forPage few) isSize few atMost

/-- The record after a page is shown on a later one. -/
theorem Partitions.exists_after
    (partitions : query.Partitions totalItems)
    {number : Nat}
    (few : number < 2 ^ 53)
    (exact :
      Binary64.nearest (number * count : Nat) = (number * count : Nat))
    (inside : (number + 1) * count < totalItems) :
    ∃ later,
      number + 1 ≤ later ∧
        Within (later + 1)
          (PagingResponseDTO.pagesOf totalItems query.pageSize) ∧
        query.Shows (later + 1) ((number + 1) * count) := by
  obtain ⟨page, ⟨isWithin, shown⟩, -⟩ :=
    partitions.covered ((number + 1) * count) inside
  obtain ⟨later, rfl⟩ := isWithin.exists_eq_add_one
  refine ⟨later, ?_, isWithin, shown⟩
  by_contra notAfter
  obtain ⟨start, isStart, startNearest⟩ :=
    exists_start isSize atMost (by omega : later < 2 ^ 53)
  obtain ⟨-, window⟩ := (shows_iff isSize isStart _).mp shown
  have order :
      Binary64.nearest (later * count : Nat) ≤
        Binary64.nearest (number * count : Nat) := by
    apply Binary64.nearest_mono (Nat.cast_nonneg _)
    exact_mod_cast Nat.mul_le_mul_right count (by omega)
  rw [← startNearest, exact] at order
  have orderNat : start ≤ number * count := by exact_mod_cast order
  rw [Nat.succ_mul] at window
  omega

include positive

/-- Where all records are shown once, the pages begin at the products. -/
theorem Partitions.begins
    (partitions : query.Partitions totalItems)
    {number : Nat}
    (few : number < 2 ^ 53)
    (inside : number * count < totalItems) :
    Binary64.nearest (number * count : Nat) = (number * count : Nat) ∧
      Within (number + 1)
        (PagingResponseDTO.pagesOf totalItems query.pageSize) := by
  have positiveRat : (0 : Rat) < count := by exact_mod_cast positive
  induction number with
  | zero =>
      obtain ⟨page, ⟨isWithin, -⟩, -⟩ :=
        partitions.covered (0 * count) inside
      obtain ⟨before, rfl⟩ := isWithin.exists_eq_add_one
      refine ⟨?_, isWithin.of_le le_rfl (Nat.le_add_left _ _)⟩
      rw [Nat.zero_mul]
      exact (Binary64.isDouble_natCast (by norm_num)).nearest_eq
  | succ number inductionHypothesis =>
      have stepped : (number + 1) * count = number * count + count :=
        Nat.succ_mul number count
      obtain ⟨exact, isWithin⟩ :=
        inductionHypothesis (by omega) (by omega)
      obtain ⟨last, isLast, lastNearest⟩ :=
        exists_start isSize atMost (by omega : number < 2 ^ 53)
      obtain ⟨start, isStart, startNearest⟩ :=
        exists_start isSize atMost few
      have isLastProduct : last = number * count := by
        exact_mod_cast lastNearest.trans exact
      -- the record where the page should begin is on one after the last
      obtain ⟨later, after, pageWithin, shown⟩ :=
        partitions.exists_after isSize atMost (by omega) exact inside
      have nextWithin := pageWithin.of_le (Nat.le_add_left 1 _)
        (Nat.succ_le_succ after)
      refine ⟨?_, nextWithin⟩
      obtain ⟨shownStart, length, isShown, -, shownLower, -⟩ := shown
      have noLater := nearest_le_start isSize isShown positiveRat after few
      rw [← Nat.cast_mul, ← startNearest] at noLater
      have upper : start ≤ (number + 1) * count := by
        exact_mod_cast noLater.trans shownLower
      have order :
          Binary64.nearest (number * count : Nat) ≤
            Binary64.nearest ((number + 1) * count : Nat) := by
        apply Binary64.nearest_mono (Nat.cast_nonneg _)
        exact_mod_cast Nat.mul_le_mul_right count (Nat.le_succ number)
      rw [← lastNearest, ← startNearest] at order
      have lower : last ≤ start := by exact_mod_cast order
      -- a page that begins earlier shows a record of the last one
      have notEarlier : ¬ start < (number + 1) * count := by
        intro earlier
        have twice :=
          (partitions.covered start (by omega)).unique
            ⟨isWithin, (shows_iff isSize isLast start).mpr (by omega)⟩
            ⟨nextWithin, (shows_iff isSize isStart start).mpr (by omega)⟩
        omega
      have isProduct : start = (number + 1) * count := by omega
      rw [← startNearest, isProduct]

/-- Where all records are shown once, all their pages have numbers. -/
theorem Partitions.few
    (partitions : query.Partitions totalItems)
    {number : Nat}
    (reached : number * count < totalItems + count) :
    number < 2 ^ 53 := by
  by_contra many
  have lastInside : (2 ^ 53 - 1) * count < totalItems := by
    have products : (2 ^ 53 - 1 + 1) * count ≤ number * count :=
      Nat.mul_le_mul_right count (not_lt.mp many)
    rw [Nat.add_one_mul] at products
    omega
  obtain ⟨exact, isWithin⟩ :=
    partitions.begins isSize positive atMost (by norm_num) lastInside
  obtain ⟨start, isStart, startNearest⟩ :=
    exists_start isSize atMost (by norm_num : 2 ^ 53 - 1 < 2 ^ 53)
  have isProduct : start = (2 ^ 53 - 1) * count := by
    exact_mod_cast startNearest.trans exact
  have shownLast := (shows_iff isSize isStart start).mpr (by omega)
  -- the next page has the same number as the last one
  have shownNext :=
    (shows_iff isSize (skip_forPage_unreadable.trans isStart) start).mpr
      (by omega)
  have twice :=
    (partitions.covered start (by omega)).unique
      ⟨isWithin, shownLast⟩
      ⟨partitions.within_of_shows isSize positive (by omega) shownNext,
        shownNext⟩
  omega

/-- Where all records are shown once, no page after them begins among them. -/
theorem Partitions.le_nearest
    (partitions : query.Partitions totalItems)
    {number : Nat}
    (few : number < 2 ^ 53)
    (after : totalItems ≤ number * count) :
    (totalItems : Rat) ≤ Binary64.nearest (number * count : Nat) := by
  obtain ⟨start, isStart, startNearest⟩ := exists_start isSize atMost few
  rw [← startNearest]
  by_contra notAfter
  have inRange : start < totalItems := by exact_mod_cast not_le.mp notAfter
  have shown := (shows_iff isSize isStart start).mpr (by omega)
  -- the page on which the record should be shows it, too
  have window := Nat.lt_div_mul_add (a := start) positive
  have lower := Nat.div_mul_le_self start count
  have before : start / count < number := by
    apply lt_of_mul_lt_mul_right _ (Nat.zero_le count)
    omega
  obtain ⟨exact, isWithin⟩ :=
    partitions.begins isSize positive atMost (before.trans few)
      (lower.trans_lt inRange)
  obtain ⟨other, isOther, otherNearest⟩ :=
    exists_start isSize atMost (before.trans few)
  have isProduct : other = start / count * count := by
    exact_mod_cast otherNearest.trans exact
  have twice :=
    (partitions.covered start inRange).unique
      ⟨isWithin, (shows_iff isSize isOther start).mpr (by omega)⟩
      ⟨partitions.within_of_shows isSize positive inRange shown, shown⟩
  omega

/-- Where all records are shown once, the pages are counted. -/
theorem Partitions.countsPages
    (partitions : query.Partitions totalItems) :
    CountsPages count totalItems := by
  have fromOne : (1 : Rat) ≤ count := by exact_mod_cast positive
  have atMostRat : (count : Rat) ≤ 50 := by exact_mod_cast atMost
  intro number reached
  have few := partitions.few isSize positive atMost reached
  refine ⟨few, ?_, partitions.le_nearest isSize positive atMost few⟩
  intro inside
  obtain ⟨exact, isWithin⟩ :=
    partitions.begins isSize positive atMost few inside
  refine ⟨exact, ?_⟩
  rw [Nat.cast_mul]
  exact lt_of_within isSize fromOne atMostRat few isWithin

/-- The pages that are there have numbers that are doubles. -/
theorem few_of_within
    (notMany : totalItems ≤ 2 ^ 53 * count)
    {number : Nat}
    (isWithin :
      Within (number + 1)
        (PagingResponseDTO.pagesOf totalItems query.pageSize)) :
    number < 2 ^ 53 := by
  have fromOne : (1 : Rat) ≤ count := by exact_mod_cast positive
  have notManyRat : (totalItems : Rat) ≤ 2 ^ 53 * count := by
    exact_mod_cast notMany
  have below : (totalItems : Rat) < Binary64.limit := by
    apply Binary64.lt_limit
    have atMostRat : (count : Rat) ≤ 50 := by exact_mod_cast atMost
    calc
      (totalItems : Rat) ≤ 2 ^ 53 * count := notManyRat
      _ ≤ 2 ^ 53 * 50 := by gcongr
      _ ≤ 2 ^ 70 := by norm_num
  have isBound : Binary64.IsDouble (2 ^ 53 * count) := by
    refine ⟨count, 53, ?_, ?_, by norm_num⟩
    · rw [mul_comm]
      norm_num
    · rw [abs_of_nonneg (Int.natCast_nonneg count)]
      omega
  have quotient : Binary64.nearest totalItems / count ≤ (2 ^ 53 : Nat) := by
    rw [div_le_iff₀ (by linarith)]
    push_cast
    exact isBound.nearest_le notManyRat
  have rounded :
      ⌈Binary64.nearest (Binary64.nearest totalItems / count)⌉ ≤
        ((2 ^ 53 : Nat) : Int) := by
    rw [Int.ceil_le, Int.cast_natCast]
    exact (Binary64.isDouble_natCast le_rfl).nearest_le quotient
  rw [pagesOf_finite isSize fromOne below] at isWithin
  have reached :
      ((number + 1 : Nat) : Int) ≤
        ⌈Binary64.nearest (Binary64.nearest totalItems / count)⌉ := by
    exact_mod_cast isWithin.2
  have inNaturals : number + 1 ≤ 2 ^ 53 := by
    exact_mod_cast reached.trans rounded
  omega

/-- Where the pages are counted, those with a record are there. -/
theorem CountsPages.within
    (counts : CountsPages count totalItems)
    {number : Nat}
    (inside : number * count < totalItems) :
    Within (number + 1)
        (PagingResponseDTO.pagesOf totalItems query.pageSize) ∧
      (query.forPage (number + 1)).skip =
        .finite ((number * count : Nat) : Rat) := by
  have fromOne : (1 : Rat) ≤ count := by exact_mod_cast positive
  have atMostRat : (count : Rat) ≤ 50 := by exact_mod_cast atMost
  obtain ⟨few, products, -⟩ := counts number (by omega)
  obtain ⟨exact, below⟩ := products inside
  constructor
  · rw [Nat.cast_mul] at exact below
    exact
      within_of_lt isSize fromOne atMostRat
        (exact ▸ Binary64.isDouble_nearest _) below
  · obtain ⟨start, isStart, startNearest⟩ := exists_start isSize atMost few
    rw [isStart, startNearest, exact]

/-- Where the pages are counted, a record is on one page only. -/
theorem CountsPages.eq_of_shows
    (counts : CountsPages count totalItems)
    {number index : Nat}
    (few : number < 2 ^ 53)
    (isWithin :
      Within (number + 1)
        (PagingResponseDTO.pagesOf totalItems query.pageSize))
    (inRange : index < totalItems)
    (shown : query.Shows (number + 1) index) :
    number = index / count := by
  have fromOne : (1 : Rat) ≤ count := by exact_mod_cast positive
  have atMostRat : (count : Rat) ≤ 50 := by exact_mod_cast atMost
  rcases lt_or_ge (number * count) totalItems with inside | after
  · obtain ⟨-, isStart⟩ := counts.within isSize positive atMost inside
    obtain ⟨lower, upper⟩ := (shows_iff isSize isStart index).mp shown
    rw [Nat.div_eq_of_lt_le lower (by rw [Nat.succ_mul]; exact upper)]
  · -- a page after the last record that is counted begins after it, too
    obtain ⟨start, isStart, startNearest⟩ := exists_start isSize atMost few
    have lower := ((shows_iff isSize isStart index).mp shown).1
    have below := lt_of_within isSize fromOne atMostRat few isWithin
    have afterRat : (totalItems : Rat) ≤ (number * count : Nat) := by
      exact_mod_cast after
    have order :
        Binary64.nearest totalItems ≤
          Binary64.nearest (number * count : Nat) :=
      Binary64.nearest_mono (Nat.cast_nonneg _) afterRat
    rw [← startNearest] at order
    rw [← Nat.cast_mul] at below
    have startsAfter : number * count < start := by
      exact_mod_cast below.trans_le order
    omega

/-- Where the pages are counted, those after them show no record. -/
theorem CountsPages.not_shows
    (counts : CountsPages count totalItems)
    {number index : Nat}
    (beyond :
      Beyond (number + 1)
        (PagingResponseDTO.pagesOf totalItems query.pageSize))
    (inRange : index < totalItems) :
    ¬ query.Shows (number + 1) index := by
  rintro ⟨start, length, isStart, -, lower, -⟩
  have positiveRat : (0 : Rat) < count := by exact_mod_cast positive
  -- the first page that has no record
  obtain ⟨pages, atEnd, notBefore⟩ :
      ∃ pages, pages * count < totalItems + count ∧
        totalItems ≤ pages * count := by
    have window := Nat.lt_div_mul_add (a := totalItems + count - 1) positive
    have product := Nat.div_mul_le_self (totalItems + count - 1) count
    exact ⟨(totalItems + count - 1) / count, by omega, by omega⟩
  obtain ⟨few, -, ends⟩ := counts pages atEnd
  have after : pages ≤ number := by
    by_contra before
    have products : (number + 1) * count ≤ pages * count :=
      Nat.mul_le_mul_right count (not_le.mp before)
    rw [Nat.add_one_mul] at products
    obtain ⟨isWithin, -⟩ :=
      counts.within isSize positive atMost
        (by omega : number * count < totalItems)
    exact isWithin.not_beyond beyond
  have reached := nearest_le_start isSize isStart positiveRat after few
  rw [← Nat.cast_mul] at reached
  have past : (totalItems : Rat) ≤ index :=
    ((ends notBefore).trans reached).trans lower
  have pastNat : totalItems ≤ index := by exact_mod_cast past
  omega

/-- Where the pages are counted, they show all records once. -/
theorem CountsPages.partitions
    (counts : CountsPages count totalItems)
    (begins : ∃ start : Nat, query.skip = .finite start) :
    query.Partitions totalItems := by
  have fromOne : (1 : Rat) ≤ count := by exact_mod_cast positive
  have notMany : totalItems ≤ 2 ^ 53 * count := by
    by_contra many
    have counted := (counts (2 ^ 53) (by omega)).1
    omega
  constructor
  · exact begins
  · intro page isWithin
    obtain ⟨number, rfl⟩ := isWithin.exists_eq_add_one
    have few := few_of_within isSize positive atMost notMany isWithin
    obtain ⟨start, isStart, -⟩ := exists_start isSize atMost few
    exact ⟨start, isStart⟩
  · intro index inRange
    have window := Nat.lt_div_mul_add (a := index) positive
    have lower := Nat.div_mul_le_self index count
    obtain ⟨isWithin, isStart⟩ :=
      counts.within isSize positive atMost (lower.trans_lt inRange)
    refine
      ⟨index / count + 1,
        ⟨isWithin, (shows_iff isSize isStart index).mpr ⟨lower, window⟩⟩, ?_⟩
    rintro page ⟨pageWithin, shown⟩
    obtain ⟨number, rfl⟩ := pageWithin.exists_eq_add_one
    have few := few_of_within isSize positive atMost notMany pageWithin
    rw [counts.eq_of_shows isSize positive atMost few pageWithin inRange shown]
  · intro page beyond index inRange
    cases page with
    | zero => exact absurd beyond (not_beyond_zero isSize fromOne)
    | succ number =>
        exact counts.not_shows isSize positive atMost beyond inRange

end Whole

/-- Fewer than 2 ^ 53 records are counted, whatever the size. -/
theorem countsPages_of_few
    {count : Nat}
    (positive : 0 < count)
    (few : totalItems < 2 ^ 53) :
    CountsPages count totalItems := by
  intro number reached
  have all : Binary64.nearest totalItems = totalItems :=
    (Binary64.isDouble_natCast few.le).nearest_eq
  refine ⟨?_, ?_, ?_⟩
  · have steps : number ≤ totalItems := by
      by_contra more
      have product : (totalItems + 1) * count ≤ number * count :=
        Nat.mul_le_mul_right count (not_le.mp more)
      have items := Nat.le_mul_of_pos_right totalItems positive
      rw [Nat.add_one_mul] at product
      omega
    omega
  · intro inside
    rw [all]
    exact
      ⟨(Binary64.isDouble_natCast (by omega)).nearest_eq,
        by exact_mod_cast inside⟩
  · intro after
    exact
      (Binary64.isDouble_natCast few.le).le_nearest (by exact_mod_cast after)

/-! ## Records on one page, or on none -/

/-- Records that do not fit on one page need a second one. -/
theorem within_two
    (isSize : query.pageSize.number? = some (.finite size))
    (double : Binary64.IsDouble size)
    (fromOne : 1 ≤ size)
    (atMost : size ≤ 50)
    (more : size < totalItems) :
    Within 2 (PagingResponseDTO.pagesOf totalItems query.pageSize) := by
  have moreDouble : size < Binary64.nearest totalItems := by
    by_cases few : totalItems ≤ 2 ^ 53
    · rwa [(Binary64.isDouble_natCast few).nearest_eq]
    · have far : ((100 : Nat) : Rat) ≤ Binary64.nearest totalItems := by
        apply (Binary64.isDouble_natCast (by norm_num)).le_nearest
        exact_mod_cast (show 100 ≤ totalItems by omega)
      push_cast at far
      linarith
  have isProduct : ((1 : Nat) : Rat) * size = size := by
    rw [Nat.cast_one, one_mul]
  exact
    within_of_lt isSize fromOne atMost (isProduct.symm ▸ double)
      (isProduct.symm ▸ moreDouble)

/-- Records that fit on one page are partitioned by it. -/
theorem partitions_single
    (isSize : query.pageSize.number? = some (.finite size))
    (double : Binary64.IsDouble size)
    (fromOne : 1 ≤ size)
    (atMost : size ≤ 50)
    (fits : (totalItems : Rat) ≤ size)
    (begins : ∃ start : Nat, query.skip = .finite start) :
    query.Partitions totalItems := by
  have isPages := pagesOf_single isSize fromOne atMost fits
  have isNumeric := PropertyValue.toNumeric_of_number? isSize
  have first : (query.forPage 1).skip = .finite (0 : Nat) := by
    have isFirst :=
      skip_of_page (number?_forPage (by norm_num : 0 < 2 ^ 53)) isSize
        (by norm_num)
    rw [Nat.cast_zero, zero_mul] at isFirst
    exact isFirst.trans (Numeric.toDouble_natCast (by norm_num))
  have onlyFirst :
      ∀ page,
        Within page (PagingResponseDTO.pagesOf totalItems query.pageSize) →
          page = 1 ∧ totalItems ≠ 0 := by
    intro page isWithin
    rw [isPages] at isWithin
    obtain ⟨someNumber, bounded⟩ := isWithin
    split at bounded
    next none =>
      have noNumber : page ≤ 0 := by exact_mod_cast bounded
      omega
    next some =>
      have oneNumber : page ≤ 1 := by exact_mod_cast bounded
      exact ⟨by omega, some⟩
  constructor
  · exact begins
  · intro page isWithin
    obtain ⟨rfl, -⟩ := onlyFirst page isWithin
    exact ⟨0, first⟩
  · intro index inRange
    have before : (index : Rat) < totalItems := by exact_mod_cast inRange
    refine ⟨1, ⟨?_, ?_⟩, ?_⟩
    · rw [isPages, if_neg (by omega)]
      exact ⟨le_refl 1, by norm_num⟩
    · refine ⟨_, _, first, isNumeric, ?_, ?_⟩
      · exact_mod_cast Nat.zero_le index
      · push_cast
        linarith
    · exact fun page shown => (onlyFirst page shown.1).1
  · rintro page beyond index inRange ⟨start, length, isStart, -, lower, -⟩
    have before : (index : Rat) < totalItems := by exact_mod_cast inRange
    rw [isPages, if_neg (by omega)] at beyond
    have after : 1 < page := by
      simpa [Beyond, Numeric.lessThan] using beyond
    obtain ⟨number, rfl⟩ := Nat.exists_eq_add_of_lt after
    have reached :=
      nearest_le_start isSize isStart (by linarith)
        (Nat.le_add_right 1 number) (by norm_num)
    rw [Nat.cast_one, one_mul, double.nearest_eq] at reached
    linarith

/-- Without a size, no page shows anything. -/
theorem not_shows_null
    (given : query.pageSize = .json .null)
    (page index : Nat) :
    ¬ query.Shows page index := by
  rintro ⟨start, length, begins, isSize, lower, upper⟩
  have zero : query.pageSize.toNumeric = .finite (0 : Nat) := by
    rw [given]
    exact Numeric.toDouble_natCast (by norm_num)
  rw [zero] at isSize
  obtain rfl := Numeric.finite.inj isSize
  push_cast at upper
  linarith

/-- Without a size, there is nothing to begin with but for an empty result. -/
theorem partitions_null
    (given : query.pageSize = .json .null)
    (begins : query.skip = .finite (0 : Nat)) :
    query.Partitions totalItems ↔ totalItems = 0 := by
  constructor
  · intro partitions
    by_contra some
    obtain ⟨page, ⟨-, shows⟩, -⟩ :=
      partitions.covered 0 (Nat.pos_of_ne_zero some)
    exact not_shows_null given page 0 shows
  · rintro rfl
    have isPages :
        PagingResponseDTO.pagesOf 0 query.pageSize = .notANumber := by
      rw [given]
      decide +kernel
    exact
      { skip := ⟨0, begins⟩
        skips := by
          intro page isWithin
          rw [isPages] at isWithin
          exact isWithin.elim
        covered := fun _ inRange => absurd inRange (Nat.not_lt_zero _)
        nothingAfter := fun _ _ _ inRange =>
          absurd inRange (Nat.not_lt_zero _) }

/-! ## All requests -/

/-- A page that does not begin at an index partitions nothing. -/
theorem not_partitions_of_skip
    (begins : ∀ start : Nat, query.skip ≠ .finite start) :
    ¬ query.Partitions totalItems := by
  intro partitions
  obtain ⟨start, same⟩ := partitions.skip
  exact begins start same

/-- With two numbers, one page shows everything or the pages are counted. -/
theorem partitions_num
    (isPage : query.page.number? = some (.finite page))
    (isSize : query.pageSize.number? = some (.finite size))
    (pageFromOne : 1 ≤ page)
    (fromOne : 1 ≤ size)
    (atMost : size ≤ 50) :
    query.Partitions totalItems ↔
      BeginsAtIndex page size ∧
        ((totalItems : Rat) ≤ size ∨
          ∃ count : Nat, size = count ∧ CountsPages count totalItems) := by
  obtain ⟨pageDouble, pageBelow⟩ := PropertyValue.isDouble_of_number? isPage
  obtain ⟨double, -⟩ := PropertyValue.isDouble_of_number? isSize
  have begins :=
    begins_iff isPage isSize pageDouble pageBelow pageFromOne fromOne atMost
  constructor
  · intro partitions
    refine ⟨begins.mp partitions.skip, ?_⟩
    by_cases fits : (totalItems : Rat) ≤ size
    · exact .inl fits
    · -- the second page begins at the size
      obtain ⟨start, isStart⟩ :=
        partitions.skips 2
          (within_two isSize double fromOne atMost (not_le.mp fits))
      have second :=
        skip_of_page (number?_forPage (by norm_num : 1 < 2 ^ 53)) isSize
          (by norm_num)
      have below : size < Binary64.limit :=
        Binary64.lt_limit (atMost.trans (by norm_num))
      rw [Nat.cast_one, one_mul, Numeric.toDouble_of_lt (by linarith) below,
        double.nearest_eq] at second
      obtain rfl : size = (start : Rat) :=
        Numeric.finite.inj (second.symm.trans isStart)
      exact
        .inr
          ⟨start, rfl,
            partitions.countsPages isSize (by exact_mod_cast fromOne)
              (by exact_mod_cast atMost)⟩
  · rintro ⟨atIndex, fits | ⟨count, rfl, counts⟩⟩
    · exact
        partitions_single isSize double fromOne atMost fits
          (begins.mpr atIndex)
    · exact
        counts.partitions isSize (by exact_mod_cast fromOne)
          (by exact_mod_cast atMost) (begins.mpr atIndex)

/-- Where page and size are numbers, the condition is about these. -/
theorem startsAtIndex_num
    (isPage : query.page.number? = some (.finite page))
    (isSize : query.pageSize.number? = some (.finite size)) :
    query.StartsAtIndex totalItems ↔
      BeginsAtIndex page size ∧
        ((totalItems : Rat) ≤ size ∨
          ∃ count : Nat, size = count ∧ CountsPages count totalItems) := by
  constructor
  · rintro (⟨otherPage, otherSize, samePage, sameSize, holds⟩ |
      ⟨-, null, -⟩)
    · obtain rfl :=
        Numeric.finite.inj (Option.some.inj (isPage.symm.trans samePage))
      obtain rfl :=
        Numeric.finite.inj (Option.some.inj (isSize.symm.trans sameSize))
      exact holds
    · rw [null] at isSize
      cases isSize
  · exact fun holds => .inl ⟨page, size, isPage, isSize, holds⟩

/-- Where one of them is no number, there must be a page but no size. -/
theorem startsAtIndex_other
    (notBoth : query.page.number? = none ∨ query.pageSize.number? = none) :
    query.StartsAtIndex totalItems ↔
      query.page ≠ .undefined ∧ query.pageSize = .json .null ∧
        totalItems = 0 := by
  constructor
  · rintro (⟨page, size, isPage, isSize, -⟩ | holds)
    · rcases notBoth with none | none
      · exact absurd (isPage.symm.trans none) (by simp)
      · exact absurd (isSize.symm.trans none) (by simp)
    · exact holds
  · exact .inr

/-- Without a size, everything hangs on whether there is something to show. -/
theorem partitions_iff_null
    {before : Rat}
    (isBefore :
      (query.page.toNumeric.minus 1).toDouble = .finite before)
    (somePage : query.page ≠ .undefined)
    (noSize : query.pageSize = .json .null) :
    query.Partitions totalItems ↔ query.StartsAtIndex totalItems := by
  rw [partitions_null noSize (skip_of_null isBefore noSize),
    startsAtIndex_other (.inr (by rw [noSize]; rfl))]
  exact ⟨fun none => ⟨somePage, noSize, none⟩, fun holds => holds.2.2⟩

/-- A request that is accepted, but not with two numbers. -/
theorem partitions_iff_other
    (valid : query.valid = true)
    (notBoth : query.page.number? = none ∨ query.pageSize.number? = none) :
    query.Partitions totalItems ↔ query.StartsAtIndex totalItems := by
  obtain ⟨pageValid, sizeValid⟩ := Bool.and_eq_true_iff.mp valid
  have undefined :
      query.page = .undefined ∨ query.pageSize = .undefined →
        (query.Partitions totalItems ↔ query.StartsAtIndex totalItems) := by
    intro undefined
    rw [startsAtIndex_other notBoth]
    refine iff_of_false (not_partitions_of_skip ?_) ?_
    · intro start same
      rw [skip_of_undefined undefined] at same
      cases same
    · rintro ⟨somePage, null, -⟩
      rcases undefined with noPage | noSize
      · exact somePage noPage
      · rw [noSize] at null
        cases null
  rcases pageSize_cases sizeValid with
    noSize | nullSize | ⟨size, isSize, fromOne, -⟩
  · exact undefined (.inr noSize)
  · rcases page_cases pageValid with
      noPage | nullPage | ⟨page, isPage, pageFromOne⟩
    · exact undefined (.inl noPage)
    · have isBefore :
          (query.page.toNumeric.minus 1).toDouble = .finite (-1) := by
        rw [nullPage]
        decide +kernel
      exact partitions_iff_null isBefore (by simp [nullPage]) nullSize
    · have below := (PropertyValue.isDouble_of_number? isPage).2
      have isBefore :
          (query.page.toNumeric.minus 1).toDouble =
            .finite (Binary64.nearest (page - 1)) := by
        rw [PropertyValue.toNumeric_of_number? isPage]
        exact Numeric.toDouble_of_lt (by linarith) (by linarith)
      have somePage : query.page ≠ .undefined := by
        intro noPage
        rw [noPage] at isPage
        cases isPage
      exact partitions_iff_null isBefore somePage nullSize
  · rcases page_cases pageValid with
      noPage | nullPage | ⟨page, isPage, -⟩
    · exact undefined (.inl noPage)
    · rw [startsAtIndex_other notBoth]
      refine
        iff_of_false
          (not_partitions_of_skip
            (skip_of_nullPage nullPage isSize fromOne)) ?_
      rintro ⟨-, null, -⟩
      rw [null] at isSize
      cases isSize
    · rw [isPage, isSize] at notBoth
      simp at notBoth

/--
For a request that is accepted, and any number of records, the pages partition
the result exactly if page and size are numbers, the page begins at an index,
and either one page shows everything, or the size is whole and its pages are
counted, as they are with fewer than 2 ^ 53 records; or if there is a page, but
no size, and nothing to show.
-/
theorem partitions_iff
    (query : PagingRequestDTO)
    (valid : query.valid = true)
    (totalItems : Nat) :
    query.Partitions totalItems ↔ query.StartsAtIndex totalItems := by
  obtain ⟨pageValid, sizeValid⟩ := Bool.and_eq_true_iff.mp valid
  by_cases both :
      (∃ page, query.page.number? = some page) ∧
        ∃ size, query.pageSize.number? = some size
  · rcases page_cases pageValid with
      noPage | nullPage | ⟨page, isPage, pageFromOne⟩
    · rw [noPage] at both
      obtain ⟨⟨page, isPage⟩, -⟩ := both
      cases isPage
    · rw [nullPage] at both
      obtain ⟨⟨page, isPage⟩, -⟩ := both
      cases isPage
    · rcases pageSize_cases sizeValid with
        noSize | nullSize | ⟨size, isSize, fromOne, atMost⟩
      · rw [noSize] at both
        obtain ⟨-, size, isSize⟩ := both
        cases isSize
      · rw [nullSize] at both
        obtain ⟨-, size, isSize⟩ := both
        cases isSize
      · rw [startsAtIndex_num isPage isSize]
        exact partitions_num isPage isSize pageFromOne fromOne atMost
  · have notBoth :
        query.page.number? = none ∨ query.pageSize.number? = none := by
      rw [not_and_or, not_exists, not_exists] at both
      exact
        both.imp Option.eq_none_iff_forall_ne_some.mpr
          Option.eq_none_iff_forall_ne_some.mpr
    exact partitions_iff_other valid notBoth

/-- The fourth page of seven users each. -/
def fourthOfSeven : PagingRequestDTO where
  page := .number (.finite 4)
  pageSize := .number (.finite 7)

/-- Pages of seven partition 31 records. -/
theorem partitions_iff_fourth : fourthOfSeven.Partitions 31 := by
  refine (partitions_iff fourthOfSeven (by decide +kernel) 31).mpr ?_
  refine
    .inl
      ⟨4, 7, by decide +kernel, by decide +kernel, ?_,
        .inr ⟨7, rfl, countsPages_of_few (by norm_num) (by norm_num)⟩⟩
  rw [BeginsAtIndex, if_pos (by norm_num)]
  have product : ((4 : Rat) - 1) * 7 - (21 : Nat) = 0 := by norm_num
  refine ⟨21, ?_⟩
  rw [product, abs_zero]
  exact (half_pos (Binary64.unit_pos _)).le

/-- One page and a half are accepted, and begin between two records. -/
theorem page_begins_between_records :
    ¬ ∀ query : PagingRequestDTO,
        query.valid = true → ∀ totalItems, query.Partitions totalItems := by
  intro always
  obtain ⟨start, begins⟩ :=
    (always
      { page := .number (.finite (3 / 2)), pageSize := .json PAGING.PAGE_SIZE }
      (by decide +kernel) 31).skip
  have isSkip :
      skip
          { page := .number (.finite (3 / 2))
            pageSize := .json PAGING.PAGE_SIZE } =
        .finite (15 / 2) := by
    decide +kernel
  have value : (start : Rat) = 15 / 2 :=
    (Numeric.finite.inj (isSkip.symm.trans begins)).symm
  have doubled : ((2 * start : Nat) : Rat) = (15 : Nat) := by
    push_cast
    rw [value]
    norm_num
  have inNaturals : 2 * start = 15 := by exact_mod_cast doubled
  omega

end PagingRequestDTO

end NestBackend
