import NestBackend.BaseRedisService
import NestBackend.LapsingCount

namespace NestBackend

/-!
# `AmqpCacheService`

The counter of deliveries per message id.  It counts in Redis and gets a new
lifetime of twelve hours at every count.
-/

namespace JavaScript

/-- `parseInt(text, 10)`, or `none` where that is `NaN`. -/
def parseInt (text : String) : Option Int :=
  let trimmed := text.toList.dropWhile isWhiteSpace
  let magnitude (characters : List Char) : Option Int :=
    match characters.takeWhile Char.isDigit with
    | [] => none
    | digits => some (Nat.ofDigitChars 10 digits 0 : Int)
  match trimmed with
  | '-' :: rest => (magnitude rest).map (fun value => -value)
  | '+' :: rest => magnitude rest
  | rest => magnitude rest

/-- A digit is not white space. -/
theorem isWhiteSpace_of_isDigit
    {char : Char}
    (isDigit : char.isDigit = true) :
    isWhiteSpace char = false := by
  have bounds : 48 ≤ char.toNat ∧ char.toNat ≤ 57 := by
    simpa [Char.isDigit, UInt32.le_iff_toNat_le] using isDigit
  simp only [isWhiteSpace, List.mem_cons, List.not_mem_nil, or_false,
    Bool.or_eq_false_iff, Bool.and_eq_false_iff, decide_eq_false_iff_not]
  omega

/-- A counter is read as the number that was written. -/
theorem parseInt_toString (number : Nat) :
    parseInt (toString (number : Int)) = some (number : Int) := by
  have digits :
      (toString (number : Int)).toList = Nat.toDigits 10 number :=
    Nat.toList_repr
  have isDigit :
      ∀ char ∈ Nat.toDigits 10 number, char.isDigit = true := by
    intro char member
    exact Nat.isDigit_of_mem_toDigits (by decide) (by decide) member
  have whole :
      (Nat.toDigits 10 number).takeWhile Char.isDigit =
        Nat.toDigits 10 number :=
    List.takeWhile_eq_self_iff.mpr isDigit
  have nonempty : Nat.toDigits 10 number ≠ [] := Nat.toDigits_ne_nil
  have read : Nat.ofDigitChars 10 (Nat.toDigits 10 number) 0 = number :=
    Nat.ofDigitChars_ten_toDigits
  cases shape : Nat.toDigits 10 number with
  | nil => exact absurd shape nonempty
  | cons head rest =>
      rw [shape] at isDigit whole read digits
      have headDigit := isDigit head List.mem_cons_self
      have noSpace := isWhiteSpace_of_isDigit headDigit
      have notMinus : head ≠ '-' := by
        intro same
        rw [same] at headDigit
        exact absurd headDigit (by decide)
      have notPlus : head ≠ '+' := by
        intro same
        rw [same] at headDigit
        exact absurd headDigit (by decide)
      unfold parseInt
      simp only [digits, List.dropWhile_cons, noSpace,
        Bool.false_eq_true, ↓reduceIte]
      split
      next same => exact absurd (List.cons.inj same).1 notMinus
      next same => exact absurd (List.cons.inj same).1 notPlus
      next => simp [whole, read]

end JavaScript

namespace Redis

/-! ## A counter that is given a lifetime at every count -/

/-- What lies under the key of a counter after events, latest first. -/
def counter (lifetime : Nat) : List Nat → Slot
  | [] => none
  | instant :: earlier =>
      some
        ⟨.string
            (toString
              ((lapsingCount lifetime instant earlier + 1 : Nat) : Int)),
          some (instant + lifetime)⟩

/-- A counter is live as long as it counts something. -/
theorem live_counter
    (lifetime now : Nat)
    (instants : List Nat) :
    lapsingCount lifetime now instants = 0 ∧
        live now (counter lifetime instants) = none ∨
      ∃ expiresAt,
        lapsingCount lifetime now instants ≠ 0 ∧
          live now (counter lifetime instants) =
            some
              ⟨.string
                  (toString ((lapsingCount lifetime now instants : Nat) : Int)),
                expiresAt⟩ := by
  cases instants with
  | nil => exact Or.inl ⟨rfl, rfl⟩
  | cons instant earlier =>
      by_cases unlapsed : now < instant + lifetime
      · right
        refine ⟨some (instant + lifetime), ?_, ?_⟩
        · simp [lapsingCount, unlapsed]
        · simp [live, counter, lapsingCount, unlapsed]
      · left
        constructor
        · simp [lapsingCount, unlapsed]
        · simp [live, counter, unlapsed]

/-- What `INCR` leaves, and that it is not refused. -/
theorem incr_counter
    (lifetime now : Nat)
    (instants : List Nat) :
    ∃ expiresAt number,
      incr now (counter lifetime instants) =
        (some
            ⟨.string
                (toString
                  ((lapsingCount lifetime now instants + 1 : Nat) : Int)),
              expiresAt⟩,
          .ok number) ∧
        ∀ instant, expiresAt = some instant → now < instant := by
  rcases live_counter lifetime now instants with
    ⟨isZero, gone⟩ | ⟨expiresAt, nonzero, isLive⟩
  · refine ⟨none, 1, ?_, nofun⟩
    simp only [incr, gone, isZero]
    rfl
  · refine
      ⟨expiresAt, (lapsingCount lifetime now instants : Int) + 1, ?_, ?_⟩
    · simp only [incr, isLive, integer?_toString]
      rfl
    · intro instant shape
      subst shape
      have found := isLive
      simp only [live, Option.filter_eq_some_iff] at found
      simpa using found.2

end Redis

namespace AmqpCacheService

/-- The instance of `AbstractRedisService`. -/
def service : RedisService :=
  ⟨"AMQP"⟩

/-- `keyDeliveryCount`. -/
def keyDeliveryCount (key : String) : String :=
  service.cacheKey ("dlvr-count-" ++ key)

/-- The lifetime that a counter is given, in seconds. -/
def countSeconds : Int :=
  3600 * 12

/-- `increaseDeliveryCount`; when `INCR` is refused, `EXPIRE` is not sent. -/
def increaseDeliveryCount
    (msgId : String)
    (now : Nat)
    (redis : String → Redis.Slot) : String → Redis.Slot :=
  let key := keyDeliveryCount msgId
  let (counted, reply) := Redis.send key Redis.incr now redis
  match reply with
  | .ok _ => (Redis.send key (Redis.expire countSeconds) now counted).1
  | .error _ => counted

/-- `isValidDeliveryCount`. -/
def isValidDeliveryCount
    (msgId : String)
    (max : Int)
    (now : Nat)
    (redis : String → Redis.Slot) : Except RedisError Bool :=
  let stored := (Redis.send (keyDeliveryCount msgId) Redis.get now redis).2
  stored.map fun text =>
    let count :=
      match text with
      | none => "0"
      | some "" => "0"
      | some text => text
    match JavaScript.parseInt count with
    | none => true
    | some current => if current = 0 then true else current - 1 ≤ max

/-! ## The counter as a count of deliveries -/

/-- The lifetime of a counter in milliseconds. -/
def lifetime : Nat :=
  1000 * countSeconds.toNat

/-- How many of the deliveries, latest first, the counter still counts. -/
abbrev count (now : Nat) (instants : List Nat) : Nat :=
  lapsingCount lifetime now instants

/-- A count that leaves room for another delivery. -/
def Within (max : Int) (count : Nat) : Prop :=
  count = 0 ∨ (count : Int) - 1 ≤ max

instance (max : Int) (count : Nat) : Decidable (Within max count) :=
  inferInstanceAs (Decidable (_ ∨ _))

/-- A smaller count leaves room where a larger one does. -/
theorem Within.smaller
    {max : Int}
    {fewer count : Nat}
    (within : Within max count)
    (order : fewer ≤ count) :
    Within max fewer := by
  unfold Within at within ⊢
  omega

/-- Different ids have different counters. -/
theorem keyDeliveryCount_injective :
    Function.Injective keyDeliveryCount := by
  intro first second same
  have sameKey := service.cacheKey_injective same
  simpa using sameKey

/-- Other keys are left alone. -/
theorem increaseDeliveryCount_other
    {msgId key : String}
    (different : key ≠ keyDeliveryCount msgId)
    (now : Nat)
    (redis : String → Redis.Slot) :
    increaseDeliveryCount msgId now redis key = redis key := by
  unfold increaseDeliveryCount Redis.send
  simp only [StoreEffect.atKey_reply]
  cases (Redis.incr now (redis (keyDeliveryCount msgId))).2 with
  | ok number =>
      exact
        (StoreEffect.atKey_other different _ _).trans
          (StoreEffect.atKey_other different _ _)
  | error error => exact StoreEffect.atKey_other different _ _

/-- One more delivery. -/
theorem increaseDeliveryCount_counter
    {msgId : String}
    {redis : String → Redis.Slot}
    {instants : List Nat}
    (counted :
      redis (keyDeliveryCount msgId) = Redis.counter lifetime instants)
    (now : Nat) :
    increaseDeliveryCount msgId now redis (keyDeliveryCount msgId) =
      Redis.counter lifetime (now :: instants) := by
  obtain ⟨expiresAt, number, increased, unexpired⟩ :=
    Redis.incr_counter lifetime now instants
  have positive : ¬ countSeconds ≤ 0 := by decide
  unfold increaseDeliveryCount Redis.send
  simp only [StoreEffect.atKey_reply, counted, increased,
    StoreEffect.atKey_same]
  have isLive :
      ∀ value,
        Redis.live now (some ⟨value, expiresAt⟩) =
          some ⟨value, expiresAt⟩ := by
    intro value
    cases expiresAt with
    | none => rfl
    | some instant =>
        simp [Redis.live, unexpired instant rfl]
  simp only [Redis.expire, isLive, positive, ↓reduceIte]
  rfl

/-- The check looks at the number of deliveries that are still counted. -/
theorem isValidDeliveryCount_counter
    {msgId : String}
    {redis : String → Redis.Slot}
    {instants : List Nat}
    (counted :
      redis (keyDeliveryCount msgId) = Redis.counter lifetime instants)
    (max : Int)
    (now : Nat) :
    isValidDeliveryCount msgId max now redis =
      .ok (decide (Within max (count now instants))) := by
  unfold isValidDeliveryCount Redis.send
  simp only [StoreEffect.atKey_reply, counted, Redis.get]
  rcases Redis.live_counter lifetime now instants with
    ⟨isZero, gone⟩ | ⟨expiresAt, nonzero, isLive⟩
  · simp only [gone, count, isZero]
    rfl
  · have notEmpty :
        toString ((lapsingCount lifetime now instants : Nat) : Int) ≠ "" := by
      intro empty
      have noDigits := congrArg String.toList empty
      exact Nat.toDigits_ne_nil (Nat.toList_repr.symm.trans noDigits)
    have sameNumber :
        (lapsingCount lifetime now instants : Int) ≠ 0 := by
      exact_mod_cast nonzero
    simp only [isLive, Except.map, JavaScript.parseInt_toString,
      sameNumber, ↓reduceIte]
    simp [Within, count, nonzero]

end AmqpCacheService

end NestBackend
