import NestBackend.SessionCalls
import Mathlib.Data.Rat.Lemmas

namespace NestBackend

open JavaScript

/-!
# How long a session lives

Every call that changes a session writes it anew, with a lifetime in seconds
that it computes from `exp` and from the clock.  Rounding does not add up: the
expiry stays within the second that `exp` begins.
-/

namespace AuthSessionService

/-- With an integral `exp`, the rest of the lifetime is a plain difference. -/
theorem secondsLeft_int
    {session : JsonObject}
    {exp : Int}
    (stored : session "exp" = some (.int exp))
    (now : Nat) :
    secondsLeft session now = some (exp - (now / 1000 : Nat)) := by
  have difference :
      (exp : Rat) - ((now / 1000 : Nat) : Rat) =
        ((exp - (now / 1000 : Nat) : Int) : Rat) := by
    push_cast
    rfl
  simp only [secondsLeft, stored, toNumber?, Option.map_some,
    Option.getD_some, Json.toNumber_int, Numeric.minus, difference,
    Numeric.toInt?, Rat.den_intCast, Rat.num_intCast, ↓reduceIte]

namespace SessionCall

/-- The instants of the calls follow one another. -/
def Chronological : Nat → List SessionCall → Prop
  | _, [] => True
  | now, call :: rest =>
      now ≤ call.readAt ∧ call.readAt ≤ call.writtenAt ∧
        Chronological call.writtenAt rest

/-- The entry ends in the second after `exp`, and has this `iat`. -/
structure EndsAt
    (exp : Int)
    (iat : Option Json)
    (entry : Entry JsonObject) : Prop where
  storedExp : entry.value "exp" = some (.int exp)
  storedIat : entry.value "iat" = iat
  notBefore : 1000 * exp ≤ entry.expiresAt
  before : entry.expiresAt < 1000 * exp + 1000

/-- A lifetime up to `exp` from now, in seconds, is right to the second. -/
theorem expiry_within
    {exp : Int}
    {now : Nat}
    (positive : 0 < exp - (now / 1000 : Nat))
    (value : JsonObject) :
    1000 * exp ≤
        (Entry.mk value now
          ((exp - (now / 1000 : Nat)).toNat * 1000)).expiresAt ∧
      (Entry.mk value now
            ((exp - (now / 1000 : Nat)).toNat * 1000)).expiresAt <
        1000 * exp + 1000 := by
  simp only [Entry.expiresAt]
  omega

variable
  {key : String}
  {sessionType : JwtSession}
  {backend : Backend String JsonObject}

/-- One call leaves the end of the session where it is. -/
theorem EndsAt.perform
    (call : SessionCall)
    {exp : Int}
    {iat : Json}
    {entry : Entry JsonObject}
    (lookup :
      backend.store.lookup
          (SessionService.session.storageKey sessionType.text key) =
        some entry)
    (ends : EndsAt exp (some iat) entry) :
    ∃ after,
      (call.perform key sessionType backend).1.store.lookup
          (SessionService.session.storageKey sessionType.text key) =
        some after ∧
        EndsAt exp (some iat) after := by
  rcases call.perform_cases key sessionType backend with
    ⟨session, value, seconds, returns⟩ | ⟨failure, threw⟩
  · obtain ⟨found, foundLookup, -, rfl⟩ :=
      ExpiringStore.read_eq_some.mp returns.read
    obtain rfl := Option.some.inj (lookup.symm.trans foundLookup)
    have left := returns.secondsLeft
    rw [secondsLeft_int ends.storedExp] at left
    obtain rfl := Option.some.inj left
    have within :=
      expiry_within returns.positive
        (call.stored value (exp - (call.writtenAt / 1000 : Nat)))
    rw [returns.perform]
    refine ⟨_, ExpiringStore.lookup_write_same _ _ _ _ _, ?_, ?_,
      within.1, within.2⟩
    · exact returns.stored_own ends.storedExp (by decide) (by decide)
    · exact returns.stored_own ends.storedIat (by decide) (by decide)
  · rw [threw]
    exact ⟨entry, lookup, ends⟩

/-- Any number of calls leave the end of the session where it is. -/
theorem EndsAt.performAll
    {exp : Int}
    {iat : Json}
    {entry : Entry JsonObject}
    (calls : List SessionCall)
    (lookup :
      backend.store.lookup
          (SessionService.session.storageKey sessionType.text key) =
        some entry)
    (ends : EndsAt exp (some iat) entry) :
    ∃ after,
      (performAll key sessionType backend calls).store.lookup
          (SessionService.session.storageKey sessionType.text key) =
        some after ∧
        EndsAt exp (some iat) after := by
  induction calls generalizing backend entry with
  | nil => exact ⟨entry, lookup, ends⟩
  | cons call rest inductionHypothesis =>
      obtain ⟨next, nextLookup, nextEnds⟩ :=
        EndsAt.perform call lookup ends
      exact inductionHypothesis nextLookup nextEnds

/-- What `addSession` stores when it returns. -/
theorem addSession_stored
    {created : Backend String JsonObject}
    {start : Nat}
    {lifetime : Int}
    {value result : Properties}
    (creation :
      (SessionService.session.addSession sessionType.text key
          (some lifetime) value).run (fun _ => start) backend =
        (created, .ok result)) :
    0 < lifetime ∧
      created.store.lookup
          (SessionService.session.storageKey sessionType.text key) =
        some
          ⟨((SessionService.stamp start (some lifetime)).spread
              value).stringify,
            start, lifetime.toNat * 1000⟩ := by
  rw [SessionService.addSession_eq] at creation
  simp only [StoreProgram.run] at creation
  by_cases positive : 0 < lifetime
  · rw [Backend.setex_of_pos _ _ _ positive] at creation
    simp only [StoreProgram.run, Prod.mk.injEq] at creation
    obtain ⟨rfl, -⟩ := creation
    exact ⟨positive, ExpiringStore.lookup_write_same _ _ _ _ _⟩
  · simp [Backend.setex, positive, StoreProgram.run] at creation

/-- The `exp` of a new session, when it is the end of its lifetime. -/
theorem stamped_exp_iff
    {start : Nat}
    {lifetime : Int}
    {value : Properties} :
    ((SessionService.stamp start (some lifetime)).spread value).stringify
          "exp" =
        some (.int ((start / 1000 : Nat) + lifetime)) ↔
      value "exp" = none ∨
        value "exp" =
          some (some (.int ((start / 1000 : Nat) + lifetime))) := by
  unfold Properties.stringify Properties.spread
  cases own : value "exp" with
  | none => simp [SessionService.stamp]
  | some held => simp

/-- A new session has an `iat` unless its value owns one that is undefined. -/
theorem stamped_iat_iff
    (start : Nat)
    (lifetime : Int)
    {value : Properties} :
    ((SessionService.stamp start (some lifetime)).spread value).stringify
          "iat" =
        none ↔
      value "iat" = some none := by
  unfold Properties.stringify Properties.spread
  cases own : value "iat" with
  | none => simp [SessionService.stamp]
  | some held => simp

/-- A session without an `iat` is given one by the first call that returns. -/
theorem clearing_stamps_iat
    (now : Nat)
    (type : FlowType)
    {exp : Int}
    {entry : Entry JsonObject}
    (lookup :
      backend.store.lookup
          (SessionService.session.storageKey sessionType.text key) =
        some entry)
    (storedExp : entry.value "exp" = some (.int exp))
    (noIat : entry.value "iat" = none)
    (live : entry.LiveAt now)
    (left : 0 < exp - (now / 1000 : Nat)) :
    ∃ after,
      (performAll key sessionType backend
            [⟨.clearFlowSession type, now, now⟩]).store.lookup
          (SessionService.session.storageKey sessionType.text key) =
        some after ∧
        after.value "iat" ≠ none := by
  have changed :
      (Mutator.clearFlowSession type).change entry.value =
        .ok (setFlowSession entry.value type.text none) :=
    rfl
  have returns :
      Returns ⟨.clearFlowSession type, now, now⟩ key sessionType backend
        entry.value (setFlowSession entry.value type.text none)
        (exp - (now / 1000 : Nat)) :=
    ⟨rfl, ExpiringStore.read_eq_some.mpr ⟨entry, lookup, live, rfl⟩,
      changed, secondsLeft_int storedExp now, left⟩
  have kept :
      setFlowSession entry.value type.text none "iat" =
        JsonObject.properties entry.value "iat" :=
    Mutator.change_other changed (by decide) (by decide)
  simp only [performAll, List.foldl_cons, List.foldl_nil, returns.perform]
  refine ⟨_, ExpiringStore.lookup_write_same _ _ _ _ _, ?_⟩
  simp [stored, Properties.stringify, Properties.spread, kept,
    JsonObject.properties, noIat, SessionService.stamp]

/-- The session is stored and ends with the second after `exp`. -/
def KeepsItsEnd
    (key : String)
    (sessionType : JwtSession)
    (exp : Int)
    (created after : Backend String JsonObject) : Prop :=
  ∃ first entry,
    created.store.lookup
          (SessionService.session.storageKey sessionType.text key) =
        some first ∧
      after.store.lookup
          (SessionService.session.storageKey sessionType.text key) =
        some entry ∧
      EndsAt exp (first.value "iat") entry

/--
The end of a session never moves, whatever is called on it and when, exactly
when the value it was created from has no `exp` of its own, unless it be the
same, and does not own an `iat` that is undefined.
-/
theorem keepsItsEnd_iff
    {created : Backend String JsonObject}
    {start : Nat}
    {lifetime : Int}
    {value result : Properties}
    (creation :
      (SessionService.session.addSession sessionType.text key
          (some lifetime) value).run (fun _ => start) backend =
        (created, .ok result)) :
    (∀ calls,
        Chronological start calls →
          KeepsItsEnd key sessionType ((start / 1000 : Nat) + lifetime)
            created (performAll key sessionType created calls)) ↔
      (value "exp" = none ∨
          value "exp" =
            some (some (.int ((start / 1000 : Nat) + lifetime)))) ∧
        value "iat" ≠ some none := by
  obtain ⟨positive, lookup⟩ := addSession_stored creation
  constructor
  · intro always
    have end_ :
        ((SessionService.stamp start (some lifetime)).spread
            value).stringify "exp" =
          some (.int ((start / 1000 : Nat) + lifetime)) := by
      obtain ⟨first, entry, firstLookup, entryLookup, ends⟩ :=
        always [] trivial
      obtain rfl := Option.some.inj (lookup.symm.trans entryLookup)
      exact ends.storedExp
    refine ⟨stamped_exp_iff.mp end_, ?_⟩
    intro owned
    have noIat := (stamped_iat_iff start lifetime).mpr owned
    obtain ⟨after, afterLookup, stamped⟩ :=
      clearing_stamps_iat start (.octo .signContract) lookup end_ noIat
        (by simp only [Entry.LiveAt, Entry.expiresAt]; omega)
        (by omega)
    obtain ⟨first, entry, firstLookup, entryLookup, ends⟩ :=
      always [⟨.clearFlowSession (.octo .signContract), start, start⟩]
        ⟨Nat.le_refl _, Nat.le_refl _, trivial⟩
    obtain rfl := Option.some.inj (lookup.symm.trans firstLookup)
    obtain rfl := Option.some.inj (afterLookup.symm.trans entryLookup)
    exact stamped (ends.storedIat.trans noIat)
  · rintro ⟨exp, iat⟩ calls -
    obtain ⟨held, stamped⟩ :=
      Option.ne_none_iff_exists'.mp
        (fun noIat => iat ((stamped_iat_iff start lifetime).mp noIat))
    have ends :
        EndsAt ((start / 1000 : Nat) + lifetime) (some held)
          ⟨((SessionService.stamp start (some lifetime)).spread
              value).stringify,
            start, lifetime.toNat * 1000⟩ := by
      refine ⟨stamped_exp_iff.mpr exp, stamped, ?_, ?_⟩
      · simp only [Entry.expiresAt]
        omega
      · simp only [Entry.expiresAt]
        omega
    obtain ⟨after, afterLookup, afterEnds⟩ := ends.performAll calls lookup
    rw [← stamped] at afterEnds
    exact ⟨_, after, lookup, afterLookup, afterEnds⟩

/-! ### Whether a session that can be read can be changed -/

/-- The `exp` that a new session is stored with. -/
def storedExp
    (start : Nat)
    (lifetime : Int)
    (value : Properties) : Option Json :=
  ((SessionService.stamp start (some lifetime)).spread value).stringify
    "exp"

/-- A lifetime is left exactly when the stored `exp` is that much later. -/
theorem secondsLeft_eq_some
    {session : JsonObject}
    {now : Nat}
    {seconds : Int} :
    secondsLeft session now = some seconds ↔
      toNumber? (session "exp") =
        .finite ((seconds + (now / 1000 : Nat) : Int) : Rat) := by
  unfold secondsLeft
  cases stored : toNumber? (session "exp") with
  | notANumber => simp [Numeric.minus, Numeric.toInt?]
  | infinite negative => simp [Numeric.minus, Numeric.toInt?]
  | finite exp =>
      simp only [Numeric.minus, Numeric.toInt?, Option.ite_none_right_eq_some,
        Option.some.injEq, Numeric.finite.injEq]
      constructor
      · rintro ⟨integral, rfl⟩
        have whole := Rat.coe_int_num_of_den_eq_one integral
        rw [Int.cast_add, Int.cast_natCast, whole, sub_add_cancel]
      · rintro rfl
        have difference :
            ((seconds + (now / 1000 : Nat) : Int) : Rat) -
                ((now / 1000 : Nat) : Rat) =
              ((seconds : Int) : Rat) := by
          rw [Int.cast_add, Int.cast_natCast, add_sub_cancel_right]
        rw [difference]
        exact ⟨Rat.den_intCast _, Rat.num_intCast _⟩

/-- Calls leave the stored `exp` as it is. -/
theorem exp_kept
    (calls : List SessionCall)
    {entry : Entry JsonObject}
    (lookup :
      backend.store.lookup
          (SessionService.session.storageKey sessionType.text key) =
        some entry) :
    ∃ after,
      (performAll key sessionType backend calls).store.lookup
          (SessionService.session.storageKey sessionType.text key) =
        some after ∧
        after.value "exp" = entry.value "exp" := by
  induction calls generalizing backend entry with
  | nil => exact ⟨entry, lookup, rfl⟩
  | cons call rest inductionHypothesis =>
      rcases call.perform_cases key sessionType backend with
        ⟨session, value, seconds, returns⟩ | ⟨failure, threw⟩
      · obtain ⟨found, foundLookup, -, rfl⟩ :=
          ExpiringStore.read_eq_some.mp returns.read
        obtain rfl := Option.some.inj (lookup.symm.trans foundLookup)
        obtain ⟨exp, own⟩ := returns.own_exp
        have written :
            (call.perform key sessionType backend).1.store.lookup
                (SessionService.session.storageKey sessionType.text key) =
              some ⟨call.stored value seconds, call.writtenAt,
                seconds.toNat * 1000⟩ := by
          rw [returns.perform]
          exact ExpiringStore.lookup_write_same _ _ _ _ _
        obtain ⟨after, afterLookup, kept⟩ := inductionHypothesis written
        refine ⟨after, afterLookup, kept.trans ?_⟩
        rw [own]
        exact returns.stored_own own (by decide) (by decide)
      · have kept :
            (call.perform key sessionType backend).1.store.lookup
                (SessionService.session.storageKey sessionType.text key) =
              some entry := by
          rw [threw]
          exact lookup
        exact inductionHypothesis kept

/--
At this instant the session has a second or more to be written with, and every
call that computes a new session from it returns.
-/
structure Updatable
    (key : String)
    (sessionType : JwtSession)
    (backend : Backend String JsonObject)
    (session : JsonObject)
    (now : Nat) : Prop where
  positive :
    ∃ seconds, secondsLeft session now = some seconds ∧ 1 ≤ seconds
  returns :
    ∀ (mutator : Mutator) (value : Properties),
      mutator.typed = true →
        mutator.change session = .ok value →
          (perform key sessionType backend ⟨mutator, now, now⟩).2 =
            .ok value

/-- What `getSessionValue` returns is the value of a live entry. -/
theorem getSessionValue_ok
    {service : SessionService}
    {type id : String}
    {now : Nat}
    {session : JsonObject} :
    ((service.getSessionValue type id).run (fun _ => now) backend).2 =
        .ok session ↔
      backend.store.read now (service.storageKey type id) =
        some session := by
  rw [SessionService.getSessionValue_eq]
  simp only [StoreProgram.run]
  cases found :
      backend.store.read now (service.storageKey type id) with
  | none => simp [StoreProgram.run]
  | some held => simp [StoreProgram.run]

/--
A session that can be read can be changed exactly when the second that the
clock is in comes before its `exp`, whatever was called on it before.
-/
theorem updatable_iff
    {created : Backend String JsonObject}
    {start : Nat}
    {lifetime : Int}
    {value result : Properties}
    (creation :
      (SessionService.session.addSession sessionType.text key
          (some lifetime) value).run (fun _ => start) backend =
        (created, .ok result))
    (calls : List SessionCall)
    {now : Nat}
    {session : JsonObject}
    (readable :
      ((SessionService.session.getSessionValue sessionType.text key).run
          (fun _ => now) (performAll key sessionType created calls)).2 =
        .ok session) :
    Updatable key sessionType (performAll key sessionType created calls)
        session now ↔
      ∃ exp : Int,
        toNumber? (storedExp start lifetime value) = .finite exp ∧
          (now / 1000 : Nat) < exp := by
  obtain ⟨-, lookup⟩ := addSession_stored creation
  obtain ⟨after, afterLookup, kept⟩ := exp_kept calls lookup
  have read := getSessionValue_ok.mp readable
  obtain ⟨entry, entryLookup, -, rfl⟩ := ExpiringStore.read_eq_some.mp read
  obtain rfl := Option.some.inj (afterLookup.symm.trans entryLookup)
  have sameExp : after.value "exp" = storedExp start lifetime value := kept
  constructor
  · rintro ⟨⟨seconds, left, positive⟩, -⟩
    refine ⟨seconds + (now / 1000 : Nat), ?_, by omega⟩
    rw [← sameExp]
    exact secondsLeft_eq_some.mp left
  · rintro ⟨exp, stored, later⟩
    have left :
        secondsLeft after.value now = some (exp - (now / 1000 : Nat)) := by
      rw [secondsLeft_eq_some, sameExp, stored]
      simp
    refine ⟨⟨_, left, by omega⟩, ?_⟩
    intro mutator next typed changed
    have returns :
        Returns ⟨mutator, now, now⟩ key sessionType
          (performAll key sessionType created calls) after.value next
          (exp - (now / 1000 : Nat)) :=
      ⟨typed, read, changed, left, by omega⟩
    rw [returns.perform]

/-- A store in which nothing is stored. -/
def emptyBackend : Backend String JsonObject :=
  ⟨∅, []⟩

/-- A session of ten seconds, created from a value half a second past one. -/
def tenSeconds
    (value : Properties) :
    Backend String JsonObject × Except Failure Properties :=
  (SessionService.session.addSession JwtSession.token.text "alice:first"
    (some 10) value).run (fun _ => 1500) emptyBackend

/-- A value without an `exp` or an `iat` of its own. -/
theorem keepsItsEnd_iff_plain :
    (∀ calls,
        Chronological 1500 calls →
          KeepsItsEnd "alice:first" .token ((1500 / 1000 : Nat) + 10)
            (tenSeconds .empty).1
            (performAll "alice:first" .token (tenSeconds .empty).1
              calls)) ↔
      (Properties.empty "exp" = none ∨
          Properties.empty "exp" =
            some (some (.int ((1500 / 1000 : Nat) + 10)))) ∧
        Properties.empty "iat" ≠ some none :=
  keepsItsEnd_iff rfl

/-- A value that brings an `exp` of its own has it stored. -/
theorem own_exp_stored :
    (tenSeconds (Properties.empty.set "exp" (some (.int 99)))).2.isOk =
        true ∧
      ¬ ∀ calls,
          Chronological 1500 calls →
            KeepsItsEnd "alice:first" .token ((1500 / 1000 : Nat) + 10)
              (tenSeconds
                (Properties.empty.set "exp" (some (.int 99)))).1
              (performAll "alice:first" .token
                (tenSeconds
                  (Properties.empty.set "exp" (some (.int 99)))).1
                calls) := by
  refine ⟨rfl, ?_⟩
  intro always
  obtain ⟨first, entry, _, lookup, ends⟩ := always [] trivial
  have created :
      (SessionService.session.addSession JwtSession.token.text
          "alice:first" (some 10)
          (Properties.empty.set "exp" (some (.int 99)))).run
            (fun _ => 1500) emptyBackend =
        ((tenSeconds
            (Properties.empty.set "exp" (some (.int 99)))).1, .ok _) :=
    rfl
  obtain ⟨-, stored⟩ := addSession_stored created
  obtain rfl := Option.some.inj (stored.symm.trans lookup)
  have storedExp :
      ((SessionService.stamp 1500 (some 10)).spread
            (Properties.empty.set "exp" (some (.int 99)))).stringify
          "exp" =
        some (.int ((1500 / 1000 : Nat) + 10)) :=
    ends.storedExp
  rcases stamped_exp_iff.mp storedExp with absent | same
  · cases absent
  · have ninetyNine : (99 : Int) = (1500 / 1000 : Nat) + 10 :=
      Json.int_injective (Option.some.inj (Option.some.inj same))
    exact absurd ninetyNine (by decide)

/-- A session without an `exp` of its own, two seconds before its end. -/
theorem updatable_iff_plain :
    Updatable "alice:first" .token
        (performAll "alice:first" .token (tenSeconds .empty).1 [])
        (SessionService.stamp 1500 (some 10)).stringify 9000 ↔
      ∃ exp : Int,
        toNumber? (storedExp 1500 10 .empty) = .finite exp ∧
          (9000 / 1000 : Nat) < exp :=
  updatable_iff rfl [] (by rfl)

/--
A session of ten seconds, created half a second past one, is still there two
tenths of a second past eleven, and cannot be changed any more.
-/
theorem last_part_of_a_second_refused :
    ((SessionService.session.getSessionValue JwtSession.token.text
          "alice:first").run (fun _ => 11200) (tenSeconds .empty).1).2 =
        .ok (SessionService.stamp 1500 (some 10)).stringify ∧
      secondsLeft (SessionService.stamp 1500 (some 10)).stringify 11200 =
        some 0 ∧
      ¬ Updatable "alice:first" .token (tenSeconds .empty).1
          (SessionService.stamp 1500 (some 10)).stringify 11200 := by
  have noneLeft :
      secondsLeft (SessionService.stamp 1500 (some 10)).stringify 11200 =
        some 0 := by
    have exp :
        (SessionService.stamp 1500 (some 10)).stringify "exp" =
          some (.int 11) :=
      rfl
    rw [secondsLeft_int exp]
    rfl
  refine ⟨rfl, noneLeft, ?_⟩
  rintro ⟨⟨seconds, left, positive⟩, -⟩
  rw [noneLeft] at left
  cases left
  exact absurd positive (by decide)

end SessionCall

end AuthSessionService

end NestBackend
