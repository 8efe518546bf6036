import NestBackend.BaseRedisService
import NestBackend.EventRun
import NestBackend.GlobPattern

namespace NestBackend

/-!
# `flush` of `AbstractRedisService`

`flush` deletes what `keys` emits, batch by batch, while the scan goes on.  The
stream below is one of `SSCAN`: it runs through the members of the set that is
stored under the pattern itself.  Nobody else writes meanwhile; keys expire.
-/

namespace Redis

/-- `UNLINK`. -/
def unlink (keys : List String) (slots : String → Slot) : String → Slot :=
  fun key => if key ∈ keys then none else slots key

/--
A reply that `SSCAN` with `MATCH` may give: it returns members that match, and
the last one only after all of them have been returned.
-/
def maySscan
    (pattern : String)
    (members returned keys : List String)
    (last : Bool) : Prop :=
  (∀ key ∈ keys, key ∈ members ∧ Glob.accepts pattern key = true) ∧
    (last = true →
      ∀ member ∈ members,
        Glob.accepts pattern member = true → member ∈ returned ++ keys)

instance
    (pattern : String)
    (members returned keys : List String)
    (last : Bool) :
    Decidable (maySscan pattern members returned keys last) :=
  inferInstanceAs (Decidable (_ ∧ _))

end Redis

/-- What has become of the stream. -/
inductive ScanStage where
  | scanning
  | ended
  /-- An error that nobody listens to, or a rejected deletion. -/
  | broken
  deriving DecidableEq, Repr

/-- A call of `flush`, with the server. -/
structure Flushing where
  now : Nat
  slots : String → Redis.Slot
  /-- What the scan has returned. -/
  returned : List String
  /-- The batches that `concatMap` has not got through, not the empty ones. -/
  batches : List (List String)
  stage : ScanStage

/-- What can happen next. -/
inductive FlushEvent where
  | passes (milliseconds : Nat)
  | scanned (keys : List String) (last : Bool)
  | unlinked
  | rejected
  deriving DecidableEq, Repr

namespace Flushing

/-- `flush` is called. -/
def start (now : Nat) (slots : String → Redis.Slot) : Flushing where
  now := now
  slots := slots
  returned := []
  batches := []
  stage := .scanning

/-- A reply of the scan: an empty batch is left out. -/
def returns (state : Flushing) (keys : List String) (last : Bool) : Flushing :=
  { state with
    returned := state.returned ++ keys
    batches := state.batches ++ (if keys = [] then [] else [keys])
    stage := if last then .ended else .scanning }

/-- The reply to the `SSCAN` that is under way. -/
def scanned
    (service : RedisService)
    (state : Flushing)
    (keys : List String)
    (last : Bool) : Option Flushing :=
  let subPattern := service.cacheKey "*"
  match state.stage, (Redis.smembers state.now (state.slots subPattern)).2 with
  | .scanning, .error _ => some { state with stage := .broken }
  | .scanning, .ok members =>
      if Redis.maySscan subPattern members state.returned keys last then
        some (state.returns keys last)
      else
        none
  | _, _ => none

/-- What an event makes of the state, if it can happen. -/
def step
    (service : RedisService)
    (state : Flushing) : FlushEvent → Option Flushing
  | .passes milliseconds => some { state with now := state.now + milliseconds }
  | .scanned keys last => state.scanned service keys last
  | .unlinked =>
      match state.stage, state.batches with
      | .broken, _ => none
      | _, [] => none
      | _, keys :: later =>
          some
            { state with
              slots := Redis.unlink keys state.slots
              batches := later }
  | .rejected =>
      match state.stage with
      | .broken => none
      | _ => some { state with stage := .broken }

/-- `flush` has returned true. -/
def Returned (state : Flushing) : Prop :=
  state.stage = .ended ∧ state.batches = []

/--
No key of the namespace is left that was there at first, and every other key is
as it was.
-/
structure Flushed
    (service : RedisService)
    (first state : Flushing) : Prop where
  emptied :
    ∀ key,
      service.Owns key →
        Redis.live first.now (first.slots key) ≠ none →
          Redis.live state.now (state.slots key) = none
  others :
    ∀ key, ¬ service.Owns key → state.slots key = first.slots key

end Flushing

/--
The namespace has no key.  Or the key that is scanned has one that is no set,
and the others are gone when it expires, if it does; or it is the only key, of a
set that it is itself a member of.
-/
def RedisService.Flushable
    (service : RedisService)
    (now : Nat)
    (slots : String → Redis.Slot) : Prop :=
  match Redis.live now (slots (service.cacheKey "*")) with
  | none => ∀ key, service.Owns key → Redis.live now (slots key) = none
  | some ⟨.set members, _⟩ =>
      service.cacheKey "*" ∈ members ∧
        ∀ key,
          service.Owns key →
            Redis.live now (slots key) ≠ none →
              key = service.cacheKey "*"
  | some entry =>
      ∀ instant,
        entry.expiresAt = some instant →
          ∀ key,
            service.Owns key → Redis.live instant (slots key) = none

namespace RedisService

/-- A plain namespace is what the pattern matches. -/
theorem accepts_cacheKey_star
    {service : RedisService}
    (plain : Glob.Plain service.NAMESPACE.toList)
    (key : String) :
    Glob.accepts (service.cacheKey "*") key = true ↔ service.Owns key := by
  have stem : Glob.Plain (service.NAMESPACE ++ ":").toList := by
    rw [String.toList_append]
    exact plain.append (by decide)
  rw [cacheKey, AbstractRedisService.cacheKey, Glob.accepts_plain_star stem]
  constructor
  · rintro ⟨tail, rfl⟩
    exact ⟨tail, rfl⟩
  · rintro ⟨tail, rfl⟩
    exact ⟨tail, rfl⟩

/-- The pattern is itself a key of the namespace. -/
theorem owns_cacheKey (service : RedisService) (key : String) :
    service.Owns (service.cacheKey key) :=
  ⟨key, rfl⟩

end RedisService

namespace Flushing

variable
  {service : RedisService}
  {now : Nat}
  {slots : String → Redis.Slot}
  {state next : Flushing}

/-! ## What every run keeps -/

/-- The set that is scanned, if there is one. -/
def Scanned
    (service : RedisService)
    (state : Flushing)
    (members : List String) : Prop :=
  ∃ expiresAt,
    Redis.live state.now (state.slots (service.cacheKey "*")) =
      some ⟨.set members, expiresAt⟩

/--
Only keys of the namespace are waited for or gone, and only if there was a set
at first; what the scan has returned is waited for or gone; and when it has
ended, the set is gone or all of it has been returned.
-/
structure Going
    (service : RedisService)
    (first state : Flushing) : Prop where
  later : first.now ≤ state.now
  slots :
    ∀ key,
      state.slots key = first.slots key ∨
        service.Owns key ∧ state.slots key = none
  owned : ∀ keys ∈ state.batches, ∀ key ∈ keys, service.Owns key
  returned :
    ∀ key ∈ state.returned,
      key ∈ state.batches.flatten ∨ state.slots key = none
  untouched :
    (∀ members, ¬ Scanned service first members) →
      state.batches = [] ∧ state.slots = first.slots
  complete :
    state.stage = .ended →
      ∀ entry,
        Redis.live state.now (state.slots (service.cacheKey "*")) =
            some entry →
          ∃ members,
            entry.value = .set members ∧
              ∀ member ∈ members,
                service.Owns member → member ∈ state.returned

/-- It holds at first. -/
theorem going_start :
    Going service (start now slots) (start now slots) where
  later := Nat.le_refl _
  slots := fun _ => .inl rfl
  owned := by simp [start]
  returned := by simp [start]
  untouched := fun _ => ⟨rfl, rfl⟩
  complete := nofun

/-- A set that is scanned was there at first. -/
theorem Going.scanned_first
    {first : Flushing}
    {members : List String}
    (going : Going service first state)
    (scans : Scanned service state members) :
    Scanned service first members := by
  obtain ⟨expiresAt, found⟩ := scans
  rcases going.slots (service.cacheKey "*") with same | ⟨-, gone⟩
  · rw [same] at found
    exact ⟨expiresAt, Redis.live_earlier going.later found⟩
  · rw [gone] at found
    cases found

/-- Time goes by. -/
theorem Going.passes
    {first : Flushing}
    (going : Going service first state)
    (milliseconds : Nat) :
    Going service first
      { state with now := state.now + milliseconds } where
  later := Nat.le_add_right_of_le going.later
  slots := going.slots
  owned := going.owned
  returned := going.returned
  untouched := going.untouched
  complete := by
    intro ended entry found
    exact
      going.complete ended entry
        (Redis.live_earlier (Nat.le_add_right _ _) found)

/-- Something fails. -/
theorem Going.breaks
    {first : Flushing}
    (going : Going service first state) :
    Going service first { state with stage := .broken } where
  later := going.later
  slots := going.slots
  owned := going.owned
  returned := going.returned
  untouched := going.untouched
  complete := nofun

/-- The scan returns some members of the set that is there. -/
theorem Going.returns
    {first : Flushing}
    {keys members : List String}
    {last : Bool}
    (plain : Glob.Plain service.NAMESPACE.toList)
    (going : Going service first state)
    (found :
      (Redis.smembers state.now (state.slots (service.cacheKey "*"))).2 =
        .ok members)
    (may :
      Redis.maySscan (service.cacheKey "*") members state.returned keys
        last) :
    Going service first (state.returns keys last) := by
  have matching : ∀ key ∈ keys, key ∈ members ∧ service.Owns key := by
    intro key member
    obtain ⟨isMember, accepted⟩ := may.1 key member
    exact ⟨isMember, (RedisService.accepts_cacheKey_star plain key).mp accepted⟩
  have flat :
      (state.returns keys last).batches.flatten =
        state.batches.flatten ++ keys := by
    unfold Flushing.returns
    split_ifs with empty <;> simp [empty]
  refine ⟨going.later, going.slots, ?_, ?_, ?_, ?_⟩
  · intro batch member key inBatch
    have inFlat := List.mem_flatten_of_mem member inBatch
    rw [flat] at inFlat
    rcases List.mem_append.mp inFlat with before | isNew
    · obtain ⟨other, otherMember, inOther⟩ := List.mem_flatten.mp before
      exact going.owned other otherMember key inOther
    · exact (matching key isNew).2
  · intro key member
    rw [flat]
    rcases List.mem_append.mp member with before | isNew
    · rcases going.returned key before with waits | gone
      · exact .inl (List.mem_append_left _ waits)
      · exact .inr gone
    · exact .inl (List.mem_append_right _ isNew)
  · intro noSet
    obtain ⟨noBatch, same⟩ := going.untouched noSet
    have noKeys : keys = [] := by
      rcases Redis.smembers_ok found with ⟨-, rfl⟩ | scans
      · exact
          List.eq_nil_iff_forall_not_mem.mpr fun key member =>
            List.not_mem_nil (matching key member).1
      · exact absurd (going.scanned_first scans) (noSet members)
    exact ⟨by simp [Flushing.returns, noBatch, noKeys], same⟩
  · intro ended entry live
    have isLast : last = true := by
      by_contra notLast
      simp [Flushing.returns, notLast] at ended
    rcases Redis.smembers_ok found with ⟨gone, -⟩ | ⟨expiresAt, present⟩
    · cases gone.symm.trans live
    · obtain rfl := Option.some.inj (present.symm.trans live)
      refine ⟨members, rfl, ?_⟩
      intro member isMember owns
      exact
        may.2 isLast member isMember
          ((RedisService.accepts_cacheKey_star plain member).mpr owns)

/-- The reply to a scan comes in. -/
theorem Going.scanned
    {first : Flushing}
    {keys : List String}
    {last : Bool}
    (plain : Glob.Plain service.NAMESPACE.toList)
    (going : Going service first state)
    (scanned : state.scanned service keys last = some next) :
    Going service first next := by
  simp only [Flushing.scanned] at scanned
  split at scanned
  next => exact Option.some.inj scanned ▸ going.breaks
  next found =>
    split at scanned
    next may => exact Option.some.inj scanned ▸ going.returns plain found may
    next => cases scanned
  next => cases scanned

/-- A batch is deleted. -/
theorem Going.unlinked
    {first : Flushing}
    {keys : List String}
    {batches : List (List String)}
    (going : Going service first state)
    (waits : state.batches = keys :: batches) :
    Going service first
      { state with
        slots := Redis.unlink keys state.slots
        batches := batches } where
  later := going.later
  slots := by
    intro key
    by_cases unlinks : key ∈ keys
    · refine .inr ⟨?_, if_pos unlinks⟩
      exact
        going.owned keys (waits ▸ List.mem_cons_self) key unlinks
    · simpa [Redis.unlink, unlinks] using going.slots key
  owned := by
    intro batch member
    exact going.owned batch (waits ▸ List.mem_cons_of_mem _ member)
  returned := by
    intro key member
    by_cases unlinks : key ∈ keys
    · exact .inr (if_pos unlinks)
    · have before := going.returned key member
      rw [waits, List.flatten_cons, List.mem_append] at before
      simpa [Redis.unlink, unlinks] using before
  untouched := by
    intro noSet
    have noBatch := (going.untouched noSet).1
    rw [waits] at noBatch
    cases noBatch
  complete := by
    intro ended entry found
    by_cases unlinks : service.cacheKey "*" ∈ keys
    · simp [Redis.unlink, unlinks] at found
    · exact
        going.complete ended entry
          (by simpa [Redis.unlink, unlinks] using found)

/-- Every event keeps it. -/
theorem Going.step
    {first : Flushing}
    {event : FlushEvent}
    (plain : Glob.Plain service.NAMESPACE.toList)
    (going : Going service first state)
    (stepped : state.step service event = some next) :
    Going service first next := by
  cases event with
  | passes milliseconds =>
      exact Option.some.inj stepped ▸ going.passes milliseconds
  | scanned keys last => exact going.scanned plain stepped
  | unlinked =>
      simp only [Flushing.step] at stepped
      split at stepped
      next => cases stepped
      next => cases stepped
      next waits _ =>
        obtain rfl := Option.some.inj stepped
        exact going.unlinked waits
  | rejected =>
      simp only [Flushing.step] at stepped
      split at stepped
      next => cases stepped
      next => exact Option.some.inj stepped ▸ going.breaks

/-- A run keeps it. -/
theorem going_run
    {events : List FlushEvent}
    (plain : Glob.Plain service.NAMESPACE.toList)
    (ran :
      EventRun.run? (step service) (start now slots) events = some state) :
    Going service (start now slots) state :=
  EventRun.keeps (fun _ going stepped => going.step plain stepped) ran
    going_start

/-! ## Runs that leave keys behind -/

/-- Some run returns true and leaves a key of the namespace behind. -/
def LeavesKeys
    (service : RedisService)
    (now : Nat)
    (slots : String → Redis.Slot) : Prop :=
  ∃ events state,
    EventRun.run? (step service) (start now slots) events = some state ∧
      state.Returned ∧ ¬ Flushed service (start now slots) state

/-- A scan that finds nothing returns at once, with the keys that are there. -/
theorem not_flushed_of_absent
    {later : Nat}
    {key : String}
    (absent :
      Redis.live later (slots (service.cacheKey "*")) = none)
    (after : now ≤ later)
    (owns : service.Owns key)
    (there : Redis.live later (slots key) ≠ none) :
    LeavesKeys service now slots := by
  have nothing := Redis.smembers_of_absent absent
  refine
    ⟨[.passes (later - now), .scanned [] true],
      ({ start now slots with now := later }).returns [] true, ?_,
      ⟨rfl, rfl⟩, ?_⟩
  · have clock : now + (later - now) = later := by omega
    simp [EventRun.run?, step, start, clock, scanned, nothing,
      Redis.maySscan]
  · intro flushed
    obtain ⟨entry, found⟩ := Option.ne_none_iff_exists'.mp there
    have wasThere : Redis.live now (slots key) ≠ none := by
      simp [Redis.live_earlier after found]
    exact there (flushed.emptied key owns wasThere)

/-- A set that is no member of itself is never deleted. -/
theorem not_flushed_of_notMem
    {members : List String}
    {expiresAt : Option Nat}
    (found :
      Redis.live now (slots (service.cacheKey "*")) =
        some ⟨.set members, expiresAt⟩)
    (outside : service.cacheKey "*" ∉ members) :
    LeavesKeys service now slots := by
  let keys := members.filter (Glob.accepts (service.cacheKey "*"))
  have present := Redis.smembers_of_live found
  have may : Redis.maySscan (service.cacheKey "*") members [] keys true := by
    constructor
    · intro key member
      exact List.mem_filter.mp member
    · intro _ key member accepted
      exact List.mem_filter.mpr ⟨member, accepted⟩
  have scans :
      step service (start now slots) (.scanned keys true) =
        some ((start now slots).returns keys true) := by
    simp only [step, scanned, start, present]
    exact if_pos may
  have owns := service.owns_cacheKey "*"
  have wasThere :
      Redis.live now (slots (service.cacheKey "*")) ≠ none := by
    simp [found]
  by_cases empty : keys = []
  · refine
      ⟨[.scanned keys true], (start now slots).returns keys true, ?_,
        ⟨rfl, ?_⟩, ?_⟩
    · exact EventRun.run?_cons.mpr ⟨_, scans, rfl⟩
    · simp [returns, start, empty]
    · intro flushed
      exact wasThere (flushed.emptied _ owns wasThere)
  · have waits :
        ((start now slots).returns keys true).batches = [keys] := by
      simp [returns, start, empty]
    refine
      ⟨[.scanned keys true, .unlinked],
        { (start now slots).returns keys true with
          slots := Redis.unlink keys slots
          batches := [] },
        ?_, ⟨rfl, rfl⟩, ?_⟩
    · refine EventRun.run?_cons.mpr ⟨_, scans, ?_⟩
      refine EventRun.run?_cons.mpr ⟨_, ?_, rfl⟩
      simp only [step, waits]
      rfl
    · intro flushed
      have gone := flushed.emptied _ owns wasThere
      have kept : service.cacheKey "*" ∉ keys := fun member =>
        outside (List.mem_filter.mp member).1
      simp only [returns, start, Redis.unlink, if_neg kept] at gone
      exact wasThere gone

/-- A set that is deleted first is not scanned any further. -/
theorem not_flushed_of_mem
    {members : List String}
    {expiresAt : Option Nat}
    {key : String}
    (plain : Glob.Plain service.NAMESPACE.toList)
    (found :
      Redis.live now (slots (service.cacheKey "*")) =
        some ⟨.set members, expiresAt⟩)
    (inside : service.cacheKey "*" ∈ members)
    (owns : service.Owns key)
    (there : Redis.live now (slots key) ≠ none)
    (other : key ≠ service.cacheKey "*") :
    LeavesKeys service now slots := by
  let keys := [service.cacheKey "*"]
  have present := Redis.smembers_of_live found
  have may :
      Redis.maySscan (service.cacheKey "*") members [] keys false := by
    refine ⟨?_, fun ended => by cases ended⟩
    intro member isKey
    obtain rfl := List.mem_singleton.mp isKey
    exact
      ⟨inside,
        (RedisService.accepts_cacheKey_star plain _).mpr
          (service.owns_cacheKey "*")⟩
  let deleted : Flushing :=
    { (start now slots).returns keys false with
      slots := Redis.unlink keys slots
      batches := [] }
  have absent :
      Redis.live deleted.now (deleted.slots (service.cacheKey "*")) =
        none := by
    simp [deleted, keys, Redis.unlink]
  have nothing := Redis.smembers_of_absent absent
  refine
    ⟨[.scanned keys false, .unlinked, .scanned [] true],
      deleted.returns [] true, ?_, ⟨rfl, rfl⟩, ?_⟩
  · refine EventRun.run?_cons.mpr ⟨(start now slots).returns keys false, ?_, ?_⟩
    · simp only [step, scanned, start, present]
      exact if_pos may
    refine EventRun.run?_cons.mpr ⟨deleted, rfl, ?_⟩
    refine EventRun.run?_cons.mpr ⟨deleted.returns [] true, ?_, rfl⟩
    have scanning : deleted.stage = .scanning := rfl
    simp [step, scanned, scanning, nothing, Redis.maySscan]
  · intro flushed
    have gone := flushed.emptied key owns there
    have kept : key ∉ keys := by simpa [keys] using other
    simp only [deleted, returns, start, Redis.unlink, if_neg kept] at gone
    exact there gone

/-! ## When the namespace is emptied -/

/-- Keys outside of the namespace are left alone. -/
theorem Going.others
    {first : Flushing}
    (going : Going service first state)
    (key : String)
    (foreign : ¬ service.Owns key) :
    state.slots key = first.slots key := by
  rcases going.slots key with same | ⟨owns, -⟩
  · exact same
  · exact absurd owns foreign

/-- A key that was gone at some instant before is gone. -/
theorem Going.gone
    {first : Flushing}
    {key : String}
    {instant : Nat}
    (going : Going service first state)
    (before : instant ≤ state.now)
    (gone : Redis.live instant (first.slots key) = none) :
    Redis.live state.now (state.slots key) = none := by
  rcases going.slots key with same | ⟨-, deleted⟩
  · rw [same]
    exact Redis.live_later before gone
  · rw [deleted]
    rfl

/-- A set that contains itself has been deleted, or has expired. -/
theorem Going.deleted
    {first : Flushing}
    {members : List String}
    {expiresAt : Option Nat}
    (going : Going service first state)
    (returned : state.Returned)
    (found :
      Redis.live first.now (first.slots (service.cacheKey "*")) =
        some ⟨.set members, expiresAt⟩)
    (inside : service.cacheKey "*" ∈ members) :
    Redis.live state.now (state.slots (service.cacheKey "*")) = none := by
  by_contra there
  obtain ⟨entry, present⟩ := Option.ne_none_iff_exists'.mp there
  obtain ⟨scanned, isSet, complete⟩ :=
    going.complete returned.1 entry present
  rcases going.slots (service.cacheKey "*") with same | ⟨-, deleted⟩
  · rw [same] at present
    have first := Redis.live_earlier going.later present
    obtain rfl := Option.some.inj (found.symm.trans first)
    obtain rfl := RedisValue.set.inj isSet
    have wasReturned := complete _ inside (service.owns_cacheKey "*")
    rcases going.returned _ wasReturned with waits | deleted
    · rw [returned.2] at waits
      cases waits
    · exact there (by rw [deleted]; rfl)
  · exact there (by rw [deleted]; rfl)

/-- Where there is no set, the scan ends only after the key has expired. -/
theorem Going.expired
    {first : Flushing}
    (going : Going service first state)
    (returned : state.Returned)
    (noSet : ∀ members, ¬ Scanned service first members) :
    Redis.live state.now (state.slots (service.cacheKey "*")) = none := by
  by_contra there
  obtain ⟨⟨value, expiresAt⟩, present⟩ :=
    Option.ne_none_iff_exists'.mp there
  obtain ⟨members, rfl, -⟩ := going.complete returned.1 _ present
  exact
    noSet members (going.scanned_first ⟨expiresAt, present⟩)

/--
Over every split of the scan, `flush` empties its namespace and leaves all other
keys alone, exactly if the namespace is empty, or has only a set that contains
itself, or something else than a set in its place.
-/
theorem flushed_iff
    (service : RedisService)
    (plain : Glob.Plain service.NAMESPACE.toList)
    (now : Nat)
    (slots : String → Redis.Slot) :
    (∀ events state,
      EventRun.run? (step service) (start now slots) events = some state →
        state.Returned → Flushed service (start now slots) state) ↔
      service.Flushable now slots := by
  constructor
  · intro always
    have noRun : ¬ LeavesKeys service now slots := by
      rintro ⟨events, state, ran, returned, notFlushed⟩
      exact notFlushed (always events state ran returned)
    unfold RedisService.Flushable
    split
    next absent =>
      intro key owns
      by_contra there
      exact noRun (not_flushed_of_absent absent (Nat.le_refl _) owns there)
    next members expiresAt found =>
      have inside : service.cacheKey "*" ∈ members := by
        by_contra outside
        exact noRun (not_flushed_of_notMem found outside)
      refine ⟨inside, ?_⟩
      intro key owns there
      by_contra other
      exact noRun (not_flushed_of_mem plain found inside owns there other)
    next entry noSet found =>
      intro instant expires key owns
      by_contra there
      obtain ⟨after, lapsed⟩ := Redis.live_expiresAt found expires
      exact noRun (not_flushed_of_absent lapsed after.le owns there)
  · intro flushable events state ran returned
    have going := going_run plain ran
    refine ⟨?_, going.others⟩
    intro key owns there
    unfold RedisService.Flushable at flushable
    split at flushable
    next => exact absurd (flushable key owns) there
    next members expiresAt found =>
      obtain rfl := flushable.2 key owns there
      exact going.deleted returned found flushable.1
    next entry noSet found =>
      have isNoSet :
          ∀ members, ¬ Scanned service (start now slots) members := by
        rintro members ⟨expiresAt, isSet⟩
        exact
          noSet members expiresAt (Option.some.inj (found.symm.trans isSet))
      have gone := going.expired returned isNoSet
      rw [(going.untouched isNoSet).2] at gone
      obtain ⟨instant, expires, before⟩ := Redis.expired_of_live found gone
      exact going.gone before (flushable instant expires key owns)

/-- The keyspace of a service that has stored one value. -/
def storedOnly (key : String) : String → Redis.Slot :=
  fun other => if other = key then some ⟨.string "1", none⟩ else none

/-- A namespace with one value that is never found. -/
theorem flushed_iff_stored :
    (∀ events state,
      EventRun.run? (step ⟨"CACHE"⟩) (start 0 (storedOnly "CACHE:a"))
          events =
        some state →
          state.Returned →
            Flushed ⟨"CACHE"⟩ (start 0 (storedOnly "CACHE:a")) state) ↔
      RedisService.Flushable ⟨"CACHE"⟩ 0 (storedOnly "CACHE:a") :=
  flushed_iff ⟨"CACHE"⟩ (by decide) 0 (storedOnly "CACHE:a")

/-- The value is still there when `flush` has returned true. -/
theorem stored_value_not_flushed :
    ¬ ∀ events state,
        EventRun.run? (step ⟨"CACHE"⟩) (start 0 (storedOnly "CACHE:a"))
            events =
          some state →
            state.Returned →
              Flushed ⟨"CACHE"⟩ (start 0 (storedOnly "CACHE:a")) state := by
  intro always
  have flushed := always [.scanned [] true] _ rfl ⟨rfl, rfl⟩
  have gone := flushed.emptied "CACHE:a" ⟨"a", rfl⟩ (by decide)
  revert gone
  decide

end Flushing

end NestBackend
