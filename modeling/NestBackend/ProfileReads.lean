import NestBackend.RecentReads
import NestBackend.UserController

namespace NestBackend

open JavaScript

/-!
# How old the profiles are that clients see

Changes of profiles go around the cache, so a profile that is read may be an
old one.  It is never older than twenty seconds, a later request never shows an
older profile than an earlier one did, and a profile that was gone for one
request is gone for all later ones.
-/

namespace Incoming

/-- What a request is to the cache of profiles. -/
def event?
    (incoming : Incoming) :
    Option (ReadThrough.Event String UserService.Write) :=
  (incoming.reads?.map fun read => .read read.1 read.2).or
    (incoming.write?.map .change)

/-- The requests that read a profile. -/
theorem event?_eq_read
    {incoming : Incoming}
    {id : String}
    {now : Nat} :
    incoming.event? = some (.read id now) ↔
      incoming.reads? = some (id, now) := by
  unfold event?
  cases incoming.reads? with
  | none =>
      cases incoming.write? with
      | none => simp
      | some write => simp
  | some read =>
      obtain ⟨other, instant⟩ := read
      simp

end Incoming

namespace UserController

/-- The body of the profile that a table shows. -/
def profileOf (id : String) (rows : UserRows) : Json :=
  ((UserRepository.sqlFindOne id rows).map
    fun user => profileJson (UserService.toResponse id user)).getD .null

/-- A request that reads a profile. -/
theorem handle_reads
    {incoming : Incoming}
    {id : String}
    {now : Nat}
    (reads : incoming.reads? = some (id, now))
    (state : UserService.State) :
    (handle incoming state).1 =
      .ok (some (((UserService.getProfile id now state).1.map
        profileJson).getD .null)) := by
  have outcome := handle_outcome incoming state
  generalize handle incoming state = answer at outcome
  cases outcome with
  | failed fails writesNone thrown badRequest =>
      exact absurd (Incoming.succeeds_of_reads? reads) fails
  | read writesNone other instant otherReads =>
      rw [reads] at otherReads
      obtain ⟨rfl, rfl⟩ := Prod.mk.inj (Option.some.inj otherReads)
      rfl
  | wrote succeeds readsNone write writes data =>
      rw [reads] at readsNone
      cases readsNone

/-- A request does to the cache and the table what its event does. -/
theorem handle_event
    (incoming : Incoming)
    (state : UserService.State) :
    (handle incoming state).2 =
      incoming.event?.elim state
        (ReadThrough.step UserService.profileSetting state) := by
  have outcome := handle_outcome incoming state
  generalize handle incoming state = answer at outcome
  unfold Incoming.event?
  cases outcome with
  | failed fails writesNone thrown badRequest =>
      cases reads : incoming.reads? with
      | none => rw [writesNone]; rfl
      | some read => exact absurd (Incoming.succeeds_of_reads? reads) fails
  | read writesNone id now reads => rw [reads]; rfl
  | wrote succeeds readsNone write writes data =>
      rw [readsNone, writes]
      rfl

/-- Requests are a run of reads and changes. -/
theorem handleAll_events
    (state : UserService.State)
    (requests : List Incoming) :
    handleAll state requests =
      ReadThrough.run UserService.profileSetting state
        (requests.filterMap Incoming.event?) := by
  induction requests generalizing state with
  | nil => rfl
  | cons incoming rest inductionHypothesis =>
      have first := handle_event incoming state
      have all :
          handleAll state (incoming :: rest) =
            handleAll (handle incoming state).2 rest := rfl
      rw [all, inductionHypothesis, first]
      cases event : incoming.event? with
      | none => rw [List.filterMap_cons_none event]; rfl
      | some found => rw [List.filterMap_cons_some event]; rfl

/-- Once a profile is gone, it stays so. -/
theorem profileOf_gone
    {id : String}
    {first second : List Incoming}
    {state : UserService.State}
    (isPrefix : first <+: second)
    (gone : profileOf id (handleAll state first).source = .null) :
    profileOf id (handleAll state second).source = .null := by
  obtain ⟨more, rfl⟩ := isPrefix
  have notFound :
      UserRepository.sqlFindOne id (handleAll state first).source = none := by
    unfold profileOf at gone
    cases found :
        UserRepository.sqlFindOne id (handleAll state first).source with
    | none => rfl
    | some user =>
        rw [found] at gone
        simp [profileJson] at gone
  have after :
      handleAll state (first ++ more) =
        handleAll (handleAll state first) more :=
    List.foldl_append
  rw [after, handleAll_source]
  unfold profileOf
  rw [UserService.sqlFindOne_foldl, notFound]
  rfl

end UserController

/--
Every request that reads a profile shows it as some of the requests before it
left it: all of them, or those before another request that read the same
profile less than twenty seconds ago.  A later request shows no earlier state of
the profile, and none once it was gone.
-/
theorem profiles_recent
    (rows : UserRows) :
    ∃ asOf : String → Nat → List Incoming → List Incoming,
      ∀ before incoming id now,
        incoming.reads? = some (id, now) →
          (UserController.handle incoming
                (UserController.handleAll (ReadThrough.fresh rows)
                  before)).1 =
              .ok (some (UserController.profileOf id
                (UserController.handleAll (ReadThrough.fresh rows)
                  (asOf id now before)).source)) ∧
            (asOf id now before = before ∨
              ∃ asking rest askedAt,
                before = asOf id now before ++ asking :: rest ∧
                  asking.reads? = some (id, askedAt) ∧
                  now < askedAt + 20000) ∧
            ∀ between later,
              asOf id now before <+:
                  asOf id later (before ++ incoming :: between) ∧
                (UserController.profileOf id
                      (UserController.handleAll (ReadThrough.fresh rows)
                        (asOf id now before)).source = .null →
                  UserController.profileOf id
                      (UserController.handleAll (ReadThrough.fresh rows)
                        (asOf id later
                          (before ++ incoming :: between))).source =
                    .null) := by
  refine
    ⟨ReadThrough.asOf UserService.profileSetting Incoming.event?, ?_⟩
  intro before incoming id now reads
  have event := Incoming.event?_eq_read.mpr reads
  refine ⟨?_, ?_, ?_⟩
  · have shown :=
      ReadThrough.read_asOf UserService.profileSetting Incoming.event? rows
        id now before
    have source :
        ∀ requests,
          (UserController.handleAll (ReadThrough.fresh rows)
                requests).source =
            ReadThrough.sourceAfter UserService.profileSetting rows
              (requests.filterMap Incoming.event?) := by
      intro requests
      rw [UserController.handleAll_events]
      exact ReadThrough.run_source (ReadThrough.fresh rows) _
    rw [← source, ← UserController.handleAll_events] at shown
    rw [UserController.handle_reads reads]
    have found :
        (UserService.getProfile id now
              (UserController.handleAll (ReadThrough.fresh rows)
                before)).1 =
          (UserRepository.sqlFindOne id
            (UserController.handleAll (ReadThrough.fresh rows)
              (ReadThrough.asOf UserService.profileSetting Incoming.event?
                id now before)).source).map
            (UserService.toResponse id) :=
      congrArg (Option.map (UserService.toResponse id)) shown
    rw [found, Option.map_map]
    rfl
  · rcases ReadThrough.asOf_recent UserService.profileSetting rows id now
        before with
      all | ⟨asking, rest, askedAt, split, asks, recent⟩
    · exact .inl all
    · exact .inr
        ⟨asking, rest, askedAt, split, Incoming.event?_eq_read.mp asks,
          recent⟩
  · intro between later
    have grows :=
      ReadThrough.asOf_mono UserService.profileSetting rows event before
        between later
    exact ⟨grows, UserController.profileOf_gone grows⟩

end NestBackend
