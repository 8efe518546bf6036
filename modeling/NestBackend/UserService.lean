import NestBackend.ReadThrough

namespace NestBackend

/-!
# Profiles

`UserService.getProfile` reads through a cache of TypeORM that keeps a row for
twenty seconds; `updateProfile` and `removeUser` go around it.
-/

/-- The columns of `User` that a profile shows. -/
structure UserColumns where
  email : String
  password : String
  deriving DecidableEq, Repr

/-- A row of the table, and whether its `deleted_at` is set. -/
structure UserRow where
  columns : UserColumns
  deleted : Bool
  deriving DecidableEq, Repr

/-- The rows by identifier. -/
abbrev UserRows := String → Option UserRow

/-- `UpdateProfileBodyDTO`. -/
structure UpdateProfileBodyDTO where
  password : Option String
  deriving DecidableEq, Repr

/-- `GetProfileResponseDTO`. -/
structure GetProfileResponseDTO where
  id : String
  email : String
  password : String
  deriving DecidableEq, Repr

namespace UserRepository

/-- `sqlFindOne` by identifier; a soft-deleted row is not found. -/
def sqlFindOne (id : String) (rows : UserRows) : Option UserColumns :=
  (rows id).bind fun row => if row.deleted then none else some row.columns

/--
`sqlUpdate` by identifier, and the affected rows.  A column that the body
leaves undefined is not set, and deleted rows are updated too.
-/
def sqlUpdate
    (id : String)
    (body : UpdateProfileBodyDTO)
    (rows : UserRows) : UserRows × Nat :=
  match rows id with
  | none => (rows, 0)
  | some row =>
      (Function.update rows id
        (some
          { row with
            columns :=
              { row.columns with
                password := body.password.getD row.columns.password } }),
        1)

/-- `sqlSoftDelete` by identifier, and the affected rows. -/
def sqlSoftDelete (id : String) (rows : UserRows) : UserRows × Nat :=
  match rows id with
  | none => (rows, 0)
  | some row =>
      (Function.update rows id (some { row with deleted := true }), 1)

end UserRepository

namespace UserService

/-- The table and the query results that are cached. -/
abbrev State :=
  ReadThrough.State String (Option UserColumns) UserRows

/-- `cacheKeyForProfile`. -/
def cacheKeyForProfile (id : String) : String :=
  "profile:" ++ id

/-- `plainToInstance(GetProfileResponseDTO, user)`. -/
def toResponse (id : String) (user : UserColumns) : GetProfileResponseDTO where
  id := id
  email := user.email
  password := user.password

/-- `getProfile`. -/
def getProfile
    (id : String)
    (now : Nat)
    (state : State) : Option GetProfileResponseDTO × State :=
  let found :=
    ReadThrough.read (cacheKeyForProfile id) 20000 now
      (UserRepository.sqlFindOne id) state
  (found.1.map (toResponse id), found.2)

/--
`updateProfile`, with the original name of the file.  It reads that first and
throws when no file was sent, before anything is updated.
-/
def updateProfile
    (id : String)
    (body : UpdateProfileBodyDTO)
    (file : Option String)
    (state : State) : Option Nat × State :=
  match file with
  | none => (none, state)
  | some _ =>
      let updated := UserRepository.sqlUpdate id body state.source
      (some updated.2, { state with source := updated.1 })

/-- `removeUser`. -/
def removeUser (id : String) (state : State) : Nat × State :=
  let deleted := UserRepository.sqlSoftDelete id state.source
  (deleted.2, { state with source := deleted.1 })

/-- A call; reads depend on the clock. -/
inductive Call where
  | getProfile (id : String) (now : Nat)
  | updateProfile
      (id : String)
      (body : UpdateProfileBodyDTO)
      (file : Option String)
  | removeUser (id : String)
  deriving DecidableEq, Repr

/-- Make a call. -/
def perform (state : State) : Call → State
  | .getProfile id now => (getProfile id now state).2
  | .updateProfile id body file => (updateProfile id body file state).2
  | .removeUser id => (removeUser id state).2

/-- Make some calls, one after the other. -/
def performAll (state : State) (calls : List Call) : State :=
  calls.foldl perform state

/-! ## What the writes leave -/

/-- A completed write. -/
inductive Write where
  | update (id : String) (body : UpdateProfileBodyDTO)
  | remove (id : String)
  deriving DecidableEq, Repr

/-- What a completed write does to the table. -/
def Write.apply (rows : UserRows) : Write → UserRows
  | .update id body => (UserRepository.sqlUpdate id body rows).1
  | .remove id => (UserRepository.sqlSoftDelete id rows).1

/-- The write of a call that completes. -/
def Call.write? : Call → Option Write
  | .getProfile _ _ => none
  | .updateProfile id body file => file.map fun _ => .update id body
  | .removeUser id => some (.remove id)

/-- The table as the completed writes of some calls leave it. -/
def rowsAfter (rows : UserRows) (calls : List Call) : UserRows :=
  (calls.filterMap Call.write?).foldl Write.apply rows

/--
Every `getProfile` returns the profile as the completed updates before it left
it, and no user once the user was removed.
-/
def ReadsOwnWrites (rows : UserRows) (calls : List Call) : Prop :=
  ∀ before id now after,
    calls = before ++ .getProfile id now :: after →
      (getProfile id now
            (performAll (ReadThrough.fresh rows) before)).1 =
        (UserRepository.sqlFindOne id (rowsAfter rows before)).map
          (toResponse id)

/-- The password that the last of some writes gives a user. -/
def lastPassword (id : String) : List Write → Option String
  | [] => none
  | .update other body :: rest =>
      (lastPassword id rest).or
        (if other = id then body.password else none)
  | .remove _ :: rest => lastPassword id rest

/--
Some writes leave a profile alone: there is none, or they do not remove the
user and the last password that they give is the one there is.
-/
def LeaveAlone
    (id : String)
    (rows : UserRows)
    (writes : List Write) : Prop :=
  ∀ user,
    UserRepository.sqlFindOne id rows = some user →
      .remove id ∉ writes ∧
        ∀ password, lastPassword id writes = some password →
          password = user.password

/-- What a write makes of the profile of a user. -/
def Write.onProfile (id : String) : Write → UserColumns → Option UserColumns
  | .update other body, user =>
      if other = id then
        some { user with password := body.password.getD user.password }
      else
        some user
  | .remove other, user => if other = id then none else some user

/-- The user that a write is for. -/
def Write.target : Write → String
  | .update id _ => id
  | .remove id => id

/-- A write leaves the row of any other user. -/
theorem Write.apply_other
    {id : String}
    {write : Write}
    (different : id ≠ write.target)
    (rows : UserRows) :
    write.apply rows id = rows id := by
  cases write with
  | update other body =>
      simp only [Write.apply, UserRepository.sqlUpdate]
      split
      · rfl
      · exact Function.update_of_ne different _ _
  | remove other =>
      simp only [Write.apply, UserRepository.sqlSoftDelete]
      split
      · rfl
      · exact Function.update_of_ne different _ _

/-- It makes nothing of the profile of any other user. -/
theorem Write.onProfile_other
    {id : String}
    {write : Write}
    (different : id ≠ write.target) :
    write.onProfile id = some := by
  funext user
  cases write with
  | update other body => exact if_neg (Ne.symm different)
  | remove other => exact if_neg (Ne.symm different)

/-- The profile after one write. -/
theorem sqlFindOne_apply
    (id : String)
    (rows : UserRows)
    (write : Write) :
    UserRepository.sqlFindOne id (write.apply rows) =
      (UserRepository.sqlFindOne id rows).bind (write.onProfile id) := by
  by_cases same : id = write.target
  case neg =>
    rw [Write.onProfile_other same, Option.bind_fun_some]
    simp only [UserRepository.sqlFindOne, Write.apply_other same]
  subst same
  cases write with
  | update id body =>
      simp only [Write.target]
      cases found : rows id with
      | none =>
          simp [UserRepository.sqlFindOne, Write.apply,
            UserRepository.sqlUpdate, found]
      | some row =>
          by_cases deleted : row.deleted = true <;>
            simp [UserRepository.sqlFindOne, Write.apply,
              UserRepository.sqlUpdate, Write.onProfile, found, deleted]
  | remove id =>
      simp only [Write.target]
      cases found : rows id with
      | none =>
          simp [UserRepository.sqlFindOne, Write.apply,
            UserRepository.sqlSoftDelete, found]
      | some row =>
          by_cases deleted : row.deleted = true <;>
            simp [UserRepository.sqlFindOne, Write.apply,
              UserRepository.sqlSoftDelete, Write.onProfile, found,
              deleted]

/-- The profile after some writes. -/
theorem sqlFindOne_foldl
    (id : String)
    (rows : UserRows)
    (writes : List Write) :
    UserRepository.sqlFindOne id (writes.foldl Write.apply rows) =
      (UserRepository.sqlFindOne id rows).bind fun user =>
        if .remove id ∈ writes then
          none
        else
          some
            { user with
              password := (lastPassword id writes).getD user.password } := by
  induction writes generalizing rows with
  | nil => exact (Option.bind_fun_some _).symm
  | cons write rest inductionHypothesis =>
      rw [List.foldl_cons, inductionHypothesis, sqlFindOne_apply,
        Option.bind_assoc]
      congr 1
      funext user
      cases write with
      | update other body =>
          by_cases same : other = id
          · subst same
            cases last : lastPassword other rest <;>
              cases given : body.password <;>
                simp [Write.onProfile, lastPassword, last, given]
          · simp [Write.onProfile, lastPassword, same]
      | remove other =>
          by_cases same : other = id
          · simp [Write.onProfile, same]
          · simp [Write.onProfile, lastPassword, same, Ne.symm same]

/-- Writes keep a profile exactly when they leave it alone. -/
theorem sqlFindOne_foldl_eq_iff
    (id : String)
    (rows : UserRows)
    (writes : List Write) :
    UserRepository.sqlFindOne id (writes.foldl Write.apply rows) =
        UserRepository.sqlFindOne id rows ↔
      LeaveAlone id rows writes := by
  rw [sqlFindOne_foldl]
  unfold LeaveAlone
  cases found : UserRepository.sqlFindOne id rows with
  | none => simp
  | some user =>
      by_cases removed : .remove id ∈ writes
      · simp [removed]
      · cases last : lastPassword id writes with
        | none => simp [removed]
        | some password =>
            cases user
            simp [removed]

/-! ## Reads through the cache -/

/-- Different profiles are cached under different names. -/
theorem cacheKeyForProfile_injective :
    Function.Injective cacheKeyForProfile := by
  intro first second same
  have sameChars := congrArg String.toList same
  unfold cacheKeyForProfile at sameChars
  rw [String.toList_append, String.toList_append] at sameChars
  exact String.toList_injective (List.append_cancel_left sameChars)

/-- Profiles as what is read through the cache, and writes that go around it. -/
def profileSetting :
    ReadThrough.Setting String String (Option UserColumns) UserRows
      Write where
  view := UserRepository.sqlFindOne
  apply := Write.apply
  name := cacheKeyForProfile
  name_injective := cacheKeyForProfile_injective
  lifetime := 20000

/-- What a call is to the cache; one that throws is nothing. -/
def Call.event? : Call → Option (ReadThrough.Event String Write)
  | .getProfile id now => some (.read id now)
  | .updateProfile id body file =>
      file.map fun _ => .change (.update id body)
  | .removeUser id => some (.change (.remove id))

/-- Calls are runs of reads and changes. -/
theorem performAll_eq
    (state : State)
    (calls : List Call) :
    performAll state calls =
      ReadThrough.run profileSetting state
        (calls.filterMap Call.event?) := by
  induction calls generalizing state with
  | nil => rfl
  | cons call rest inductionHypothesis =>
      refine (inductionHypothesis (perform state call)).trans ?_
      cases call with
      | getProfile id now => rfl
      | updateProfile id body file =>
          cases file with
          | none => rfl
          | some name => rfl
      | removeUser id => rfl

/-- The changes among the events are the completed writes. -/
theorem sourceAfter_eq
    (rows : UserRows)
    (calls : List Call) :
    ReadThrough.sourceAfter profileSetting rows
        (calls.filterMap Call.event?) =
      rowsAfter rows calls := by
  have sameWrites :
      ReadThrough.changes (calls.filterMap Call.event?) =
        calls.filterMap Call.write? := by
    induction calls with
    | nil => rfl
    | cons call rest inductionHypothesis =>
        cases call with
        | getProfile id now => exact inductionHypothesis
        | updateProfile id body file =>
            cases file with
            | none => exact inductionHypothesis
            | some name => exact congrArg _ inductionHypothesis
        | removeUser id => exact congrArg _ inductionHypothesis
  unfold ReadThrough.sourceAfter rowsAfter
  rw [sameWrites]
  rfl

/--
The latest `getProfile` of a user that asked the database: when, what the table
was, and the writes completed since.
-/
def lastQuery
    (id : String)
    (rows : UserRows)
    (calls : List Call) : Option (ReadThrough.Fill UserRows Write) :=
  ReadThrough.lastFill profileSetting id rows none
    (calls.filterMap Call.event?)

/--
The writes between a `getProfile` that asked the database and one within twenty
seconds after it leave the profile alone.
-/
def WritesKeepCached (rows : UserRows) (calls : List Call) : Prop :=
  ∀ before id now after,
    calls = before ++ .getProfile id now :: after →
      ∀ query,
        lastQuery id rows before = some query →
          now < query.filledAt + 20000 →
            LeaveAlone id query.atFill query.changes

/-- A response tells the columns it was made from. -/
theorem toResponse_injective
    (id : String) :
    Function.Injective (toResponse id) := by
  intro first second same
  cases first
  cases second
  simpa [toResponse] using same

/--
Profiles are read as they were last written exactly when no write that changes
a profile comes between a query for it and a read from the cache.
-/
theorem readsOwnWrites_iff
    (rows : UserRows)
    (calls : List Call) :
    ReadsOwnWrites rows calls ↔ WritesKeepCached rows calls := by
  have read :
      ∀ before id now,
        (getProfile id now
              (performAll (ReadThrough.fresh rows) before)).1 =
            (UserRepository.sqlFindOne id (rowsAfter rows before)).map
              (toResponse id) ↔
          ∀ query,
            lastQuery id rows before = some query →
              now < query.filledAt + 20000 →
                LeaveAlone id query.atFill query.changes := by
    intro before id now
    have answered :
        (ReadThrough.read (cacheKeyForProfile id) 20000 now
              (UserRepository.sqlFindOne id)
              (ReadThrough.run profileSetting (ReadThrough.fresh rows)
                (before.filterMap Call.event?))).1 =
            UserRepository.sqlFindOne id
              (ReadThrough.sourceAfter profileSetting rows
                (before.filterMap Call.event?)) ↔
          ∀ query,
            lastQuery id rows before = some query →
              now < query.filledAt + 20000 →
                UserRepository.sqlFindOne id
                    (query.changes.foldl Write.apply query.atFill) =
                  UserRepository.sqlFindOne id query.atFill :=
      ReadThrough.read_eq_view_iff rows (before.filterMap Call.event?) id
        now
    rw [sourceAfter_eq, ← performAll_eq] at answered
    simp only [← sqlFindOne_foldl_eq_iff]
    rw [← (Option.map_injective (toResponse_injective id)).eq_iff]
      at answered
    exact answered
  constructor
  · intro reads before id now after split
    exact (read before id now).mp (reads before id now after split)
  · intro kept before id now after split
    exact (read before id now).mpr (kept before id now after split)

/-- A table with one user. -/
def oneUser : UserRows :=
  Function.update (fun _ => none) "alice"
    (some ⟨⟨"alice@example.org", "old"⟩, false⟩)

/-- A profile is read, changed and removed, and read again. -/
def changedBetweenReads : List Call :=
  [.getProfile "alice" 1000,
    .updateProfile "alice" ⟨some "new"⟩ (some "photo.png"),
    .removeUser "alice",
    .getProfile "alice" 2000]

/-- A user that was changed and removed a second ago is still there, as before. -/
theorem removed_user_still_read :
    (getProfile "alice" 2000
          (performAll (ReadThrough.fresh oneUser)
            (changedBetweenReads.take 3))).1 =
        some ⟨"alice", "alice@example.org", "old"⟩ ∧
      ¬ ReadsOwnWrites oneUser changedBetweenReads := by
  have stale :
      (getProfile "alice" 2000
            (performAll (ReadThrough.fresh oneUser)
              (changedBetweenReads.take 3))).1 =
          some ⟨"alice", "alice@example.org", "old"⟩ := by
    decide +kernel
  refine ⟨stale, ?_⟩
  intro reads
  have read := reads (changedBetweenReads.take 3) "alice" 2000 [] rfl
  rw [stale] at read
  revert read
  decide +kernel

end UserService

end NestBackend
