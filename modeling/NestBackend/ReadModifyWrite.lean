import NestBackend.ProgramPool

namespace NestBackend

/-!
# Two calls that read an entry and write it back

A call that reads one entry, computes a new value from it and writes that back
leaves two commands for a scheduler to place.  Two such calls on one key end in
one of two ways, told apart by the first commands of the schedule: either one
of them is through before the other reads, or both have read the same value and
whoever writes last decides alone.
-/

section Schedules

variable {Operation : Type}

/-- The threads in the order in which a schedule advances them. -/
def turns (actions : List (Action Operation)) : List Nat :=
  actions.filterMap fun action =>
    match action with
    | .advance index => some index
    | _ => none

end Schedules

/--
The program reads `key` with its first command.  It fails there or holds the
value, and then fails or writes back what `written` computes at that instant.
-/
structure StoreProgram.ReadsThenWrites
    {Key Value Failure Result : Type}
    [DecidableEq Key]
    (key : Key)
    (written : Nat → Value → Value)
    (program : StoreProgram Key Value Failure Result)
    (holding : Value → StoreProgram Key Value Failure Result) : Prop where
  notDone : ∀ result, program ≠ .done (.ok result)
  holdingNotDone : ∀ value result, holding value ≠ .done (.ok result)
  reads :
    ∀ now (backend : Backend Key Value),
      (∃ failure,
        program.step now backend = (backend, .done (.error failure))) ∨
      ∃ value,
        backend.store.read now key = some value ∧
          program.step now backend = (backend, holding value)
  writes :
    ∀ now (backend : Backend Key Value) value,
      (∃ failure,
        (holding value).step now backend =
          (backend, .done (.error failure))) ∨
      ∃ lifetime result,
        (holding value).step now backend =
          ({ backend with
              store :=
                backend.store.write now key lifetime (written now value) },
            .done (.ok result))

/--
What two calls can leave of the value that was there, by the turns they took.
-/
inductive Interleaved
    {Value : Type}
    (written : Nat → Nat → Value → Value)
    (start : Value) : List Nat → Value → Prop where
  | serial
      {first second : Nat}
      (different : first ≠ second)
      {early late : Nat}
      (order : early ≤ late)
      (rest : List Nat) :
      Interleaved written start (first :: first :: rest)
        (written second late (written first early start))
  | overlapped
      {first second earlier later : Nat}
      (different : first ≠ second)
      (writers :
        earlier = first ∧ later = second ∨
          earlier = second ∧ later = first)
      (instant : Nat)
      (rest : List Nat) :
      Interleaved written start (first :: second :: earlier :: rest)
        (written later instant start)

namespace World

variable
  {Operation Key Value Failure Result : Type}
  [DecidableEq Key]
  {behaviour : Operation → StoreProgram Key Value Failure Result}
  {world next final : World Operation Key Value Failure Result}
  {first second : Nat}
  {mine theirs : StoreProgram Key Value Failure Result}

/-- The two threads of a world, by position, with what is left of them. -/
structure Pair
    (world : World Operation Key Value Failure Result)
    (first second : Nat)
    (mine theirs : StoreProgram Key Value Failure Result) : Prop where
  different : first ≠ second
  mine :
    ∃ thread, world.threads[first]? = some thread ∧ thread.program = mine
  theirs :
    ∃ thread,
      world.threads[second]? = some thread ∧ thread.program = theirs
  only :
    ∀ index thread,
      world.threads[index]? = some thread →
        index = first ∨ index = second

namespace Pair

omit [DecidableEq Key] in
/-- The two threads in the other order. -/
theorem symm
    (pair : world.Pair first second mine theirs) :
    world.Pair second first theirs mine :=
  ⟨Ne.symm pair.different, pair.theirs, pair.mine,
    fun index thread found => (pair.only index thread found).symm⟩

omit [DecidableEq Key] in
/-- Other parts of the world do not matter. -/
theorem congr
    (pair : world.Pair first second mine theirs)
    (same : next.threads = world.threads) :
    next.Pair first second mine theirs := by
  refine ⟨pair.different, ?_, ?_, ?_⟩
  · rw [same]
    exact pair.mine
  · rw [same]
    exact pair.theirs
  · rw [same]
    exact pair.only

/-- Advancing the first thread. -/
theorem advance
    (pair : world.Pair first second mine theirs)
    {thread : Thread Operation Key Value Failure Result}
    (found : world.threads[first]? = some thread)
    (backend : Backend Key Value) :
    thread.program = mine ∧
      World.Pair
        { world with
          backend := backend
          threads :=
            world.threads.set first
              (thread.advance world.now world.backend) }
        first second (mine.step world.now world.backend).2 theirs := by
  obtain ⟨firstThread, firstFound, firstProgram⟩ := pair.mine
  have sameThread : thread = firstThread :=
    Option.some.inj (found.symm.trans firstFound)
  subst sameThread
  refine ⟨firstProgram, pair.different, ?_, ?_, ?_⟩
  · refine ⟨thread.advance world.now world.backend, ?_, ?_⟩
    · have bound := (List.getElem?_eq_some_iff.mp found).choose
      exact List.getElem?_set_self bound
    · rw [Thread.advance_program, firstProgram]
  · obtain ⟨otherThread, otherFound, otherProgram⟩ := pair.theirs
    refine ⟨otherThread, ?_, otherProgram⟩
    exact (List.getElem?_set_ne pair.different).trans otherFound
  · intro index other otherFound
    by_cases same : index = first
    · exact Or.inl same
    · refine pair.only index other ?_
      exact (List.getElem?_set_ne (Ne.symm same)).symm.trans otherFound

/-- What one action can do to a pair. -/
theorem step
    (pair : world.Pair first second mine theirs)
    {action : Action Operation}
    (notInvoke : ∀ operation, action ≠ .invoke operation)
    (stepCase : StepCase behaviour world action next) :
    (turns [action] = [] ∧ next.threads = world.threads ∧
        (world.backend.chains = [] → next.backend = world.backend)) ∨
      (action = .advance first ∧
        next.backend = (mine.step world.now world.backend).1 ∧
        next.Pair first second (mine.step world.now world.backend).2
          theirs) ∨
      (action = .advance second ∧
        next.backend = (theirs.step world.now world.backend).1 ∧
        next.Pair first second mine
          (theirs.step world.now world.backend).2) := by
  cases stepCase with
  | invoke operation => exact (notInvoke operation rfl).elim
  | tick milliseconds => exact Or.inl ⟨rfl, rfl, fun _ => rfl⟩
  | drain found =>
      refine Or.inl ⟨rfl, rfl, ?_⟩
      intro idle
      rw [idle] at found
      cases found
  | @advance index thread found =>
      right
      rcases pair.only index thread found with rfl | rfl
      · left
        obtain ⟨program, advanced⟩ := pair.advance found _
        rw [program]
        exact ⟨rfl, rfl, advanced⟩
      · right
        obtain ⟨program, advanced⟩ := pair.symm.advance found _
        rw [program]
        exact ⟨rfl, rfl, advanced.symm⟩

end Pair

/-- Every call has succeeded. -/
def Succeeded (world : World Operation Key Value Failure Result) : Prop :=
  ∀ thread ∈ world.threads, ∃ result, thread.program = .done (.ok result)

/-- The last write under the key was of this value. -/
def Holds
    (world : World Operation Key Value Failure Result)
    (key : Key)
    (value : Value) : Prop :=
  ∃ entry,
    world.backend.store.lookup key = some entry ∧ entry.value = value

/-- The value that was written last is the one that is read. -/
theorem Holds.read
    {key : Key}
    {value found : Value}
    (holds : world.Holds key value)
    {now : Nat}
    (read : world.backend.store.read now key = some found) :
    found = value := by
  obtain ⟨entry, lookup, rfl⟩ := holds
  obtain ⟨other, otherLookup, -, rfl⟩ := ExpiringStore.read_eq_some.mp read
  rw [lookup] at otherLookup
  rw [Option.some.inj otherLookup]

namespace Pair

/-! ## From the last command back to the first -/

/--
A schedule comes to an instant at which `program` takes its next step, on the
backend of `world`, and goes on with `rest`; `later` says what the world is
like then.
-/
def Takes
    (behaviour : Operation → StoreProgram Key Value Failure Result)
    (world final : World Operation Key Value Failure Result)
    (program : StoreProgram Key Value Failure Result)
    (later :
      StoreProgram Key Value Failure Result →
        World Operation Key Value Failure Result → Prop)
    (rest : List (Action Operation)) : Prop :=
  ∃ now next,
    world.now ≤ now ∧ now ≤ next.now ∧
      next.backend = (program.step now world.backend).1 ∧
      later (program.step now world.backend).2 next ∧
      NoInvoke rest ∧ next.run? behaviour rest = some final

/-- Time may have passed before. -/
theorem Takes.earlier
    {earlier : World Operation Key Value Failure Result}
    {program : StoreProgram Key Value Failure Result}
    {later :
      StoreProgram Key Value Failure Result →
        World Operation Key Value Failure Result → Prop}
    {rest : List (Action Operation)}
    (takes : Takes behaviour world final program later rest)
    (order : earlier.now ≤ world.now)
    (same : world.backend = earlier.backend) :
    Takes behaviour earlier final program later rest := by
  obtain ⟨now, next, after, onwards, backend, holds, noInvoke, ran⟩ :=
    takes
  rw [same] at backend holds
  exact ⟨now, next, Nat.le_trans order after, onwards, backend, holds,
    noInvoke, ran⟩

/-- The other thread takes a turn in the same pair. -/
theorem Takes.symm
    {program : StoreProgram Key Value Failure Result}
    {rest : List (Action Operation)}
    (takes :
      Takes behaviour world final program
        (fun program next => next.Pair first second mine program) rest) :
    Takes behaviour world final program
      (fun program next => next.Pair second first program mine) rest := by
  obtain ⟨now, next, order, onwards, backend, later, continues⟩ := takes
  exact ⟨now, next, order, onwards, backend, later.symm, continues⟩

variable {actions : List (Action Operation)}

/-- The first turn of a schedule, if it has one. -/
theorem first_turn
    (pair : world.Pair first second mine theirs)
    (idle : world.backend.chains = [])
    (noInvoke : NoInvoke actions)
    (ran : world.run? behaviour actions = some final) :
    final.Pair first second mine theirs ∨
      ∃ rest,
        turns actions = first :: turns rest ∧
            Takes behaviour world final mine
              (fun program next => next.Pair first second program theirs)
              rest ∨
          turns actions = second :: turns rest ∧
            Takes behaviour world final theirs
              (fun program next => next.Pair first second mine program)
              rest := by
  induction actions generalizing world with
  | nil =>
      cases ran
      exact Or.inl pair
  | cons action rest inductionHypothesis =>
      obtain ⟨next, stepped, ranRest⟩ := run?_cons.mp ran
      have notInvoke := noInvoke.notInvoke (List.mem_cons_self ..)
      have order := (step_cases stepped).now_le
      rcases pair.step notInvoke (step_cases stepped) with
        ⟨quiet, sameThreads, sameBackend⟩ | ⟨rfl, backend, later⟩ |
          ⟨rfl, backend, later⟩
      · have unchanged := sameBackend idle
        have turnsRest : turns (action :: rest) = turns rest := by
          have split : turns (action :: rest) = turns [action] ++ turns rest :=
            List.filterMap_append (l := [action])
          rw [split, quiet, List.nil_append]
        rw [turnsRest]
        rw [← unchanged] at idle
        rcases inductionHypothesis (pair.congr sameThreads) idle
          noInvoke.tail ranRest with
          ended | ⟨later, ⟨turn, takes⟩ | ⟨turn, takes⟩⟩
        · exact Or.inl ended
        · exact Or.inr ⟨later,
            Or.inl ⟨turn, takes.earlier order unchanged⟩⟩
        · exact Or.inr ⟨later,
            Or.inr ⟨turn, takes.earlier order unchanged⟩⟩
      · exact Or.inr ⟨rest, Or.inl ⟨rfl, world.now, next, Nat.le_refl _,
          order, backend, later, noInvoke.tail, ranRest⟩⟩
      · exact Or.inr ⟨rest, Or.inr ⟨rfl, world.now, next, Nat.le_refl _,
          order, backend, later, noInvoke.tail, ranRest⟩⟩

/-- The next turn of the second call, once the first is done. -/
theorem second_turn
    {outcome : Except Failure Result}
    (pair : world.Pair first second (.done outcome) theirs)
    (idle : world.backend.chains = [])
    (noInvoke : NoInvoke actions)
    (ran : world.run? behaviour actions = some final) :
    (final.Pair first second (.done outcome) theirs ∧
        final.backend = world.backend) ∨
      ∃ rest,
        Takes behaviour world final theirs
          (fun program next =>
            next.Pair first second (.done outcome) program)
          rest := by
  induction actions generalizing world with
  | nil =>
      cases ran
      exact Or.inl ⟨pair, rfl⟩
  | cons action rest inductionHypothesis =>
      obtain ⟨next, stepped, ranRest⟩ := run?_cons.mp ran
      have notInvoke := noInvoke.notInvoke (List.mem_cons_self ..)
      have order := (step_cases stepped).now_le
      have unlessSecond :
          (next.backend = world.backend ∧
              next.Pair first second (.done outcome) theirs) ∨
            (next.backend = (theirs.step world.now world.backend).1 ∧
              next.Pair first second (.done outcome)
                (theirs.step world.now world.backend).2) := by
        rcases pair.step notInvoke (step_cases stepped) with
          ⟨-, sameThreads, sameBackend⟩ | ⟨-, backend, later⟩ |
            ⟨-, backend, later⟩
        · exact Or.inl ⟨sameBackend idle, pair.congr sameThreads⟩
        · exact Or.inl ⟨backend, later⟩
        · exact Or.inr ⟨backend, later⟩
      rcases unlessSecond with ⟨unchanged, same⟩ | ⟨backend, later⟩
      · rw [← unchanged] at idle
        rcases inductionHypothesis same idle noInvoke.tail ranRest with
          ⟨ended, final⟩ | ⟨later, takes⟩
        · exact Or.inl ⟨ended, final.trans unchanged⟩
        · exact Or.inr ⟨later, takes.earlier order unchanged⟩
      · exact Or.inr ⟨rest, world.now, next, Nat.le_refl _, order, backend,
          later, noInvoke.tail, ranRest⟩

/-- A call that has failed has not succeeded at the end. -/
theorem not_succeeded
    {failure : Failure}
    (pair : world.Pair first second (.done (.error failure)) theirs)
    {actions : List (Action Operation)}
    (noInvoke : NoInvoke actions)
    (ran : world.run? behaviour actions = some final) :
    ¬ final.Succeeded := by
  induction actions generalizing world theirs with
  | nil =>
      cases ran
      intro succeeded
      obtain ⟨thread, found, program⟩ := pair.mine
      obtain ⟨result, ended⟩ :=
        succeeded thread (List.mem_of_getElem? found)
      rw [program] at ended
      cases ended
  | cons action rest inductionHypothesis =>
      obtain ⟨next, stepped, ranRest⟩ := run?_cons.mp ran
      have notInvoke := noInvoke.notInvoke (List.mem_cons_self ..)
      rcases pair.step notInvoke (step_cases stepped) with
        ⟨-, sameThreads, -⟩ | ⟨-, -, later⟩ | ⟨-, -, later⟩
      · exact inductionHypothesis (pair.congr sameThreads) noInvoke.tail
          ranRest
      · exact inductionHypothesis later noInvoke.tail ranRest
      · exact inductionHypothesis later noInvoke.tail ranRest

/-- Calls that are done leave the store alone. -/
theorem done_unchanged
    {outcome other : Except Failure Result}
    (pair : world.Pair first second (.done outcome) (.done other))
    (idle : world.backend.chains = [])
    (noInvoke : NoInvoke actions)
    (ran : world.run? behaviour actions = some final) :
    final.backend = world.backend := by
  induction actions generalizing world with
  | nil =>
      cases ran
      rfl
  | cons action rest inductionHypothesis =>
      obtain ⟨next, stepped, ranRest⟩ := run?_cons.mp ran
      have notInvoke := noInvoke.notInvoke (List.mem_cons_self ..)
      have unchanged :
          next.backend = world.backend ∧
            next.Pair first second (.done outcome) (.done other) := by
        rcases pair.step notInvoke (step_cases stepped) with
          ⟨-, sameThreads, sameBackend⟩ | ⟨-, backend, later⟩ |
            ⟨-, backend, later⟩
        · exact ⟨sameBackend idle, pair.congr sameThreads⟩
        · exact ⟨backend, later⟩
        · exact ⟨backend, later⟩
      obtain ⟨sameBackend, later⟩ := unchanged
      rw [← sameBackend] at idle
      exact (inductionHypothesis later idle noInvoke.tail ranRest).trans
        sameBackend

omit [DecidableEq Key] in
/-- A call that is not done is not done at the end of a run of successes. -/
theorem mine_done
    (pair : final.Pair first second mine theirs)
    (succeeded : final.Succeeded) :
    ∃ result, mine = .done (.ok result) := by
  obtain ⟨thread, found, program⟩ := pair.mine
  obtain ⟨result, ended⟩ := succeeded thread (List.mem_of_getElem? found)
  exact ⟨result, program.symm.trans ended⟩

/-! ## The calls, from the last command back to the first -/

variable
  {key : Key}
  {written : Nat → Nat → Value → Value}
  {program : Nat → StoreProgram Key Value Failure Result}
  {holding : Nat → Value → StoreProgram Key Value Failure Result}
  {result : Result}
  {value : Value}

section Calls

variable
  (calls :
    ∀ index,
      (program index).ReadsThenWrites key (written index) (holding index))
  (idle : world.backend.chains = [])
  (noInvoke : NoInvoke actions)
  (ran : world.run? behaviour actions = some final)
  (succeeded : final.Succeeded)

include calls idle succeeded

/-- A turn of a call that holds a value is its write. -/
theorem takes_write
    {rest : List (Action Operation)}
    (takes :
      Takes behaviour world final (holding first value)
        (fun program next => next.Pair first second program theirs)
        rest) :
    ∃ (now : Nat) (next : World Operation Key Value Failure Result)
        (answer : Result),
      world.now ≤ now ∧ now ≤ next.now ∧
        next.backend.chains = [] ∧
        next.Holds key (written first now value) ∧
        next.Pair first second (.done (.ok answer)) theirs ∧
        NoInvoke rest ∧ next.run? behaviour rest = some final := by
  obtain ⟨now, next, order, onwards, backend, later, noInvoke, ran⟩ :=
    takes
  rcases (calls first).writes now world.backend value with
    ⟨failure, fails⟩ | ⟨lifetime, answer, writes⟩
  · rw [fails] at later
    exact (later.not_succeeded noInvoke ran succeeded).elim
  · rw [writes] at later backend
    refine ⟨now, next, answer, order, onwards, ?_, ?_, later, noInvoke,
      ran⟩
    · rw [backend]
      exact idle
    · unfold Holds
      rw [backend]
      exact ⟨_, ExpiringStore.lookup_write_same _ _ _ _ _, rfl⟩

/-- The first turn of a call is its read. -/
theorem takes_read
    {rest : List (Action Operation)}
    (holds : world.Holds key value)
    (takes :
      Takes behaviour world final (program first)
        (fun program next => next.Pair first second program theirs)
        rest) :
    ∃ next : World Operation Key Value Failure Result,
      world.now ≤ next.now ∧
        next.backend.chains = [] ∧
        next.Holds key value ∧
        next.Pair first second (holding first value) theirs ∧
        NoInvoke rest ∧ next.run? behaviour rest = some final := by
  obtain ⟨now, next, order, onwards, backend, later, noInvoke, ran⟩ :=
    takes
  rcases (calls first).reads now world.backend with
    ⟨failure, fails⟩ | ⟨found, read, reads⟩
  · rw [fails] at later
    exact (later.not_succeeded noInvoke ran succeeded).elim
  · rw [reads] at later backend
    rw [holds.read read] at later
    refine ⟨next, Nat.le_trans order onwards, ?_, ?_, later, noInvoke,
      ran⟩
    · rw [backend]
      exact idle
    · unfold Holds
      rw [backend]
      exact holds

include noInvoke ran

/-- The last call that holds a value decides what is left. -/
theorem last_writes
    (pair :
      world.Pair first second (.done (.ok result))
        (holding second value)) :
    ∃ instant,
      world.now ≤ instant ∧
        final.Holds key (written second instant value) := by
  rcases pair.second_turn idle noInvoke ran with
    ⟨ended, -⟩ | ⟨rest, takes⟩
  · obtain ⟨answer, done⟩ := ended.symm.mine_done succeeded
    exact ((calls second).holdingNotDone value answer done).elim
  · obtain ⟨instant, next, answer, after, -, nextIdle, holds, both,
      restNoInvoke, ranRest⟩ :=
      takes_write calls idle succeeded takes.symm
    refine ⟨instant, after, ?_⟩
    unfold Holds
    rw [both.done_unchanged nextIdle restNoInvoke ranRest]
    exact holds

/-- When one call is through, the other reads what it left. -/
theorem last_reads
    (pair :
      world.Pair first second (.done (.ok result)) (program second))
    (holds : world.Holds key value) :
    ∃ instant,
      world.now ≤ instant ∧
        final.Holds key (written second instant value) := by
  rcases pair.second_turn idle noInvoke ran with
    ⟨ended, -⟩ | ⟨rest, takes⟩
  · obtain ⟨answer, done⟩ := ended.symm.mine_done succeeded
    exact ((calls second).notDone answer done).elim
  · obtain ⟨next, after, nextIdle, -, both, restNoInvoke, ranRest⟩ :=
      takes_read calls idle succeeded holds takes.symm
    obtain ⟨instant, later, finalHolds⟩ :=
      both.symm.last_writes calls nextIdle restNoInvoke ranRest succeeded
    exact ⟨instant, Nat.le_trans after later, finalHolds⟩

/-- When both calls hold what they read, the earlier write is lost. -/
theorem both_write
    {other : Value}
    (pair :
      world.Pair first second (holding first value)
        (holding second other)) :
    ∃ earlier rest instant,
      turns actions = earlier :: rest ∧
        (earlier = first ∧
            final.Holds key (written second instant other) ∨
          earlier = second ∧
            final.Holds key (written first instant value)) := by
  rcases pair.first_turn idle noInvoke ran with
    ended | ⟨rest, ⟨turn, takes⟩ | ⟨turn, takes⟩⟩
  · obtain ⟨answer, done⟩ := ended.mine_done succeeded
    exact ((calls first).holdingNotDone value answer done).elim
  · obtain ⟨-, next, answer, -, -, nextIdle, -, later, restNoInvoke,
      ranRest⟩ := takes_write calls idle succeeded takes
    obtain ⟨instant, -, holds⟩ :=
      later.last_writes calls nextIdle restNoInvoke ranRest succeeded
    exact ⟨first, _, instant, turn, Or.inl ⟨rfl, holds⟩⟩
  · obtain ⟨-, next, answer, -, -, nextIdle, -, later, restNoInvoke,
      ranRest⟩ := takes_write calls idle succeeded takes.symm
    obtain ⟨instant, -, holds⟩ :=
      later.last_writes calls nextIdle restNoInvoke ranRest succeeded
    exact ⟨second, _, instant, turn, Or.inr ⟨rfl, holds⟩⟩

/-- When one call holds what is there, the next turn decides. -/
theorem one_holds
    (pair :
      world.Pair first second (holding first value) (program second))
    (holds : world.Holds key value) :
    ∃ left,
      final.Holds key left ∧
        Interleaved written value (first :: turns actions) left := by
  rcases pair.first_turn idle noInvoke ran with
    ended | ⟨rest, ⟨turn, takes⟩ | ⟨turn, takes⟩⟩
  · obtain ⟨answer, done⟩ := ended.mine_done succeeded
    exact ((calls first).holdingNotDone value answer done).elim
  · obtain ⟨early, next, answer, -, onwards, nextIdle, nextHolds, later,
      restNoInvoke, ranRest⟩ := takes_write calls idle succeeded takes
    obtain ⟨late, after, finalHolds⟩ :=
      later.last_reads calls nextIdle restNoInvoke ranRest succeeded
        nextHolds
    rw [turn]
    exact ⟨_, finalHolds,
      .serial pair.different (Nat.le_trans onwards after) _⟩
  · obtain ⟨next, -, nextIdle, -, both, restNoInvoke, ranRest⟩ :=
      takes_read calls idle succeeded holds takes.symm
    obtain ⟨earlier, after, instant, laterTurns, outcome⟩ :=
      both.symm.both_write calls nextIdle restNoInvoke ranRest succeeded
    rw [turn, laterTurns]
    rcases outcome with ⟨isFirst, finalHolds⟩ | ⟨isSecond, finalHolds⟩
    · exact ⟨_, finalHolds,
        .overlapped pair.different (Or.inl ⟨isFirst, rfl⟩) instant _⟩
    · exact ⟨_, finalHolds,
        .overlapped pair.different (Or.inr ⟨isSecond, rfl⟩) instant _⟩

/--
Two calls that both succeed leave what one of the two kinds of schedule gives.
-/
theorem interleaved
    (pair : world.Pair first second (program first) (program second))
    (holds : world.Holds key value) :
    ∃ left,
      final.Holds key left ∧
        Interleaved written value (turns actions) left := by
  rcases pair.first_turn idle noInvoke ran with
    ended | ⟨rest, ⟨turn, takes⟩ | ⟨turn, takes⟩⟩
  · obtain ⟨answer, done⟩ := ended.mine_done succeeded
    exact ((calls first).notDone answer done).elim
  · obtain ⟨next, -, nextIdle, nextHolds, later, restNoInvoke, ranRest⟩ :=
      takes_read calls idle succeeded holds takes
    rw [turn]
    exact later.one_holds calls nextIdle restNoInvoke ranRest succeeded
      nextHolds
  · obtain ⟨next, -, nextIdle, nextHolds, later, restNoInvoke, ranRest⟩ :=
      takes_read calls idle succeeded holds takes.symm
    rw [turn]
    exact later.one_holds calls nextIdle restNoInvoke ranRest succeeded
      nextHolds

end Calls

end Pair

end World

end NestBackend
