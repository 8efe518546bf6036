import NestBackend.StreamService

namespace NestBackend

/-!
# Query runners and their streams

Both functions of `StreamService` create a query runner, open a stream on it and
give the runner back.  `getReadStreamData` hands the stream to its caller, and
has committed and released before that; `handleDataStream` reads it itself, and
releases where its promise inside is settled.
-/

/-- The stream still has a row for whoever reads it. -/
def Readable.CanDeliver {Row : Type} (stream : Readable Row) : Prop :=
  stream.destroyed = false ∧ stream.remaining ≠ []

/-- A stream that nobody reads yet. -/
def Readable.opened {Row : Type} (rows : List Row) : Readable Row :=
  (listened rows).pause

/-- A stream that nobody has read has a row exactly when there is one. -/
theorem Readable.opened_canDeliver
    {Row : Type}
    {rows : List Row} :
    (opened rows).CanDeliver ↔ rows ≠ [] := by
  simp [CanDeliver, opened, listened, pause, remaining]

/-! ## `getReadStreamData` -/

/-- What is asked of a query runner. -/
inductive RunnerAction where
  | startTransaction
  | stream
  | commitTransaction
  | rollbackTransaction
  | release
  deriving DecidableEq, Repr

/--
How the steps of `getReadStreamData` go: which of them succeed, and the rows of
the stream if it is opened.  A rollback that fails only throws something else.
-/
structure ReadAttempt (Row : Type) where
  starts : Bool
  opens : Option (List Row)
  commits : Bool
  releases : Bool

namespace ReadAttempt

variable {Row : Type}

/--
The try block: what it asks of the runner, the stream that it returns, and
whether a transaction is still active when it throws.
-/
def tryBlock
    (attempt : ReadAttempt Row) :
    List RunnerAction × Option (Readable Row) × Bool :=
  if attempt.starts then
    match attempt.opens with
    | none => ([.startTransaction, .stream], none, true)
    | some rows =>
        if attempt.commits then
          ([.startTransaction, .stream, .commitTransaction],
            some (Readable.opened rows), false)
        else
          ([.startTransaction, .stream, .commitTransaction], none, true)
  else
    ([.startTransaction], none, false)

/--
`getReadStreamData`: what it asks of the runner in all, and the stream that it
hands out, unless it throws.
-/
def getReadStreamData
    (attempt : ReadAttempt Row) :
    List RunnerAction × Option (Readable Row) :=
  match attempt.tryBlock with
  | (actions, some stream, _) =>
      (actions ++ [.release],
        if attempt.releases then some stream else none)
  | (actions, none, active) =>
      (actions ++ (if active then [.rollbackTransaction] else []) ++
          [.release],
        none)

/--
The runner is released once, and a stream that is handed out after a commit or
a release has nothing to deliver any more.
-/
def ReleasedWhenDone (attempt : ReadAttempt Row) : Prop :=
  attempt.getReadStreamData.1.count .release = 1 ∧
    ∀ stream,
      attempt.getReadStreamData.2 = some stream →
        (.commitTransaction ∈ attempt.getReadStreamData.1 ∨
            .release ∈ attempt.getReadStreamData.1) →
          ¬ stream.CanDeliver

/-- No stream with a row in it is handed out. -/
def HandsOutNothing (attempt : ReadAttempt Row) : Prop :=
  attempt.starts = true →
    attempt.commits = true →
      attempt.releases = true →
        ∀ rows, attempt.opens = some rows → rows = []

/-- The runner is released once, however the steps go. -/
theorem count_release
    (attempt : ReadAttempt Row) :
    attempt.getReadStreamData.1.count .release = 1 := by
  obtain ⟨starts, opens, commits, releases⟩ := attempt
  cases starts with
  | false => rfl
  | true =>
      cases opens with
      | none => rfl
      | some rows => cases commits <;> rfl

/-- The stream is handed out when every step succeeds. -/
theorem handedOut_iff
    {attempt : ReadAttempt Row}
    {stream : Readable Row} :
    attempt.getReadStreamData.2 = some stream ↔
      attempt.starts = true ∧ attempt.commits = true ∧
        attempt.releases = true ∧
        ∃ rows, attempt.opens = some rows ∧ Readable.opened rows = stream := by
  obtain ⟨starts, opens, commits, releases⟩ := attempt
  cases starts with
  | false => simp [getReadStreamData, tryBlock]
  | true =>
      cases opens with
      | none => simp [getReadStreamData, tryBlock]
      | some rows =>
          cases commits <;> cases releases <;>
            simp [getReadStreamData, tryBlock]

/-- It is released before anything can have been read of it. -/
theorem handsOutNothing_iff
    (attempt : ReadAttempt Row) :
    attempt.ReleasedWhenDone ↔ attempt.HandsOutNothing := by
  have released : .release ∈ attempt.getReadStreamData.1 := by
    rw [← List.count_pos_iff, attempt.count_release]
    exact Nat.one_pos
  constructor
  · rintro ⟨-, delivered⟩ starts commits releases rows opens
    have handedOut :
        attempt.getReadStreamData.2 = some (Readable.opened rows) :=
      handedOut_iff.mpr ⟨starts, commits, releases, rows, opens, rfl⟩
    have nothing := delivered _ handedOut (.inr released)
    by_contra nonempty
    exact nothing (Readable.opened_canDeliver.mpr nonempty)
  · intro nothing
    refine ⟨attempt.count_release, ?_⟩
    intro stream handedOut _ delivers
    obtain ⟨starts, commits, releases, rows, opens, rfl⟩ :=
      handedOut_iff.mp handedOut
    exact
      Readable.opened_canDeliver.mp delivers
        (nothing starts commits releases rows opens)

end ReadAttempt

/-! ## `handleDataStream` -/

namespace DataStream

variable {Row : Type} {rows : List Row} {state next : DataStream Row}

/-- The stream at each release of the runner in a run. -/
def releases (state : DataStream Row) : List StreamEvent → List (Readable Row)
  | [] => []
  | event :: rest =>
      match state.step event with
      | none => []
      | some next =>
          if event = .release then
            next.stream :: next.releases rest
          else
            next.releases rest

/-- The promise inside will never be settled: the error listener threw. -/
structure Hung (state : DataStream Row) : Prop where
  undecided : state.outcome = none
  failed : state.failures ≠ []

/-- Only a release completes the function. -/
theorem step_completed
    {event : StreamEvent}
    (stepped : state.step event = some next)
    (other : event ≠ .release) :
    next.completed = state.completed := by
  cases step_cases stepped with
  | push pushed => rfl
  | finish finished => rfl
  | data emitted => rfl
  | endOfStream emitted => rfl
  | fail unfinished alive => rfl
  | resolve pends => rfl
  | @reject index error chunk pends => cases error <;> rfl
  | release decided uncompleted => exact absurd rfl other

/-- The runner is released as often as the function is completed. -/
theorem length_releases
    {events : List StreamEvent}
    {final : DataStream Row}
    (ran : state.run? events = some final) :
    (state.releases events).length + state.completed.isSome.toNat =
      final.completed.isSome.toNat := by
  induction events generalizing state with
  | nil =>
      obtain rfl := Option.some.inj ran
      simp [releases]
  | cons event rest inductionHypothesis =>
      obtain ⟨next, stepped, ranRest⟩ := Option.bind_eq_some_iff.mp ran
      have later := inductionHypothesis ranRest
      simp only [releases, stepped]
      by_cases release : event = .release
      · subst release
        cases step_cases stepped with
        | release decided uncompleted =>
            simp only [↓reduceIte, List.length_cons, uncompleted,
              Option.isSome_none, Option.isSome_some, Bool.toNat_false,
              Bool.toNat_true] at later ⊢
            omega
      · rw [if_neg release, ← later, step_completed stepped release]

/-- The stream is destroyed before the runner is released. -/
theorem destroyed_of_mem_releases
    {events : List StreamEvent}
    {stream : Readable Row}
    (member : stream ∈ state.releases events) :
    stream.destroyed = true := by
  induction events generalizing state with
  | nil => cases member
  | cons event rest inductionHypothesis =>
      cases stepped : state.step event with
      | none =>
          simp only [releases, stepped] at member
          cases member
      | some next =>
          simp only [releases, stepped] at member
          by_cases release : event = .release
          · subst release
            rw [if_pos rfl] at member
            rcases List.mem_cons.mp member with rfl | later
            · cases step_cases stepped with
              | release decided uncompleted => rfl
            · exact inductionHypothesis later
          · rw [if_neg release] at member
            exact inductionHypothesis member

/-- A stream that goes on has not hung. -/
theorem Coherent.not_hung
    (coherent : state.Coherent rows)
    (alive : state.stream.destroyed = false) :
    ¬ state.Hung := by
  rintro ⟨-, failed⟩
  rw [coherent.stops failed] at alive
  cases alive

/-- What settles nothing and fails no call hangs nothing. -/
theorem hung_unchanged
    {event : StreamEvent}
    (sameOutcome : next.outcome = state.outcome)
    (sameFailures : next.failures = state.failures)
    (other : ∀ index, event ≠ .reject index .nullish) :
    next.Hung ↔
      state.Hung ∨
        (∃ index, event = .reject index .nullish) ∧
          state.outcome = none := by
  constructor
  · rintro ⟨undecided, failed⟩
    exact .inl ⟨sameOutcome ▸ undecided, sameFailures ▸ failed⟩
  · rintro (⟨undecided, failed⟩ | ⟨⟨index, isReject⟩, -⟩)
    · exact ⟨sameOutcome.trans undecided, sameFailures.symm ▸ failed⟩
    · exact absurd isReject (other index)

/-- One event hangs the function exactly when it rejects with no row to read. -/
theorem Coherent.hung_step
    {event : StreamEvent}
    (coherent : state.Coherent rows)
    (stepped : state.step event = some next) :
    next.Hung ↔
      state.Hung ∨
        (∃ index, event = .reject index .nullish) ∧ state.outcome = none := by
  cases step_cases stepped with
  | push pushed => exact hung_unchanged rfl rfl (by simp)
  | finish finished => exact hung_unchanged rfl rfl (by simp)
  | data emitted => exact hung_unchanged rfl rfl (by simp)
  | resolve pends => exact hung_unchanged rfl rfl (by simp)
  | endOfStream emitted =>
      obtain ⟨-, -, -, alive, -⟩ := Readable.emitEnd_cases emitted
      constructor
      · rintro ⟨undecided, -⟩
        simp [DataStream.onEnd, settle] at undecided
      · rintro (hung | ⟨⟨index, isReject⟩, -⟩)
        · exact (coherent.not_hung alive hung).elim
        · cases isReject
  | fail unfinished alive =>
      constructor
      · rintro ⟨undecided, -⟩
        simp [onError, settle] at undecided
      · rintro (hung | ⟨⟨index, isReject⟩, -⟩)
        · exact (coherent.not_hung alive hung).elim
        · cases isReject
  | @reject index error chunk pends =>
      have noFailure : state.failures = [] := by
        apply coherent.noneFailed
        intro idle
        simp [idle] at pends
      cases error with
      | reason message =>
          constructor
          · rintro ⟨undecided, -⟩
            simp [onError, settle] at undecided
          · rintro (hung | ⟨⟨other, isReject⟩, -⟩)
            · exact absurd noFailure hung.failed
            · cases isReject
      | nullish =>
          constructor
          · rintro ⟨undecided, -⟩
            exact .inr ⟨⟨index, rfl⟩, undecided⟩
          · rintro (hung | ⟨-, undecided⟩)
            · exact absurd noFailure hung.failed
            · exact ⟨undecided, by simp [onError]⟩
  | release decided uncompleted =>
      constructor
      · rintro ⟨undecided, -⟩
        exact absurd (decided.symm.trans undecided) (by simp)
      · rintro (hung | ⟨⟨index, isReject⟩, -⟩)
        · exact absurd (decided.symm.trans hung.undecided) (by simp)
        · cases isReject

/-- A run hangs exactly where such a rejection comes before anything else. -/
theorem Coherent.hung_run
    {events : List StreamEvent}
    {final : DataStream Row}
    (coherent : state.Coherent rows)
    (ran : state.run? events = some final) :
    final.Hung ↔
      state.Hung ∨
        ∃ before index rest middle,
          events = before ++ .reject index .nullish :: rest ∧
            state.run? before = some middle ∧ middle.outcome = none := by
  induction events generalizing state with
  | nil =>
      obtain rfl := Option.some.inj ran
      simp
  | cons event rest inductionHypothesis =>
      obtain ⟨next, stepped, ranRest⟩ := Option.bind_eq_some_iff.mp ran
      rw [inductionHypothesis (coherent.step stepped) ranRest,
        coherent.hung_step stepped, or_assoc]
      refine or_congr Iff.rfl ?_
      constructor
      · rintro
          (⟨⟨index, rfl⟩, undecided⟩ |
            ⟨before, index, later, middle, rfl, ranBefore, undecided⟩)
        · exact ⟨[], index, rest, state, rfl, rfl, undecided⟩
        · exact
            ⟨event :: before, index, later, middle, rfl,
              Option.bind_eq_some_iff.mpr ⟨next, stepped, ranBefore⟩,
              undecided⟩
      · rintro ⟨before, index, later, middle, split, ranBefore, undecided⟩
        cases before with
        | nil =>
            obtain ⟨rfl, rfl⟩ := List.cons.inj split
            obtain rfl := Option.some.inj ranBefore
            exact .inl ⟨⟨index, rfl⟩, undecided⟩
        | cons first others =>
            obtain ⟨rfl, rfl⟩ := List.cons.inj split
            obtain ⟨other, otherStepped, ranOthers⟩ :=
              Option.bind_eq_some_iff.mp ranBefore
            obtain rfl := Option.some.inj (stepped.symm.trans otherStepped)
            exact
              .inr ⟨others, index, later, middle, rfl, ranOthers, undecided⟩

/-- Only a pending call rejects. -/
theorem pending_of_reject
    {start middle final : DataStream Row}
    {events before rest : List StreamEvent}
    {index : Nat}
    {error : Rejection}
    (ran : start.run? events = some final)
    (split : events = before ++ .reject index error :: rest)
    (ranBefore : start.run? before = some middle) :
    middle.pending ≠ [] := by
  rw [split, run?_append, ranBefore, Option.bind_some] at ran
  obtain ⟨next, stepped, -⟩ := Option.bind_eq_some_iff.mp ran
  intro idle
  simp [step, idle] at stepped

/-- While a call is pending, only the end or the source settles the promise. -/
theorem Coherent.decided_iff
    (coherent : state.Coherent rows)
    (pends : state.pending ≠ []) :
    state.outcome ≠ none ↔
      state.stream.endEmitted = true ∨ state.sourceFailed = true := by
  constructor
  · intro decided
    obtain ⟨outcome, isOutcome⟩ := Option.ne_none_iff_exists'.mp decided
    cases outcome with
    | resolved => exact .inl (coherent.ended.mp isOutcome)
    | rejected =>
        refine .inr ((coherent.blamed isOutcome).resolve_left ?_)
        exact fun failed => failed (coherent.noneFailed pends)
  · rintro (ended | failed)
    · rw [coherent.ended.mpr ended]
      simp
    · rw [coherent.sourceRejects failed]
      simp

/-- In the end the function is completed unless it hangs. -/
theorem Coherent.completed_iff
    (coherent : state.Coherent rows)
    (isOver : state.Over) :
    state.completed.isSome = true ↔ ¬ state.Hung := by
  rw [Option.isSome_iff_ne_none]
  constructor
  · rintro completed ⟨undecided, -⟩
    obtain ⟨outcome, isOutcome⟩ := Option.ne_none_iff_exists'.mp completed
    rw [(coherent.agrees outcome isOutcome).1] at undecided
    cases undecided
  · intro notHung
    apply completed_of_over isOver
    intro undecided
    by_cases noFailure : state.failures = []
    · exact coherent.decided_of_over isOver noFailure undecided
    · exact notHung ⟨undecided, noFailure⟩

end DataStream

/--
How `handleDataStream` goes: the rows of the stream if it is opened, and what
happens from then on.
-/
structure HandleAttempt (Row : Type) where
  opens : Option (List Row)
  events : List StreamEvent

namespace HandleAttempt

variable {Row : Type}

/--
The stream at each release of the runner.  The stream is opened before the try
block, so where that fails the finally block is not reached.
-/
def releases (attempt : HandleAttempt Row) : List (Readable Row) :=
  match attempt.opens with
  | none => []
  | some rows => (DataStream.listening rows).releases attempt.events

/-- What happens goes on until nothing can happen any more. -/
def Complete (attempt : HandleAttempt Row) : Prop :=
  match attempt.opens with
  | none => attempt.events = []
  | some rows =>
      ∃ final,
        (DataStream.listening rows).run? attempt.events = some final ∧
          final.Over

/-- The runner is released once, when its stream delivers nothing any more. -/
def ReleasedWhenDone (attempt : HandleAttempt Row) : Prop :=
  attempt.releases.length = 1 ∧
    ∀ stream ∈ attempt.releases, ¬ stream.CanDeliver

/--
The stream is opened, and no call of `handleData` rejects with null or undefined
before the end has been emitted or the source has failed.
-/
def Settles (attempt : HandleAttempt Row) : Prop :=
  ∃ rows,
    attempt.opens = some rows ∧
      ∀ before index rest state,
        attempt.events = before ++ .reject index .nullish :: rest →
          (DataStream.listening rows).run? before = some state →
            state.stream.endEmitted = true ∨ state.sourceFailed = true

/-- An opened stream settles exactly if the function does not hang. -/
theorem settles_iff_not_hung
    {rows : List Row}
    {events : List StreamEvent}
    {final : DataStream Row}
    (ran : (DataStream.listening rows).run? events = some final) :
    Settles ⟨some rows, events⟩ ↔ ¬ final.Hung := by
  have fresh : ¬ (DataStream.listening rows).Hung :=
    DataStream.listening_coherent.not_hung rfl
  rw [DataStream.listening_coherent.hung_run ran]
  constructor
  · rintro ⟨_, isOpen, decided⟩ hung
    obtain rfl := Option.some.inj isOpen
    obtain ⟨before, index, rest, middle, split, ranBefore, undecided⟩ :=
      hung.resolve_left fresh
    have pends := DataStream.pending_of_reject ran split ranBefore
    refine
      ((DataStream.listening_coherent.run ranBefore).decided_iff
        pends).mpr ?_ undecided
    exact decided before index rest middle split ranBefore
  · intro notHung
    refine ⟨rows, rfl, ?_⟩
    intro before index rest middle split ranBefore
    have pends := DataStream.pending_of_reject ran split ranBefore
    refine
      ((DataStream.listening_coherent.run ranBefore).decided_iff
        pends).mp ?_
    intro undecided
    exact
      notHung
        (.inr ⟨before, index, rest, middle, split, ranBefore, undecided⟩)

/-- The runner is released once exactly if the function does not hang. -/
theorem releasedOnce_iff_not_hung
    {rows : List Row}
    {events : List StreamEvent}
    {final : DataStream Row}
    (ran : (DataStream.listening rows).run? events = some final)
    (isOver : final.Over) :
    ((DataStream.listening rows).releases events).length = 1 ↔
      ¬ final.Hung := by
  have coherent := DataStream.listening_coherent.run ran
  rw [← coherent.completed_iff isOver]
  have count := DataStream.length_releases ran
  have uncompleted : (DataStream.listening rows).completed = none := rfl
  rw [uncompleted, Option.isSome_none, Bool.toNat_false, Nat.add_zero]
    at count
  rw [count]
  cases final.completed <;> simp

/-- The runner is given back unless the function fails at once or hangs. -/
theorem settles_iff
    {attempt : HandleAttempt Row}
    (complete : attempt.Complete) :
    attempt.ReleasedWhenDone ↔ attempt.Settles := by
  obtain ⟨opens, events⟩ := attempt
  cases opens with
  | none => simp [ReleasedWhenDone, releases, Settles]
  | some rows =>
      obtain ⟨final, ran, isOver⟩ := complete
      have destroyed :
          ∀ stream ∈ (DataStream.listening rows).releases events,
            ¬ stream.CanDeliver := by
        rintro stream member ⟨alive, -⟩
        rw [DataStream.destroyed_of_mem_releases member] at alive
        cases alive
      rw [settles_iff_not_hung ran, ← releasedOnce_iff_not_hung ran isOver]
      exact ⟨fun done => done.1, fun once => ⟨once, destroyed⟩⟩

end HandleAttempt

/-! ## Both functions -/

/-- A call of one of the two functions, and how it goes. -/
inductive RunnerCall (Row : Type) where
  | getReadStreamData (attempt : ReadAttempt Row)
  | handleDataStream (attempt : HandleAttempt Row)

namespace RunnerCall

variable {Row : Type}

/-- What happens goes on to the end. -/
def Complete : RunnerCall Row → Prop
  | .getReadStreamData _ => True
  | .handleDataStream attempt => attempt.Complete

/--
The query runner is released once, and neither released nor its transaction
committed while its stream can still deliver rows.
-/
def ReleasedWhenDone : RunnerCall Row → Prop
  | .getReadStreamData attempt => attempt.ReleasedWhenDone
  | .handleDataStream attempt => attempt.ReleasedWhenDone

/-- The cases in which the functions look after their runner. -/
def LooksAfter : RunnerCall Row → Prop
  | .getReadStreamData attempt => attempt.HandsOutNothing
  | .handleDataStream attempt => attempt.Settles

/--
A query runner is released exactly when its stream is done, if and only if
`getReadStreamData` hands out no row, and `handleDataStream` opens its stream
and is not hung by a rejection with nothing to read.
-/
theorem releasedWhenDone_iff
    {call : RunnerCall Row}
    (complete : call.Complete) :
    call.ReleasedWhenDone ↔ call.LooksAfter := by
  cases call with
  | getReadStreamData attempt => exact attempt.handsOutNothing_iff
  | handleDataStream attempt =>
      exact HandleAttempt.settles_iff complete

/--
A stream of three rows: two are read and handled one after the other, then the
third one, and then the end is read.
-/
def threeRows : RunnerCall Nat :=
  .handleDataStream
    ⟨some [7, 8, 9],
      [.push 2, .data, .resolve 0, .data, .resolve 0, .push 1, .data, .finish,
        .resolve 0, .endOfStream, .release]⟩

/-- Nothing can happen after the release. -/
theorem threeRows_complete : threeRows.Complete := by
  refine ⟨_, rfl, ?_⟩
  intro event
  cases event with
  | push count =>
      simp [DataStream.step, Readable.push, Readable.resume, Readable.destroy]
  | finish => rfl
  | data => rfl
  | endOfStream => rfl
  | fail message => rfl
  | resolve index => rfl
  | reject index error => rfl
  | release => rfl

/-- Three rows are handled before the runner is released. -/
theorem releasedWhenDone_iff_threeRows : threeRows.ReleasedWhenDone := by
  refine (releasedWhenDone_iff threeRows_complete).mpr ⟨_, rfl, ?_⟩
  intro before index rest state split
  have rejected :
      StreamEvent.reject index .nullish ∈
        before ++ .reject index .nullish :: rest :=
    List.mem_append_right before List.mem_cons_self
  rw [← split] at rejected
  simp at rejected

/--
`getReadStreamData` hands out a stream of one row on a runner that it has
released, and `handleDataStream` releases nothing when its stream is not opened.
-/
theorem not_released_when_done :
    ¬ ReleasedWhenDone
        (.getReadStreamData (⟨true, some [7], true, true⟩ :
          ReadAttempt Nat)) ∧
      ¬ ReleasedWhenDone
        (.handleDataStream (⟨none, []⟩ : HandleAttempt Nat)) := by
  constructor
  · rintro ⟨-, delivered⟩
    refine delivered _ rfl (.inr (by decide)) ?_
    exact ⟨rfl, by decide⟩
  · rintro ⟨once, -⟩
    cases once

end RunnerCall

end NestBackend
