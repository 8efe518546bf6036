import NestBackend.EventRun
import NestBackend.Readable
import Mathlib.Data.List.Induction

namespace NestBackend

/-!
# `StreamService.handleDataStream`

The function attaches its listeners and waits for a promise that the first of
the end and the error listener settles; then it destroys the stream, gives the
connection back and settles in the same way.  Everything in between happens in
any order: the producer pushes rows and signals the end, the stream emits, and
the calls of `handleData` settle whenever they do.
-/

/-- How a promise is settled. -/
inductive PromiseOutcome where
  | resolved
  | rejected
  deriving Repr, DecidableEq

/-- What a call of `handleData` may reject with. -/
inductive Rejection where
  /-- A value that has a `message`. -/
  | reason (message : Option String)
  /-- `null` or `undefined`, of which no property can be read. -/
  | nullish
  deriving Repr, DecidableEq

/-- A call of `handleDataStream` under way. -/
structure DataStream (Row : Type) where
  stream : Readable Row
  /-- The rows that `handleData` has been called on, in order. -/
  started : List Row
  /-- The rows whose calls are pending. -/
  pending : List Row
  /-- The rows whose calls have rejected. -/
  failures : List Row
  /-- Whether the source has failed. -/
  sourceFailed : Bool
  /-- How the promise inside has been settled. -/
  outcome : Option PromiseOutcome
  /-- How the promise of `handleDataStream` has been settled. -/
  completed : Option PromiseOutcome

/-- What may happen next. -/
inductive StreamEvent where
  | push (count : Nat)
  | finish
  | data
  | endOfStream
  /-- The source fails; the stream emits an error of it. -/
  | fail (message : Option String)
  /-- A pending call of `handleData` resolves. -/
  | resolve (index : Nat)
  /-- A pending call of `handleData` rejects. -/
  | reject (index : Nat) (error : Rejection)
  /-- `queryRunner.release` is done. -/
  | release
  deriving Repr, DecidableEq

namespace DataStream

variable {Row : Type}

/-- The state once the listeners are attached. -/
def listening (rows : List Row) : DataStream Row where
  stream := Readable.listened rows
  started := []
  pending := []
  failures := []
  sourceFailed := false
  outcome := none
  completed := none

/-- Settle the promise inside; only the first time counts. -/
def settle
    (outcome : PromiseOutcome)
    (state : DataStream Row) : DataStream Row :=
  { state with outcome := state.outcome.or (some outcome) }

/-- The data listener. -/
def onData (chunk : Row) (state : DataStream Row) : DataStream Row :=
  { state with
    stream := state.stream.pause
    started := state.started ++ [chunk]
    pending := state.pending ++ [chunk] }

/-- The error listener, which throws before `rj` if it cannot read a message. -/
def onError (error : Rejection) (state : DataStream Row) : DataStream Row :=
  let destroyed := { state with stream := state.stream.destroy }
  match error with
  | .reason _ => destroyed.settle .rejected
  | .nullish => destroyed

/-- The end listener. -/
def onEnd (state : DataStream Row) : DataStream Row :=
  state.settle .resolved

/-- One event. -/
def step
    (event : StreamEvent)
    (state : DataStream Row) : Option (DataStream Row) :=
  match event with
  | .push count =>
      (state.stream.push count).map
        (fun stream => { state with stream := stream })
  | .finish =>
      state.stream.finish.map (fun stream => { state with stream := stream })
  | .data =>
      state.stream.emitData.map
        (fun (stream, chunk) => onData chunk { state with stream := stream })
  | .endOfStream =>
      state.stream.emitEnd.map
        (fun stream => onEnd { state with stream := stream })
  | .fail message =>
      if
          state.stream.endEmitted = false ∧
            state.stream.destroyed = false then
        some (onError (.reason message) { state with sourceFailed := true })
      else
        none
  | .resolve index =>
      if index < state.pending.length then
        some
          { state with
            stream := state.stream.resume
            pending := state.pending.eraseIdx index }
      else
        none
  | .reject index error =>
      match state.pending[index]? with
      | some chunk =>
          some
            (onError error
              { state with
                pending := state.pending.eraseIdx index
                failures := state.failures ++ [chunk] })
      | none => none
  | .release =>
      match state.outcome, state.completed with
      | some outcome, none =>
          some
            { state with
              stream := state.stream.destroy
              completed := some outcome }
      | _, _ => none

/-- A run, from the first event to the last. -/
def run? : DataStream Row → List StreamEvent → Option (DataStream Row)
  | state, [] => some state
  | state, event :: rest => (state.step event).bind (fun next => run? next rest)

/-- A state that a run comes through. -/
def Visits
    (start : DataStream Row)
    (events : List StreamEvent)
    (state : DataStream Row) : Prop :=
  ∃ before rest, events = before ++ rest ∧ start.run? before = some state

/-- Nothing can happen any more. -/
def Over (state : DataStream Row) : Prop :=
  ∀ event, state.step event = none

/-- How the promise has to be settled in the end. -/
def due (state : DataStream Row) : PromiseOutcome :=
  if state.failures = [] ∧ state.sourceFailed = false then
    .resolved
  else
    .rejected

/--
The rows are handled one after the other; a resolved promise means that all
have been handled, a failed call that the promise is rejected; and the promise
is not left open.
-/
structure Handled (rows : List Row) (state : DataStream Row) : Prop where
  inOrder : state.started ++ state.stream.remaining = rows
  oneAtATime : state.pending.length ≤ 1
  allBefore :
    state.completed = some .resolved →
      state.started = rows ∧ state.pending = [] ∧ state.failures = []
  rejects : state.failures ≠ [] → state.outcome = some .rejected
  notLeftOpen : state.Over → state.completed = some state.due

/--
A call rejects before the end, with something that has properties unless the
source has failed already; and a call that is pending at the end resolves
before the connection has been given back.
-/
def Timely (event : StreamEvent) (state : DataStream Row) : Prop :=
  match event with
  | .reject _ error =>
      state.stream.endEmitted = false ∧
        (error = .nullish → state.sourceFailed = true)
  | .release => state.stream.endEmitted = true → state.pending = []
  | _ => True

/-! ## What an event does -/

/-- An event that can happen in a state, and the state after it. -/
inductive StepCase
    (state : DataStream Row) : StreamEvent → DataStream Row → Prop where
  | push
      {count : Nat}
      {stream : Readable Row}
      (pushed : state.stream.push count = some stream) :
      StepCase state (.push count) { state with stream := stream }
  | finish
      {stream : Readable Row}
      (finished : state.stream.finish = some stream) :
      StepCase state .finish { state with stream := stream }
  | data
      {stream : Readable Row}
      {chunk : Row}
      (emitted : state.stream.emitData = some (stream, chunk)) :
      StepCase state .data (onData chunk { state with stream := stream })
  | endOfStream
      {stream : Readable Row}
      (emitted : state.stream.emitEnd = some stream) :
      StepCase state .endOfStream (onEnd { state with stream := stream })
  | fail
      {message : Option String}
      (unfinished : state.stream.endEmitted = false)
      (alive : state.stream.destroyed = false) :
      StepCase state (.fail message)
        (onError (.reason message) { state with sourceFailed := true })
  | resolve
      {index : Nat}
      (pends : index < state.pending.length) :
      StepCase state (.resolve index)
        { state with
          stream := state.stream.resume
          pending := state.pending.eraseIdx index }
  | reject
      {index : Nat}
      {error : Rejection}
      {chunk : Row}
      (pends : index < state.pending.length) :
      StepCase state (.reject index error)
        (onError error
          { state with
            pending := state.pending.eraseIdx index
            failures := state.failures ++ [chunk] })
  | release
      {outcome : PromiseOutcome}
      (decided : state.outcome = some outcome)
      (uncompleted : state.completed = none) :
      StepCase state .release
        { state with
          stream := state.stream.destroy
          completed := some outcome }

/-- Every step is one of the cases. -/
theorem step_cases
    {state next : DataStream Row}
    {event : StreamEvent}
    (stepped : state.step event = some next) :
    state.StepCase event next := by
  cases event with
  | push count =>
      obtain ⟨stream, pushed, rfl⟩ := Option.map_eq_some_iff.mp stepped
      exact .push pushed
  | finish =>
      obtain ⟨stream, finished, rfl⟩ := Option.map_eq_some_iff.mp stepped
      exact .finish finished
  | data =>
      obtain ⟨⟨stream, chunk⟩, emitted, rfl⟩ :=
        Option.map_eq_some_iff.mp stepped
      exact .data emitted
  | endOfStream =>
      obtain ⟨stream, emitted, rfl⟩ := Option.map_eq_some_iff.mp stepped
      exact .endOfStream emitted
  | fail message =>
      simp only [step] at stepped
      split at stepped
      next enabled =>
        obtain rfl := Option.some.inj stepped
        exact .fail enabled.1 enabled.2
      next => cases stepped
  | resolve index =>
      simp only [step] at stepped
      split at stepped
      next pends =>
        obtain rfl := Option.some.inj stepped
        exact .resolve pends
      next => cases stepped
  | reject index error =>
      simp only [step] at stepped
      split at stepped
      next chunk found =>
        obtain rfl := Option.some.inj stepped
        exact .reject (List.getElem?_eq_some_iff.mp found).1
      next => cases stepped
  | release =>
      simp only [step] at stepped
      split at stepped
      next decided uncompleted =>
        obtain rfl := Option.some.inj stepped
        exact .release decided uncompleted
      next => cases stepped

/-! ## What holds in every state -/

/-- What the listeners and the stream agree on. -/
structure Coherent (rows : List Row) (state : DataStream Row) : Prop where
  inOrder : state.started ++ state.stream.remaining = rows
  oneAtATime : state.pending.length ≤ 1
  flows : state.stream.flowing = true → state.pending = []
  waits :
    state.stream.flowing = false → state.pending ≠ [] ∨ state.failures ≠ []
  noneFailed : state.pending ≠ [] → state.failures = []
  stops : state.failures ≠ [] → state.stream.destroyed = true
  endsLast : state.stream.ended = true → state.stream.source = []
  drained : state.stream.endEmitted = true → state.stream.remaining = []
  ended :
    state.outcome = some .resolved ↔ state.stream.endEmitted = true
  broken : state.outcome = some .rejected → state.stream.destroyed = true
  blamed :
    state.outcome = some .rejected →
      state.failures ≠ [] ∨ state.sourceFailed = true
  sourceRejects :
    state.sourceFailed = true → state.outcome = some .rejected
  undecided :
    state.outcome = none →
      state.stream.destroyed = true → state.failures ≠ []
  agrees :
    ∀ outcome, state.completed = some outcome →
      state.outcome = some outcome ∧ state.stream.destroyed = true

variable {rows : List Row} {state next : DataStream Row}

/-- A rejected promise stays rejected. -/
theorem settle_of_rejected
    {outcome : PromiseOutcome}
    (rejected : state.outcome = some .rejected) :
    (state.settle outcome).outcome = some .rejected := by
  simp [settle, rejected]

/-- When the promise is rejected after the error listener. -/
theorem onError_outcome
    {error : Rejection} :
    (onError error state).outcome = some .rejected ↔
      state.outcome = some .rejected ∨
        state.outcome = none ∧ error ≠ .nullish := by
  cases error <;>
    cases decided : state.outcome <;>
    simp [onError, settle, decided]

@[simp] theorem onError_failures
    {error : Rejection} :
    (onError error state).failures = state.failures := by
  cases error <;> rfl

@[simp] theorem onError_pending
    {error : Rejection} :
    (onError error state).pending = state.pending := by
  cases error <;> rfl

/-- The state before the first event. -/
theorem listening_coherent : (listening rows).Coherent rows := by
  constructor <;> simp [listening, Readable.listened, Readable.remaining]

/-- The producer's part. -/
theorem Coherent.produce
    {stream : Readable Row}
    (coherent : state.Coherent rows)
    (same : stream.remaining = state.stream.remaining)
    (endsLast : stream.ended = true → stream.source = [])
    (rest :
      stream =
        { state.stream with
          source := stream.source
          buffer := stream.buffer
          ended := stream.ended }) :
    Coherent rows { state with stream := stream } := by
  obtain ⟨source, buffer, ended, flowing, endEmitted, destroyed⟩ := stream
  simp only [Readable.mk.injEq, true_and] at rest
  obtain ⟨rfl, rfl, rfl⟩ := rest
  exact
    { coherent with
      inOrder := same ▸ coherent.inOrder
      endsLast := endsLast
      drained := fun emitted => same ▸ coherent.drained emitted }

/-- A call is started. -/
theorem Coherent.onData
    {stream : Readable Row}
    {chunk : Row}
    (coherent : state.Coherent rows)
    (emitted : state.stream.emitData = some (stream, chunk)) :
    Coherent rows (DataStream.onData chunk { state with stream := stream }) := by
  obtain ⟨flowing, alive, remaining, _, changed⟩ :=
    Readable.emitData_cases emitted
  have idle := coherent.flows flowing
  have unfinished : state.stream.endEmitted ≠ true := by
    intro finished
    rw [coherent.drained finished] at remaining
    cases remaining
  have noFailure : state.failures = [] := by
    by_contra failed
    rw [coherent.stops failed] at alive
    cases alive
  rw [changed]
  exact
    { inOrder := by
        rw [← coherent.inOrder, remaining, changed]
        simp [DataStream.onData, Readable.remaining, Readable.pause]
      oneAtATime := by simp [DataStream.onData, idle]
      flows := nofun
      waits := fun _ => .inl (by simp [DataStream.onData])
      noneFailed := fun _ => noFailure
      stops := coherent.stops
      endsLast := coherent.endsLast
      drained := fun finished => absurd finished unfinished
      ended := coherent.ended
      broken := coherent.broken
      blamed := coherent.blamed
      sourceRejects := coherent.sourceRejects
      undecided := coherent.undecided
      agrees := coherent.agrees }

/-- While the stream goes on, nothing has been settled. -/
theorem Coherent.unsettled
    (coherent : state.Coherent rows)
    (unfinished : state.stream.endEmitted = false)
    (alive : state.stream.destroyed = false) :
    state.outcome = none ∧ state.completed = none := by
  constructor
  · cases decided : state.outcome with
    | none => rfl
    | some outcome =>
        cases outcome with
        | resolved =>
            rw [coherent.ended.mp decided] at unfinished
            cases unfinished
        | rejected =>
            rw [coherent.broken decided] at alive
            cases alive
  · cases completed : state.completed with
    | none => rfl
    | some outcome =>
        rw [(coherent.agrees outcome completed).2] at alive
        cases alive

/-- The end is emitted. -/
theorem Coherent.onEnd
    {stream : Readable Row}
    (coherent : state.Coherent rows)
    (emitted : state.stream.emitEnd = some stream) :
    Coherent rows (DataStream.onEnd { state with stream := stream }) := by
  obtain ⟨ended, buffer, unfinished, alive, rfl⟩ :=
    Readable.emitEnd_cases emitted
  obtain ⟨undecided, uncompleted⟩ := coherent.unsettled unfinished alive
  have noSourceFailure : state.sourceFailed ≠ true := by
    intro failed
    rw [coherent.sourceRejects failed] at undecided
    cases undecided
  exact
    { coherent with
      drained := fun _ => by
        simp [Readable.remaining, DataStream.onEnd, settle, buffer,
          coherent.endsLast ended]
      ended := by simp [DataStream.onEnd, settle, undecided]
      broken := by simp [DataStream.onEnd, settle, undecided]
      blamed := by simp [DataStream.onEnd, settle, undecided]
      sourceRejects := fun failed => absurd failed noSourceFailure
      undecided := by simp [DataStream.onEnd, settle, undecided]
      agrees := by simp [DataStream.onEnd, settle, uncompleted] }

/-- After a pending call has settled, none is pending. -/
theorem Coherent.idle_after
    {index : Nat}
    (coherent : state.Coherent rows)
    (pends : index < state.pending.length) :
    state.pending.eraseIdx index = [] := by
  have atMostOne := coherent.oneAtATime
  apply List.eq_nil_of_length_eq_zero
  rw [List.length_eraseIdx_of_lt pends]
  omega

/-- A call resolves. -/
theorem Coherent.resolve
    (coherent : state.Coherent rows) :
    Coherent rows
      { state with stream := state.stream.resume, pending := [] } :=
  { coherent with
    oneAtATime := Nat.zero_le _
    flows := fun _ => rfl
    waits := nofun
    noneFailed := fun pending => absurd rfl pending }

/-- A call rejects. -/
theorem Coherent.reject
    {chunk : Row}
    (coherent : state.Coherent rows)
    (error : Rejection) :
    Coherent rows
      (DataStream.onError error
        { state with
          pending := []
          failures := state.failures ++ [chunk] }) := by
  have fails : state.failures ++ [chunk] ≠ [] := by simp
  have stopped :
      Coherent rows
        { state with
          stream := state.stream.destroy
          pending := []
          failures := state.failures ++ [chunk] } :=
    { coherent with
      oneAtATime := Nat.zero_le _
      flows := fun _ => rfl
      waits := fun _ => .inr fails
      noneFailed := fun pending => absurd rfl pending
      stops := fun _ => rfl
      broken := fun _ => rfl
      blamed := fun _ => .inl fails
      undecided := fun _ _ => fails
      agrees := fun outcome completed =>
        ⟨(coherent.agrees outcome completed).1, rfl⟩ }
  cases error with
  | nullish => exact stopped
  | reason message =>
      cases decided : state.outcome with
      | some outcome =>
          have unchanged := stopped
          simpa [DataStream.onError, settle, decided] using unchanged
      | none =>
          exact
            { stopped with
              ended := by
                have open_ := coherent.ended
                simpa [DataStream.onError, settle, decided,
                  Readable.destroy] using open_
              broken := fun _ => rfl
              blamed := fun _ => .inl fails
              sourceRejects := fun _ => by
                simp [DataStream.onError, settle]
              undecided := fun _ _ => fails
              agrees := fun outcome completed => by
                have agreed := (coherent.agrees outcome completed).1
                rw [decided] at agreed
                cases agreed }

/-- The source fails. -/
theorem Coherent.fail
    {message : Option String}
    (coherent : state.Coherent rows)
    (unfinished : state.stream.endEmitted = false)
    (alive : state.stream.destroyed = false) :
    Coherent rows
      (DataStream.onError (.reason message)
        { state with sourceFailed := true }) := by
  obtain ⟨undecided, uncompleted⟩ := coherent.unsettled unfinished alive
  exact
    { coherent with
      stops := fun _ => rfl
      ended := by
        simp [DataStream.onError, settle, undecided, Readable.destroy,
          unfinished]
      broken := fun _ => rfl
      blamed := fun _ => .inr rfl
      sourceRejects := fun _ => by
        simp [DataStream.onError, settle, undecided]
      undecided := by simp [DataStream.onError, settle, undecided]
      agrees := by simp [DataStream.onError, settle, uncompleted] }

/-- The connection has been given back. -/
theorem Coherent.release
    {outcome : PromiseOutcome}
    (coherent : state.Coherent rows)
    (decided : state.outcome = some outcome) :
    Coherent rows
      { state with
        stream := state.stream.destroy
        completed := some outcome } :=
  { coherent with
    stops := fun _ => rfl
    broken := fun _ => rfl
    undecided := fun undecided => by
      rw [decided] at undecided
      cases undecided
    agrees := fun other completed => by
      obtain rfl := Option.some.inj completed
      exact ⟨decided, rfl⟩ }

/-- An event keeps the state coherent. -/
theorem Coherent.step
    {event : StreamEvent}
    (coherent : state.Coherent rows)
    (stepped : state.step event = some next) :
    next.Coherent rows := by
  cases step_cases stepped with
  | push pushed =>
      obtain ⟨unfinished, same, rest⟩ := Readable.push_cases pushed
      refine coherent.produce same ?_ ?_
      · intro ended
        rw [rest] at ended
        rw [unfinished] at ended
        cases ended
      · rw [rest]
  | finish finished =>
      obtain ⟨exhausted, rfl⟩ := Readable.finish_cases finished
      exact coherent.produce rfl (fun _ => exhausted) rfl
  | data emitted => exact coherent.onData emitted
  | endOfStream emitted => exact coherent.onEnd emitted
  | fail unfinished alive => exact coherent.fail unfinished alive
  | resolve pends =>
      rw [coherent.idle_after pends]
      exact coherent.resolve
  | reject pends =>
      rw [coherent.idle_after pends]
      exact coherent.reject _
  | release decided => exact coherent.release decided

/-- A bound on the number of events to come. -/
def ahead (state : DataStream Row) : Nat :=
  state.stream.ahead + state.pending.length + state.completed.isNone.toNat

/-- After the error listener no more can happen than before. -/
theorem onError_ahead
    {error : Rejection} :
    (onError error state).ahead + (!state.stream.destroyed).toNat =
      state.ahead := by
  have destroyed := state.stream.destroy_ahead
  cases error <;>
    simp only [onError, settle, ahead] <;>
    omega

/-- Every event brings the end nearer. -/
theorem step_ahead
    {event : StreamEvent}
    (stepped : state.step event = some next) :
    next.ahead < state.ahead := by
  cases step_cases stepped with
  | push pushed =>
      have nearer := Readable.push_ahead pushed
      simp only [ahead]
      omega
  | finish finished =>
      have nearer := Readable.finish_ahead finished
      simp only [ahead]
      omega
  | @data stream chunk emitted =>
      have nearer := Readable.emitData_ahead emitted
      have paused : stream.pause.ahead = stream.ahead := rfl
      simp only [ahead, onData, paused, List.length_append,
        List.length_singleton]
      omega
  | endOfStream emitted =>
      have nearer := Readable.emitEnd_ahead emitted
      simp only [ahead, onEnd, settle]
      omega
  | @fail message unfinished alive =>
      have nearer :
          (onError (.reason message)
                { state with sourceFailed := true }).ahead +
              (!state.stream.destroyed).toNat =
            state.ahead :=
        onError_ahead
      rw [alive] at nearer
      simp only [Bool.not_false, Bool.toNat_true] at nearer
      omega
  | resolve pends =>
      have resumed : state.stream.resume.ahead = state.stream.ahead := rfl
      simp only [ahead, resumed, List.length_eraseIdx_of_lt pends]
      omega
  | reject pends =>
      refine Nat.lt_of_le_of_lt (onError_ahead ▸ Nat.le_add_right _ _) ?_
      simp only [ahead, List.length_eraseIdx_of_lt pends]
      omega
  | release decided uncompleted =>
      have destroyed := state.stream.destroy_ahead
      simp only [ahead, uncompleted, Option.isNone_none,
        Option.isNone_some, Bool.toNat_true, Bool.toNat_false]
      omega

/-! ## Runs -/

/-- A run of the stream is a run of events. -/
theorem run?_eq
    (start : DataStream Row)
    (events : List StreamEvent) :
    start.run? events =
      EventRun.run? (fun state event => state.step event) start events := by
  induction events generalizing start with
  | nil => rfl
  | cons event rest inductionHypothesis =>
      simp only [run?, inductionHypothesis]
      rfl

/-- A run in two parts. -/
theorem run?_append
    (start : DataStream Row)
    (before rest : List StreamEvent) :
    start.run? (before ++ rest) =
      (start.run? before).bind (fun middle => middle.run? rest) := by
  simp only [run?_eq]
  exact EventRun.run?_append before rest

/-- Every state of a run is coherent. -/
theorem Coherent.run
    {events : List StreamEvent}
    (coherent : state.Coherent rows)
    (ran : state.run? events = some next) :
    next.Coherent rows := by
  rw [run?_eq] at ran
  refine EventRun.keeps ?_ ran coherent
  intro _ _ _ _ kept stepped
  exact kept.step stepped

/-- A run is not longer than what was ahead. -/
theorem length_le_ahead
    {events : List StreamEvent}
    (ran : state.run? events = some next) :
    events.length ≤ state.ahead := by
  rw [run?_eq] at ran
  exact EventRun.length_le step_ahead ran

/-! ## What depends on the calls -/

/--
What a call that settles late may spoil: a failure is told by the promise, and
a resolved promise leaves no call pending.
-/
structure Truthful (state : DataStream Row) : Prop where
  tells : state.failures ≠ [] → state.outcome = some .rejected
  waits : state.completed = some .resolved → state.pending = []

/--
When nothing can happen any more and no call has failed, the promise inside has
been settled: a stream that goes on has an event left.
-/
theorem Coherent.decided_of_over
    (coherent : state.Coherent rows)
    (isOver : state.Over)
    (noFailure : state.failures = []) :
    state.outcome ≠ none := by
  intro undecided
  have idle : state.pending = [] := by
    by_contra pends
    have stepped := isOver (.resolve 0)
    simp [DataStream.step, List.length_pos_iff.mpr pends] at stepped
  have flows : state.stream.flowing = true := by
    cases flowing : state.stream.flowing with
    | true => rfl
    | false =>
        rcases coherent.waits flowing with pends | failed
        · exact absurd idle pends
        · exact absurd noFailure failed
  have alive : state.stream.destroyed = false := by
    by_contra destroyed
    exact coherent.undecided undecided (by simpa using destroyed) noFailure
  have unfinished : state.stream.endEmitted = false := by
    by_contra finished
    rw [coherent.ended.mpr (by simpa using finished)] at undecided
    cases undecided
  rcases Readable.goes_on flows alive unfinished with
    pushes | finishes | emits | ends
  · have stepped := isOver (.push 1)
    rw [DataStream.step, Option.map_eq_none_iff] at stepped
    simp [stepped] at pushes
  · have stepped := isOver .finish
    rw [DataStream.step, Option.map_eq_none_iff] at stepped
    simp [stepped] at finishes
  · have stepped := isOver .data
    rw [DataStream.step, Option.map_eq_none_iff] at stepped
    simp [stepped] at emits
  · have stepped := isOver .endOfStream
    rw [DataStream.step, Option.map_eq_none_iff] at stepped
    simp [stepped] at ends

/-- Once the promise inside has been settled, so is the function in the end. -/
theorem completed_of_over
    (isOver : state.Over)
    (decided : state.outcome ≠ none) :
    state.completed ≠ none := by
  intro uncompleted
  obtain ⟨outcome, isOutcome⟩ := Option.ne_none_iff_exists'.mp decided
  have stepped := isOver .release
  simp [DataStream.step, isOutcome, uncompleted] at stepped

/-- When nothing can happen any more, the promise has been settled as due. -/
theorem Coherent.settled
    (coherent : state.Coherent rows)
    (truthful : state.Truthful)
    (isOver : state.Over) :
    state.completed = some state.due := by
  have decided : state.outcome ≠ none := by
    intro undecided
    have noFailure : state.failures = [] := by
      by_contra failed
      rw [truthful.tells failed] at undecided
      cases undecided
    exact coherent.decided_of_over isOver noFailure undecided
  cases completed : state.completed with
  | none => exact absurd completed (completed_of_over isOver decided)
  | some outcome =>
      have agreed := (coherent.agrees outcome completed).1
      congr 1
      unfold due
      split
      next blameless =>
        cases outcome with
        | resolved => rfl
        | rejected =>
            rcases coherent.blamed agreed with failed | failed
            · exact absurd blameless.1 failed
            · rw [blameless.2] at failed
              cases failed
      next blame =>
        have rejects : state.outcome = some .rejected := by
          by_cases failed : state.failures = []
          · apply coherent.sourceRejects
            simpa [failed] using blame
          · exact truthful.tells failed
        exact Option.some.inj (agreed.symm.trans rejects)

/-- Of a coherent state, only the two parts that calls may spoil are open. -/
theorem Coherent.handled_iff_truthful
    (coherent : state.Coherent rows) :
    state.Handled rows ↔ state.Truthful := by
  constructor
  · intro handled
    exact ⟨handled.rejects, fun resolved => (handled.allBefore resolved).2.1⟩
  · intro truthful
    refine ⟨coherent.inOrder, coherent.oneAtATime, ?_, truthful.tells,
      coherent.settled truthful⟩
    intro resolved
    have decided := (coherent.agrees _ resolved).1
    have drained := coherent.drained (coherent.ended.mp decided)
    have inOrder := coherent.inOrder
    rw [drained, List.append_nil] at inOrder
    refine ⟨inOrder, truthful.waits resolved, ?_⟩
    by_contra failed
    rw [truthful.tells failed] at decided
    cases decided

/-- A failed call is told exactly if it fails in time. -/
theorem Coherent.tells_reject_iff
    {error : Rejection}
    {failed : DataStream Row}
    (coherent : state.Coherent rows)
    (noFailure : state.failures = [])
    (sameOutcome : failed.outcome = state.outcome) :
    (onError error failed).outcome = some .rejected ↔
      state.stream.endEmitted = false ∧
        (error = .nullish → state.sourceFailed = true) := by
  rw [onError_outcome, sameOutcome]
  constructor
  · intro rejects
    constructor
    · by_contra finished
      have resolved := coherent.ended.mpr (by simpa using finished)
      rcases rejects with already | ⟨undecided, _⟩
      · rw [resolved] at already
        cases already
      · rw [resolved] at undecided
        cases undecided
    · intro nullish
      rcases rejects with already | ⟨_, readable⟩
      · exact (coherent.blamed already).resolve_left
          (fun failed => failed noFailure)
      · exact absurd nullish readable
  · rintro ⟨unfinished, blamed⟩
    cases decided : state.outcome with
    | none =>
        refine .inr ⟨rfl, ?_⟩
        intro nullish
        rw [coherent.sourceRejects (blamed nullish)] at decided
        cases decided
    | some outcome =>
        cases outcome with
        | rejected => exact .inl rfl
        | resolved =>
            rw [coherent.ended.mp decided] at unfinished
            cases unfinished

/-- Calls that settle in time are all that is needed. -/
theorem Coherent.truthful_iff_timely
    {event : StreamEvent}
    (coherent : state.Coherent rows)
    (truthful : state.Truthful)
    (stepped : state.step event = some next) :
    next.Truthful ↔ Timely event state := by
  cases step_cases stepped with
  | push => exact iff_of_true ⟨truthful.tells, truthful.waits⟩ trivial
  | finish => exact iff_of_true ⟨truthful.tells, truthful.waits⟩ trivial
  | data emitted =>
      obtain ⟨-, alive, -⟩ := Readable.emitData_cases emitted
      refine iff_of_true ⟨truthful.tells, ?_⟩ trivial
      intro completed
      have destroyed := (coherent.agrees _ completed).2
      rw [alive] at destroyed
      cases destroyed
  | endOfStream =>
      refine iff_of_true ⟨?_, truthful.waits⟩ trivial
      intro failed
      exact settle_of_rejected (truthful.tells failed)
  | fail =>
      refine iff_of_true ⟨?_, truthful.waits⟩ trivial
      intro failed
      exact settle_of_rejected (truthful.tells failed)
  | resolve pends =>
      refine iff_of_true ⟨truthful.tells, ?_⟩ trivial
      intro _
      exact coherent.idle_after pends
  | @reject index error chunk pends =>
      have noFailure : state.failures = [] := by
        apply coherent.noneFailed
        intro idle
        simp [idle] at pends
      have told :
          (onError error
                { state with
                  pending := state.pending.eraseIdx index
                  failures := state.failures ++ [chunk] }).outcome =
              some .rejected ↔
            Timely (.reject index error) state :=
        coherent.tells_reject_iff noFailure rfl
      constructor
      · intro truthfulNext
        exact told.mp (truthfulNext.tells (by simp [onError_failures]))
      · intro timely
        refine ⟨fun _ => told.mpr timely, ?_⟩
        intro _
        rw [onError_pending]
        exact coherent.idle_after pends
  | release decided =>
      constructor
      · intro told finished
        rw [coherent.ended.mpr finished] at decided
        exact told.waits decided.symm
      · intro timely
        refine ⟨truthful.tells, ?_⟩
        intro resolved
        apply timely
        exact coherent.ended.mp (decided.trans resolved)

/--
No more than a bounded number of events can happen, so that the promise is not
left open for ever; and all states of a run handle the rows exactly when all
calls in it settle in time.
-/
theorem handled_iff_timely
    (rows : List Row)
    (events : List StreamEvent) :
    (((listening rows).run? events).isSome →
        events.length ≤ 3 * rows.length + 4) ∧
      ((∀ state,
          (listening rows).Visits events state → state.Handled rows) ↔
        ∀ before event rest state,
          events = before ++ event :: rest →
            (listening rows).run? before = some state →
              (state.step event).isSome →
                Timely event state) := by
  have coherent :
      ∀ {before : List StreamEvent} {state : DataStream Row},
        (listening rows).run? before = some state →
          state.Coherent rows :=
    fun ran => listening_coherent.run ran
  constructor
  · intro ran
    obtain ⟨final, ran⟩ := Option.isSome_iff_exists.mp ran
    have short := length_le_ahead ran
    simpa [ahead, listening, Readable.ahead, Readable.listened] using short
  constructor
  · intro always before event rest state split ran enabled
    obtain ⟨next, stepped⟩ := Option.isSome_iff_exists.mp enabled
    have ranNext :
        (listening rows).run? (before ++ [event]) = some next := by
      simp [run?_append, ran, run?, stepped]
    have handled := always state ⟨before, event :: rest, split, ran⟩
    have nextHandled :=
      always next ⟨before ++ [event], rest, by simp [split], ranNext⟩
    have truthful := (coherent ran).handled_iff_truthful.mp handled
    have nextTruthful :=
      (coherent ranNext).handled_iff_truthful.mp nextHandled
    exact ((coherent ran).truthful_iff_timely truthful stepped).mp
      nextTruthful
  · rintro timely state ⟨before, rest, split, ran⟩
    apply (coherent ran).handled_iff_truthful.mpr
    -- By induction on the events so far, of which the last is the newest.
    induction before using List.reverseRecOn generalizing rest state with
    | nil =>
        obtain rfl := Option.some.inj ran
        refine ⟨fun failed => absurd rfl failed, ?_⟩
        intro resolved
        cases resolved
    | append_singleton before event inductionHypothesis =>
        rw [run?_append] at ran
        obtain ⟨middle, ranBefore, last⟩ := Option.bind_eq_some_iff.mp ran
        obtain ⟨next, stepped, done⟩ := Option.bind_eq_some_iff.mp last
        obtain rfl := Option.some.inj done
        have earlier : events = before ++ event :: rest := by
          simp [split]
        have truthful :=
          inductionHypothesis middle (event :: rest) earlier ranBefore
        refine ((coherent ranBefore).truthful_iff_timely truthful
          stepped).mpr ?_
        exact timely before event rest middle earlier ranBefore
          (by simp [stepped])

/--
The end comes while the only call is pending: the promise is resolved, the
connection is given back, and then the call rejects.
-/
theorem resolved_before_last_call :
    ∃ state : DataStream Nat,
      (listening [0]).run?
            [.push 1, .finish, .data, .endOfStream, .release,
              .reject 0 (.reason (some "late"))] =
          some state ∧
        state.completed = some .resolved ∧
        state.failures = [0] ∧
        ¬ state.Handled [0] := by
  refine ⟨_, rfl, rfl, rfl, ?_⟩
  intro handled
  exact absurd (handled.allBefore rfl).2.2 (by decide)

end DataStream

end NestBackend
