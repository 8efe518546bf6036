import Mathlib.Data.List.Basic

namespace NestBackend

/-!
# A readable stream in flowing mode

A producer pushes rows into a buffer and signals when it has no more.  While the
stream flows, the rows leave the buffer one by one as data events; when it is
paused they stay.  The end is emitted once, when the producer has signalled it
and the buffer is empty, also while the stream is paused.  A stream that has been
destroyed takes no rows and emits nothing.
-/

/-- A readable stream, with the rows that the producer still has to push. -/
structure Readable (Row : Type) where
  source : List Row
  buffer : List Row
  ended : Bool
  flowing : Bool
  endEmitted : Bool
  destroyed : Bool

namespace Readable

variable {Row : Type}

/-- A stream to which a data listener has been attached. -/
def listened (rows : List Row) : Readable Row where
  source := rows
  buffer := []
  ended := false
  flowing := true
  endEmitted := false
  destroyed := false

/-- `pause`. -/
def pause (stream : Readable Row) : Readable Row :=
  { stream with flowing := false }

/-- `resume`. -/
def resume (stream : Readable Row) : Readable Row :=
  { stream with flowing := true }

/-- `destroy`. -/
def destroy (stream : Readable Row) : Readable Row :=
  { stream with destroyed := true }

/-- The producer pushes one or more rows at once. -/
def push
    (count : Nat)
    (stream : Readable Row) : Option (Readable Row) :=
  if
      0 < count ∧ count ≤ stream.source.length ∧
        stream.ended = false ∧ stream.destroyed = false then
    some
      { stream with
        source := stream.source.drop count
        buffer := stream.buffer ++ stream.source.take count }
  else
    none

/-- The producer signals the end. -/
def finish (stream : Readable Row) : Option (Readable Row) :=
  match stream.source with
  | [] =>
      if stream.ended = false ∧ stream.destroyed = false then
        some { stream with ended := true }
      else
        none
  | _ :: _ => none

/-- The next row leaves the buffer as a data event. -/
def emitData (stream : Readable Row) : Option (Readable Row × Row) :=
  match stream.buffer with
  | row :: rest =>
      if stream.flowing = true ∧ stream.destroyed = false then
        some ({ stream with buffer := rest }, row)
      else
        none
  | [] => none

/-- The end is emitted. -/
def emitEnd (stream : Readable Row) : Option (Readable Row) :=
  if
      stream.ended = true ∧ stream.buffer = [] ∧
        stream.endEmitted = false ∧ stream.destroyed = false then
    some { stream with endEmitted := true }
  else
    none

/-- The rows that have not left the stream, in their order. -/
def remaining (stream : Readable Row) : List Row :=
  stream.buffer ++ stream.source

/-- A bound on what can still happen; a data event leaves one thing to do. -/
def ahead (stream : Readable Row) : Nat :=
  3 * stream.source.length + 2 * stream.buffer.length +
    (!stream.ended).toNat + (!stream.endEmitted).toNat +
    (!stream.destroyed).toNat

variable {stream next : Readable Row}

@[simp] theorem remaining_pause : stream.pause.remaining = stream.remaining :=
  rfl

@[simp] theorem remaining_resume :
    stream.resume.remaining = stream.remaining :=
  rfl

@[simp] theorem remaining_destroy :
    stream.destroy.remaining = stream.remaining :=
  rfl

/-- What pushing changes. -/
theorem push_cases
    {count : Nat}
    (pushed : stream.push count = some next) :
    stream.ended = false ∧
      next.remaining = stream.remaining ∧
      next =
        { stream with source := next.source, buffer := next.buffer } := by
  unfold push at pushed
  split at pushed
  next enabled =>
    obtain rfl := Option.some.inj pushed
    refine ⟨enabled.2.2.1, ?_, rfl⟩
    simp [remaining]
  next => cases pushed

/-- What the signal of the end changes. -/
theorem finish_cases
    (finished : stream.finish = some next) :
    stream.source = [] ∧ next = { stream with ended := true } := by
  unfold finish at finished
  cases source : stream.source with
  | nil =>
      rw [source] at finished
      simp only at finished
      split at finished
      next => exact ⟨rfl, (Option.some.inj finished).symm⟩
      next => cases finished
  | cons row rest =>
      rw [source] at finished
      cases finished

/-- What a data event changes. -/
theorem emitData_cases
    {row : Row}
    (emitted : stream.emitData = some (next, row)) :
    stream.flowing = true ∧ stream.destroyed = false ∧
      stream.remaining = row :: next.remaining ∧
      stream.buffer ≠ [] ∧
      next = { stream with buffer := next.buffer } := by
  unfold emitData at emitted
  cases buffer : stream.buffer with
  | nil =>
      rw [buffer] at emitted
      cases emitted
  | cons head rest =>
      rw [buffer] at emitted
      simp only at emitted
      split at emitted
      next enabled =>
        obtain ⟨rfl, rfl⟩ := Prod.mk.inj (Option.some.inj emitted)
        exact ⟨enabled.1, enabled.2, by simp [remaining, buffer],
          List.cons_ne_nil _ _, rfl⟩
      next => cases emitted

/-- What the end event changes. -/
theorem emitEnd_cases
    (emitted : stream.emitEnd = some next) :
    stream.ended = true ∧ stream.buffer = [] ∧
      stream.endEmitted = false ∧ stream.destroyed = false ∧
      next = { stream with endEmitted := true } := by
  unfold emitEnd at emitted
  split at emitted
  next enabled =>
    exact ⟨enabled.1, enabled.2.1, enabled.2.2.1, enabled.2.2.2,
      (Option.some.inj emitted).symm⟩
  next => cases emitted

/--
A flowing stream that has not been destroyed can go on until its end has been
emitted.
-/
theorem goes_on
    (flowing : stream.flowing = true)
    (alive : stream.destroyed = false)
    (unfinished : stream.endEmitted = false) :
    (stream.push 1).isSome ∨ stream.finish.isSome ∨
      stream.emitData.isSome ∨ stream.emitEnd.isSome := by
  cases ended : stream.ended with
  | false =>
      cases source : stream.source with
      | nil => exact .inr (.inl (by simp [finish, source, ended, alive]))
      | cons row rest => exact .inl (by simp [push, source, ended, alive])
  | true =>
      cases buffer : stream.buffer with
      | nil =>
          exact .inr (.inr (.inr
            (by simp [emitEnd, buffer, ended, alive, unfinished])))
      | cons row rest =>
          exact .inr (.inr (.inl
            (by simp [emitData, buffer, flowing, alive])))

/-- Pushing brings the stream on. -/
theorem push_ahead
    {count : Nat}
    (pushed : stream.push count = some next) :
    next.ahead < stream.ahead := by
  unfold push at pushed
  split at pushed
  next enabled =>
    obtain rfl := Option.some.inj pushed
    have taken : min count stream.source.length = count :=
      Nat.min_eq_left enabled.2.1
    simp only [ahead, List.length_drop, List.length_append,
      List.length_take, taken]
    omega
  next => cases pushed

/-- The signal of the end brings the stream on. -/
theorem finish_ahead
    (finished : stream.finish = some next) :
    next.ahead < stream.ahead := by
  unfold finish at finished
  split at finished
  next =>
    split at finished
    next enabled =>
      obtain rfl := Option.some.inj finished
      simp only [ahead, enabled.1, Bool.not_true, Bool.not_false,
        Bool.toNat_true, Bool.toNat_false]
      omega
    next => cases finished
  next => cases finished

/-- A data event brings the stream on by two. -/
theorem emitData_ahead
    {row : Row}
    (emitted : stream.emitData = some (next, row)) :
    next.ahead + 2 = stream.ahead := by
  unfold emitData at emitted
  split at emitted
  next buffer =>
    split at emitted
    next =>
      obtain ⟨rfl, -⟩ := Prod.mk.inj (Option.some.inj emitted)
      simp only [ahead, buffer, List.length_cons]
      omega
    next => cases emitted
  next => cases emitted

/-- The end event brings the stream on. -/
theorem emitEnd_ahead
    (emitted : stream.emitEnd = some next) :
    next.ahead < stream.ahead := by
  obtain ⟨-, -, unfinished, -, rfl⟩ := emitEnd_cases emitted
  simp only [ahead, unfinished, Bool.not_true, Bool.not_false,
    Bool.toNat_true, Bool.toNat_false]
  omega

/-- Destroying a stream brings it on, if it has not been destroyed before. -/
theorem destroy_ahead :
    stream.destroy.ahead + (!stream.destroyed).toNat = stream.ahead := by
  simp [ahead, destroy]

end Readable

end NestBackend
