import NestBackend.StoreProgram

namespace NestBackend

/-!
# Programs whose store may fail

A program runs alone, and every command of it may fail: before the store has
done anything, or after, when only the reply is lost.  The program cannot tell
the two apart.
-/

/-- How a command is served. -/
inductive Fault where
  | served
  /-- The command fails and does nothing. -/
  | refused
  /-- The command is performed, but its reply is lost. -/
  | lost
  deriving DecidableEq, Repr

/-- When and how a command is served. -/
structure Serving where
  instant : Nat
  fault : Fault
  deriving DecidableEq, Repr

namespace Fault

/-- What becomes of a reply. -/
def answer {Result : Type} (reply : Reply Result) : Fault → Reply Result
  | .served => reply
  | .refused => .error .unavailable
  | .lost => .error .unavailable

/-- What becomes of the store. -/
def perform {Store : Type} (before after : Store) : Fault → Store
  | .served => after
  | .refused => before
  | .lost => after

end Fault

/-- The commands from the one at `count` on. -/
def servingsFrom (serve : Nat → Serving) (count : Nat) : Nat → Serving :=
  fun index => serve (index + count)

@[simp] theorem servingsFrom_apply
    (serve : Nat → Serving)
    (count index : Nat) :
    servingsFrom serve count index = serve (index + count) :=
  rfl

@[simp] theorem servingsFrom_servingsFrom
    (serve : Nat → Serving)
    (first second : Nat) :
    servingsFrom (servingsFrom serve first) second =
      servingsFrom serve (second + first) := by
  funext index
  simp [Nat.add_assoc]

namespace StoreProgram

variable
  {Key Value Failure Result : Type}
  [DecidableEq Key]

/-- Run a program alone, with its commands served one after the other. -/
def runWith
    (serve : Nat → Serving)
    (backend : Backend Key Value) :
    StoreProgram Key Value Failure Result →
      Backend Key Value × Except Failure Result
  | .done outcome => (backend, outcome)
  | .clock next => runWith serve backend (next (serve 0).instant)
  | .get key next =>
      runWith (servingsFrom serve 1) backend
        (next
          ((serve 0).fault.answer
            (.ok (backend.store.read (serve 0).instant key))))
  | .setex key seconds value next =>
      let written := backend.setex (serve 0).instant key seconds value
      runWith (servingsFrom serve 1)
        ((serve 0).fault.perform backend written.1)
        (next ((serve 0).fault.answer written.2))
  | .del key next =>
      let deleted := backend.del (serve 0).instant key
      runWith (servingsFrom serve 1)
        ((serve 0).fault.perform backend deleted.1)
        (next ((serve 0).fault.answer (.ok deleted.2)))
  | .keys accepts next =>
      runWith (servingsFrom serve 1) backend
        (next
          ((serve 0).fault.answer
            (.ok (backend.store.scan (serve 0).instant accepts))))
  | .detach chains next => runWith serve (backend.detach chains) next

/-- Without faults, a program runs as it does anyway. -/
theorem runWith_served
    {serve : Nat → Serving}
    (served : ∀ index, (serve index).fault = .served)
    (program : StoreProgram Key Value Failure Result)
    (backend : Backend Key Value) :
    program.runWith serve backend =
      program.run (fun index => (serve index).instant) backend := by
  induction program generalizing serve backend with
  | done outcome => rfl
  | clock next inductionHypothesis =>
      exact inductionHypothesis _ served backend
  | get key next inductionHypothesis =>
      simp only [runWith, run, served, Fault.answer]
      exact inductionHypothesis _ (fun index => served (index + 1)) _
  | setex key seconds value next inductionHypothesis =>
      simp only [runWith, run, served, Fault.answer, Fault.perform]
      exact inductionHypothesis _ (fun index => served (index + 1)) _
  | del key next inductionHypothesis =>
      simp only [runWith, run, served, Fault.answer, Fault.perform]
      exact inductionHypothesis _ (fun index => served (index + 1)) _
  | keys accepts next inductionHypothesis =>
      simp only [runWith, run, served, Fault.answer]
      exact inductionHypothesis _ (fun index => served (index + 1)) _
  | detach chains next inductionHypothesis =>
      exact inductionHypothesis served _

/-- A failure that is caught without a further command. -/
theorem runWith_tryCatch
    (serve : Nat → Serving)
    (program : StoreProgram Key Value Failure Result)
    (caught : Failure → Except Failure Result)
    (backend : Backend Key Value) :
    (program.tryCatch (fun failure => .done (caught failure))).runWith serve
        backend =
      ((program.runWith serve backend).1,
        match (program.runWith serve backend).2 with
        | .ok result => .ok result
        | .error failure => caught failure) := by
  induction program generalizing serve backend with
  | done outcome => cases outcome <;> rfl
  | clock next inductionHypothesis => exact inductionHypothesis ..
  | get key next inductionHypothesis => exact inductionHypothesis ..
  | setex key seconds value next inductionHypothesis =>
      exact inductionHypothesis ..
  | del key next inductionHypothesis => exact inductionHypothesis ..
  | keys accepts next inductionHypothesis => exact inductionHypothesis ..
  | detach chains next inductionHypothesis => exact inductionHypothesis ..

end StoreProgram

end NestBackend
