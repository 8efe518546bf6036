import NestBackend.StoreProgram

namespace NestBackend

/-!
# Programs that run alone and may stop anywhere

`program.Alone keeps ensures backend` says of a program that runs alone from
`backend`, at whatever instants: `keeps` holds of what is stored before every
command, and `ensures` of the outcome and the backend at the end.  A program
that is given up after any number of commands therefore leaves a backend of
which `keeps` holds.
-/

namespace StoreProgram

variable
  {Key Value Failure Result Next : Type}
  [DecidableEq Key]

/-- What holds at every command and at the end of a run alone. -/
def Alone
    (keeps : Backend Key Value → Prop)
    (ensures : Except Failure Result → Backend Key Value → Prop) :
    StoreProgram Key Value Failure Result → Backend Key Value → Prop
  | .done outcome, backend => keeps backend ∧ ensures outcome backend
  | .clock next, backend => ∀ now, (next now).Alone keeps ensures backend
  | .get key next, backend =>
      keeps backend ∧
        ∀ now,
          (next (.ok (backend.store.read now key))).Alone keeps ensures
            backend
  | .setex key seconds value next, backend =>
      keeps backend ∧
        ∀ now,
          (next (backend.setex now key seconds value).2).Alone keeps
            ensures (backend.setex now key seconds value).1
  | .del key next, backend =>
      keeps backend ∧
        ∀ now,
          (next (.ok (backend.del now key).2)).Alone keeps ensures
            (backend.del now key).1
  | .keys accepts next, backend =>
      keeps backend ∧
        ∀ now,
          (next (.ok (backend.store.scan now accepts))).Alone keeps
            ensures backend
  | .detach chains next, backend =>
      next.Alone keeps ensures (backend.detach chains)

namespace Alone

variable
  {keeps : Backend Key Value → Prop}
  {ensures : Except Failure Result → Backend Key Value → Prop}
  {program : StoreProgram Key Value Failure Result}
  {backend : Backend Key Value}

/-- What is left when the program is given up. -/
theorem runFor
    (alone : program.Alone keeps ensures backend)
    (limit : Nat)
    (clock : Nat → Nat) :
    keeps (program.runFor limit clock backend) := by
  induction program generalizing backend limit clock with
  | done outcome => exact alone.1
  | clock next inductionHypothesis =>
      exact inductionHypothesis (clock 0) (alone (clock 0)) limit clock
  | get key next inductionHypothesis =>
      cases limit with
      | zero => exact alone.1
      | succ remaining =>
          exact inductionHypothesis _ (alone.2 (clock 0)) remaining _
  | setex key seconds value next inductionHypothesis =>
      cases limit with
      | zero => exact alone.1
      | succ remaining =>
          exact inductionHypothesis _ (alone.2 (clock 0)) remaining _
  | del key next inductionHypothesis =>
      cases limit with
      | zero => exact alone.1
      | succ remaining =>
          exact inductionHypothesis _ (alone.2 (clock 0)) remaining _
  | keys accepts next inductionHypothesis =>
      cases limit with
      | zero => exact alone.1
      | succ remaining =>
          exact inductionHypothesis _ (alone.2 (clock 0)) remaining _
  | detach chains next inductionHypothesis =>
      exact inductionHypothesis alone limit clock

/-- What holds at the end of a whole run. -/
theorem run
    (alone : program.Alone keeps ensures backend)
    (clock : Nat → Nat) :
    ensures (program.run clock backend).2 (program.run clock backend).1 := by
  induction program generalizing backend clock with
  | done outcome => exact alone.2
  | clock next inductionHypothesis =>
      exact inductionHypothesis (clock 0) (alone (clock 0)) clock
  | get key next inductionHypothesis =>
      exact inductionHypothesis _ (alone.2 (clock 0)) _
  | setex key seconds value next inductionHypothesis =>
      exact inductionHypothesis _ (alone.2 (clock 0)) _
  | del key next inductionHypothesis =>
      exact inductionHypothesis _ (alone.2 (clock 0)) _
  | keys accepts next inductionHypothesis =>
      exact inductionHypothesis _ (alone.2 (clock 0)) _
  | detach chains next inductionHypothesis =>
      exact inductionHypothesis alone clock

/-- Keep less and ensure less. -/
theorem mono
    {keeps' : Backend Key Value → Prop}
    {ensures' : Except Failure Result → Backend Key Value → Prop}
    (alone : program.Alone keeps ensures backend)
    (keepsMono : ∀ {backend}, keeps backend → keeps' backend)
    (ensuresMono :
      ∀ {outcome backend}, keeps backend → ensures outcome backend →
        ensures' outcome backend) :
    program.Alone keeps' ensures' backend := by
  induction program generalizing backend with
  | done outcome =>
      exact ⟨keepsMono alone.1, ensuresMono alone.1 alone.2⟩
  | clock next inductionHypothesis =>
      exact fun now => inductionHypothesis now (alone now)
  | get key next inductionHypothesis =>
      exact ⟨keepsMono alone.1,
        fun now => inductionHypothesis _ (alone.2 now)⟩
  | setex key seconds value next inductionHypothesis =>
      exact ⟨keepsMono alone.1,
        fun now => inductionHypothesis _ (alone.2 now)⟩
  | del key next inductionHypothesis =>
      exact ⟨keepsMono alone.1,
        fun now => inductionHypothesis _ (alone.2 now)⟩
  | keys accepts next inductionHypothesis =>
      exact ⟨keepsMono alone.1,
        fun now => inductionHypothesis _ (alone.2 now)⟩
  | detach chains next inductionHypothesis =>
      exact inductionHypothesis alone

/-- Sequencing: the rest starts where the program ended. -/
theorem bind
    {rest : Result → StoreProgram Key Value Failure Next}
    {eventually : Except Failure Next → Backend Key Value → Prop}
    (alone :
      program.Alone keeps
        (fun outcome after =>
          match outcome with
          | .ok result => (rest result).Alone keeps eventually after
          | .error failure => eventually (.error failure) after)
        backend) :
    (program >>= rest).Alone keeps eventually backend := by
  induction program generalizing backend with
  | done outcome =>
      cases outcome with
      | ok result => exact alone.2
      | error failure => exact alone
  | clock next inductionHypothesis =>
      exact fun now => inductionHypothesis now (alone now)
  | get key next inductionHypothesis =>
      exact ⟨alone.1, fun now => inductionHypothesis _ (alone.2 now)⟩
  | setex key seconds value next inductionHypothesis =>
      exact ⟨alone.1, fun now => inductionHypothesis _ (alone.2 now)⟩
  | del key next inductionHypothesis =>
      exact ⟨alone.1, fun now => inductionHypothesis _ (alone.2 now)⟩
  | keys accepts next inductionHypothesis =>
      exact ⟨alone.1, fun now => inductionHypothesis _ (alone.2 now)⟩
  | detach chains next inductionHypothesis =>
      exact inductionHypothesis alone

/-- Handling failures: the handler starts where the program failed. -/
theorem tryCatch
    {handler : Failure → StoreProgram Key Value Failure Result}
    (alone :
      program.Alone keeps
        (fun outcome after =>
          match outcome with
          | .ok result => ensures (.ok result) after
          | .error failure => (handler failure).Alone keeps ensures after)
        backend) :
    (program.tryCatch handler).Alone keeps ensures backend := by
  induction program generalizing backend with
  | done outcome =>
      cases outcome with
      | ok result => exact alone
      | error failure => exact alone.2
  | clock next inductionHypothesis =>
      exact fun now => inductionHypothesis now (alone now)
  | get key next inductionHypothesis =>
      exact ⟨alone.1, fun now => inductionHypothesis _ (alone.2 now)⟩
  | setex key seconds value next inductionHypothesis =>
      exact ⟨alone.1, fun now => inductionHypothesis _ (alone.2 now)⟩
  | del key next inductionHypothesis =>
      exact ⟨alone.1, fun now => inductionHypothesis _ (alone.2 now)⟩
  | keys accepts next inductionHypothesis =>
      exact ⟨alone.1, fun now => inductionHypothesis _ (alone.2 now)⟩
  | detach chains next inductionHypothesis =>
      exact inductionHypothesis alone

end Alone

end StoreProgram

end NestBackend
