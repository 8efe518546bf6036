import NestBackend.StoreProgram

namespace NestBackend

/-!
# Rely/guarantee contracts on single entries

A contract says what a program may assume of every entry it reads, what it
promises of every entry it writes, and what it ensures of its outcome.  The
assumptions concern one entry at a time, so other programs cannot invalidate
them as long as they keep the same promise; deletions and expiry never can.
-/

namespace ExpiringStore

variable {Key Value : Type} [DecidableEq Key]

/-- Every entry, live or expired, is as `good` says. -/
def Conforms
    (good : Key → Value → Prop)
    (store : ExpiringStore Key Value) : Prop :=
  ∀ key entry, store.lookup key = some entry → good key entry.value

namespace Conforms

variable {good : Key → Value → Prop} {store : ExpiringStore Key Value}

/-- What is read from a conforming store is good. -/
theorem read
    (conforms : Conforms good store)
    {now : Nat}
    {key : Key}
    {value : Value}
    (found : store.read now key = some value) :
    good key value := by
  obtain ⟨entry, lookup, -, rfl⟩ := read_eq_some.mp found
  exact conforms key entry lookup

theorem write
    (conforms : Conforms good store)
    {key : Key}
    {value : Value}
    (goodValue : good key value)
    (now lifetime : Nat) :
    Conforms good (store.write now key lifetime value) := by
  intro query entry lookup
  by_cases sameKey : query = key
  · subst query
    rw [lookup_write_same] at lookup
    cases lookup
    exact goodValue
  · rw [store.lookup_write_other sameKey] at lookup
    exact conforms query entry lookup

theorem remove
    (conforms : Conforms good store)
    (key : Key) :
    Conforms good (store.remove key) := by
  intro query entry lookup
  by_cases sameKey : query = key
  · subst query
    rw [lookup_remove_same] at lookup
    cases lookup
  · rw [store.lookup_remove_other sameKey] at lookup
    exact conforms query entry lookup

theorem setex
    {backend : Backend Key Value}
    (conforms : Conforms good backend.store)
    {key : Key}
    {value : Value}
    (goodValue : good key value)
    (now : Nat)
    (seconds : Option Int) :
    Conforms good (backend.setex now key seconds value).1.store := by
  unfold Backend.setex
  split
  · exact conforms
  · split
    · exact conforms.write goodValue now _
    · exact conforms

end Conforms

/-- A key is absent exactly when every entry lies under another key. -/
theorem conforms_ne_iff
    {store : ExpiringStore Key Value}
    {key : Key} :
    Conforms (fun query _ => query ≠ key) store ↔
      store.lookup key = none := by
  constructor
  · intro conforms
    cases found : store.lookup key with
    | none => rfl
    | some entry => exact (conforms key entry found rfl).elim
  · intro absent query entry lookup sameKey
    rw [sameKey, absent] at lookup
    cases lookup

end ExpiringStore

namespace StoreProgram

variable {Key Value Failure Result Next : Type}

/--
The program relies on `rely` for what it reads, guarantees `guarantee` for
what it writes, and its outcome is as `ensures` says.  The replies to its
commands are otherwise arbitrary.
-/
def Satisfies
    (rely guarantee : Key → Value → Prop)
    (ensures : Except Failure Result → Prop) :
    StoreProgram Key Value Failure Result → Prop
  | .done outcome => ensures outcome
  | .clock next =>
      ∀ now, (next now).Satisfies rely guarantee ensures
  | .get key next =>
      ∀ reply,
        (∀ value, reply = .ok (some value) → rely key value) →
        (next reply).Satisfies rely guarantee ensures
  | .setex key _ value next =>
      guarantee key value ∧
        ∀ reply, (next reply).Satisfies rely guarantee ensures
  | .del _ next =>
      ∀ reply, (next reply).Satisfies rely guarantee ensures
  | .keys _ next =>
      ∀ reply, (next reply).Satisfies rely guarantee ensures
  | .detach _ next => next.Satisfies rely guarantee ensures

namespace Satisfies

variable
  {rely guarantee : Key → Value → Prop}
  {ensures : Except Failure Result → Prop}
  {program : StoreProgram Key Value Failure Result}

/-- Assume more, promise less, ensure less. -/
theorem mono
    {rely' guarantee' : Key → Value → Prop}
    {ensures' : Except Failure Result → Prop}
    (satisfies : program.Satisfies rely guarantee ensures)
    (relyMono : ∀ {key value}, rely' key value → rely key value)
    (guaranteeMono :
      ∀ {key value}, guarantee key value → guarantee' key value)
    (ensuresMono : ∀ {outcome}, ensures outcome → ensures' outcome) :
    program.Satisfies rely' guarantee' ensures' := by
  induction program with
  | done outcome =>
      exact ensuresMono satisfies
  | clock next inductionHypothesis =>
      exact fun now => inductionHypothesis now (satisfies now)
  | get key next inductionHypothesis =>
      intro reply relied
      exact inductionHypothesis reply
        (satisfies reply
          (fun value shape => relyMono (relied value shape)))
  | setex key seconds value next inductionHypothesis =>
      exact ⟨guaranteeMono satisfies.1,
        fun reply => inductionHypothesis reply (satisfies.2 reply)⟩
  | del key next inductionHypothesis =>
      exact fun reply => inductionHypothesis reply (satisfies reply)
  | keys accepts next inductionHypothesis =>
      exact fun reply => inductionHypothesis reply (satisfies reply)
  | detach chains next inductionHypothesis =>
      exact inductionHypothesis satisfies

/-- Sequencing: the rest has to meet the contract after every result. -/
theorem bind
    {rest : Result → StoreProgram Key Value Failure Next}
    {eventually : Except Failure Next → Prop}
    (satisfies :
      program.Satisfies rely guarantee (fun outcome =>
        match outcome with
        | .ok result => (rest result).Satisfies rely guarantee eventually
        | .error failure => eventually (.error failure))) :
    (program >>= rest).Satisfies rely guarantee eventually := by
  induction program with
  | done outcome =>
      cases outcome with
      | ok result => exact satisfies
      | error failure => exact satisfies
  | clock next inductionHypothesis =>
      exact fun now => inductionHypothesis now (satisfies now)
  | get key next inductionHypothesis =>
      exact fun reply relied =>
        inductionHypothesis reply (satisfies reply relied)
  | setex key seconds value next inductionHypothesis =>
      exact ⟨satisfies.1,
        fun reply => inductionHypothesis reply (satisfies.2 reply)⟩
  | del key next inductionHypothesis =>
      exact fun reply => inductionHypothesis reply (satisfies reply)
  | keys accepts next inductionHypothesis =>
      exact fun reply => inductionHypothesis reply (satisfies reply)
  | detach chains next inductionHypothesis =>
      exact inductionHypothesis satisfies

/-- Handling failures: the handler has to meet the contract after each. -/
theorem tryCatch
    {handler : Failure → StoreProgram Key Value Failure Result}
    (satisfies :
      program.Satisfies rely guarantee (fun outcome =>
        match outcome with
        | .ok result => ensures (.ok result)
        | .error failure =>
            (handler failure).Satisfies rely guarantee ensures)) :
    (program.tryCatch handler).Satisfies rely guarantee ensures := by
  induction program with
  | done outcome =>
      cases outcome with
      | ok result => exact satisfies
      | error failure => exact satisfies
  | clock next inductionHypothesis =>
      exact fun now => inductionHypothesis now (satisfies now)
  | get key next inductionHypothesis =>
      exact fun reply relied =>
        inductionHypothesis reply (satisfies reply relied)
  | setex key seconds value next inductionHypothesis =>
      exact ⟨satisfies.1,
        fun reply => inductionHypothesis reply (satisfies.2 reply)⟩
  | del key next inductionHypothesis =>
      exact fun reply => inductionHypothesis reply (satisfies reply)
  | keys accepts next inductionHypothesis =>
      exact fun reply => inductionHypothesis reply (satisfies reply)
  | detach chains next inductionHypothesis =>
      exact inductionHypothesis satisfies

variable [DecidableEq Key] {backend : Backend Key Value}

/-- One command, performed on a store the program may rely on. -/
theorem step
    (satisfies : program.Satisfies rely guarantee ensures)
    (conforms : backend.store.Conforms rely)
    (now : Nat) :
    (program.step now backend).2.Satisfies rely guarantee ensures := by
  induction program with
  | done outcome =>
      exact satisfies
  | clock next inductionHypothesis =>
      exact inductionHypothesis now (satisfies now)
  | get key next inductionHypothesis =>
      apply satisfies
      intro value found
      exact conforms.read (Except.ok.inj found)
  | setex key seconds value next inductionHypothesis =>
      exact satisfies.2 _
  | del key next inductionHypothesis =>
      exact satisfies _
  | keys accepts next inductionHypothesis =>
      exact satisfies _
  | detach chains next inductionHypothesis =>
      exact satisfies

/-- One command keeps a store whose entries the program may write. -/
theorem step_conforms
    (satisfies : program.Satisfies rely guarantee ensures)
    (guaranteeRely :
      ∀ {key value}, guarantee key value → rely key value)
    (conforms : backend.store.Conforms rely)
    (now : Nat) :
    (program.step now backend).1.store.Conforms rely := by
  induction program with
  | clock next inductionHypothesis =>
      exact inductionHypothesis now (satisfies now)
  | setex key seconds value next inductionHypothesis =>
      exact conforms.setex (guaranteeRely satisfies.1) now seconds
  | del key next inductionHypothesis =>
      exact conforms.remove key
  | done outcome => exact conforms
  | get key next inductionHypothesis => exact conforms
  | keys accepts next inductionHypothesis => exact conforms
  | detach chains next inductionHypothesis => exact conforms

/-- A whole run alone: the store stays good and the outcome is as ensured. -/
theorem run
    (satisfies : program.Satisfies rely guarantee ensures)
    (guaranteeRely :
      ∀ {key value}, guarantee key value → rely key value)
    (conforms : backend.store.Conforms rely)
    (clock : Nat → Nat) :
    (program.run clock backend).1.store.Conforms rely ∧
      ensures (program.run clock backend).2 := by
  induction program generalizing backend clock with
  | done outcome =>
      exact ⟨conforms, satisfies⟩
  | clock next inductionHypothesis =>
      exact inductionHypothesis (clock 0) (satisfies (clock 0))
        conforms clock
  | get key next inductionHypothesis =>
      refine inductionHypothesis _ (satisfies _ ?_) conforms _
      intro value found
      exact conforms.read (Except.ok.inj found)
  | setex key seconds value next inductionHypothesis =>
      exact inductionHypothesis _ (satisfies.2 _)
        (conforms.setex (guaranteeRely satisfies.1) _ seconds) _
  | del key next inductionHypothesis =>
      exact inductionHypothesis _ (satisfies _) (conforms.remove key) _
  | keys accepts next inductionHypothesis =>
      exact inductionHypothesis _ (satisfies _) conforms _
  | detach chains next inductionHypothesis =>
      have detached :
          (backend.detach chains).store.Conforms rely := conforms
      exact inductionHypothesis satisfies detached clock

end Satisfies

/-- While `key` is absent, the program does not write it. -/
def KeepsAbsent
    (key : Key)
    (program : StoreProgram Key Value Failure Result) : Prop :=
  program.Satisfies (fun query _ => query ≠ key)
    (fun query _ => query ≠ key) (fun _ => True)

end StoreProgram

end NestBackend
