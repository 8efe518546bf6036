import NestBackend.ExpiringStore

namespace NestBackend

/-!
# Asynchronous programs over an expiring store

A `StoreProgram` is an asynchronous function as the store sees it: a tree that
branches on the replies to its commands.  The code between two commands runs
when the earlier reply arrives, so a clock reading shares its instant with the
command that follows it.

One program has two executions here.  `step` performs a single command and
leaves the rest, for interleaving with other programs.  `run` performs a whole
program alone, each command at an instant of its own.

`Satisfies` is a rely/guarantee judgement on single entries: a program relies
on what it reads, guarantees what it writes, and ensures something about its
outcome.  Because it speaks of entries and not of whole stores, it survives
every interleaving.
-/

/-- Why a store command fails. -/
inductive StoreError where
  | invalidExpire
  | unavailable
  deriving DecidableEq, Repr

/-- What a command hands back to the program. -/
abbrev Reply (Result : Type) := Except StoreError Result

/--
The store, together with deletions that some program started without waiting
for them: each chain deletes its keys one after the other.
-/
structure Backend (Key Value : Type) where
  store : ExpiringStore Key Value
  chains : List (List Key)

/-- An asynchronous function, from its first command on. -/
inductive StoreProgram (Key Value Failure Result : Type) where
  | done (outcome : Except Failure Result)
  | clock
      (next : Nat → StoreProgram Key Value Failure Result)
  | get
      (key : Key)
      (next : Reply (Option Value) →
        StoreProgram Key Value Failure Result)
  | setex
      (key : Key)
      (seconds : Option Int)
      (value : Value)
      (next : Reply Bool → StoreProgram Key Value Failure Result)
  | del
      (key : Key)
      (next : Reply Nat → StoreProgram Key Value Failure Result)
  | keys
      (accepts : Key → Bool)
      (next : Reply (List Key) →
        StoreProgram Key Value Failure Result)
  | detach
      (chains : List (List Key))
      (next : StoreProgram Key Value Failure Result)

namespace Backend

variable {Key Value : Type} [DecidableEq Key]

/--
Write with a time to live in whole seconds.  A lifetime that is not a positive
integer is refused and changes nothing.
-/
def setex
    (backend : Backend Key Value)
    (now : Nat)
    (key : Key)
    (seconds : Option Int)
    (value : Value) : Backend Key Value × Reply Bool :=
  match seconds with
  | none => (backend, .error .invalidExpire)
  | some count =>
      if 0 < count then
        ({ backend with
            store :=
              backend.store.write now key (count.toNat * 1000) value },
          .ok true)
      else
        (backend, .error .invalidExpire)

/-- Delete one key and report how many live keys went. -/
def del
    (backend : Backend Key Value)
    (now : Nat)
    (key : Key) : Backend Key Value × Nat :=
  ({ backend with store := backend.store.remove key },
    if (backend.store.read now key).isSome then 1 else 0)

/-- Start chains of deletions that nobody waits for. -/
def detach
    (backend : Backend Key Value)
    (chains : List (List Key)) : Backend Key Value :=
  { backend with chains := backend.chains ++ chains }

@[simp] theorem setex_chains
    (backend : Backend Key Value)
    (now : Nat)
    (key : Key)
    (seconds : Option Int)
    (value : Value) :
    (backend.setex now key seconds value).1.chains =
      backend.chains := by
  unfold setex
  split
  · rfl
  · split <;> rfl

@[simp] theorem del_store
    (backend : Backend Key Value)
    (now : Nat)
    (key : Key) :
    (backend.del now key).1.store = backend.store.remove key := rfl

@[simp] theorem del_chains
    (backend : Backend Key Value)
    (now : Nat)
    (key : Key) :
    (backend.del now key).1.chains = backend.chains := rfl

omit [DecidableEq Key] in
@[simp] theorem detach_store
    (backend : Backend Key Value)
    (chains : List (List Key)) :
    (backend.detach chains).store = backend.store := rfl

omit [DecidableEq Key] in
@[simp] theorem detach_chains
    (backend : Backend Key Value)
    (chains : List (List Key)) :
    (backend.detach chains).chains = backend.chains ++ chains := rfl

/-- A positive lifetime is accepted. -/
theorem setex_of_pos
    (backend : Backend Key Value)
    (now : Nat)
    (key : Key)
    {count : Int}
    (positive : 0 < count)
    (value : Value) :
    backend.setex now key (some count) value =
      ({ backend with
          store :=
            backend.store.write now key (count.toNat * 1000) value },
        .ok true) := by
  simp [setex, positive]

/-- An accepted write had a positive lifetime, and is the whole effect. -/
theorem setex_ok
    {backend after : Backend Key Value}
    {now : Nat}
    {key : Key}
    {seconds : Option Int}
    {value : Value}
    {answer : Bool}
    (accepted :
      backend.setex now key seconds value = (after, .ok answer)) :
    ∃ count : Int,
      seconds = some count ∧ 0 < count ∧ answer = true ∧
        after =
          { backend with
            store :=
              backend.store.write now key (count.toNat * 1000) value } := by
  unfold setex at accepted
  split at accepted
  · simp at accepted
  · split at accepted
    · rename_i count positive
      simp only [Prod.mk.injEq, Except.ok.injEq] at accepted
      exact ⟨count, rfl, positive, accepted.2.symm, accepted.1.symm⟩
    · simp at accepted

/-- A write leaves every other key as it was. -/
theorem setex_lookup_other
    (backend : Backend Key Value)
    {key query : Key}
    (different : query ≠ key)
    (now : Nat)
    (seconds : Option Int)
    (value : Value) :
    (backend.setex now key seconds value).1.store.lookup query =
      backend.store.lookup query := by
  unfold setex
  split
  · rfl
  · split
    · exact ExpiringStore.lookup_write_other _ different ..
    · rfl

/-- Some of the detached deletions have happened in the meantime. -/
inductive Settles : Backend Key Value → Backend Key Value → Prop where
  | refl (backend : Backend Key Value) : Settles backend backend
  | drain
      {backend after : Backend Key Value}
      {index : Nat}
      {key : Key}
      {rest : List Key}
      (found : backend.chains[index]? = some (key :: rest))
      (later :
        Settles
          { store := backend.store.remove key
            chains := backend.chains.set index rest }
          after) :
      Settles backend after

/-- No detached deletion of the key is pending. -/
def Unmentioned (backend : Backend Key Value) (query : Key) : Prop :=
  ∀ chain ∈ backend.chains, query ∉ chain

/-- The key is absent, or a detached deletion of it is pending. -/
def Doomed (backend : Backend Key Value) (query : Key) : Prop :=
  backend.store.lookup query = none ∨
    ∃ chain ∈ backend.chains, query ∈ chain

section Drained

variable
  {backend : Backend Key Value}
  {query key : Key}
  {index : Nat}
  {rest : List Key}

omit [DecidableEq Key] in
/-- The next detached deletion is of another key. -/
theorem Unmentioned.different
    (unmentioned : backend.Unmentioned query)
    (found : backend.chains[index]? = some (key :: rest)) :
    query ≠ key := by
  intro same
  apply unmentioned _ (List.mem_of_getElem? found)
  rw [same]
  exact List.mem_cons_self ..

/-- One detached deletion mentions no new key. -/
theorem Unmentioned.drain
    (unmentioned : backend.Unmentioned query)
    (found : backend.chains[index]? = some (key :: rest)) :
    Unmentioned
      { store := backend.store.remove key
        chains := backend.chains.set index rest } query := by
  intro chain member
  rcases List.mem_or_eq_of_mem_set member with old | isRest
  · exact unmentioned chain old
  · rw [isRest]
    intro inRest
    exact unmentioned _ (List.mem_of_getElem? found)
      (List.mem_cons_of_mem key inRest)

/-- A detached deletion forgets a key only after deleting it. -/
theorem Doomed.drain
    (doomed : backend.Doomed query)
    (found : backend.chains[index]? = some (key :: rest)) :
    Doomed
      { store := backend.store.remove key
        chains := backend.chains.set index rest } query := by
  by_cases sameKey : query = key
  · left
    rw [sameKey, ExpiringStore.lookup_remove_same]
  rcases doomed with absent | ⟨chain, member, inChain⟩
  · left
    rw [ExpiringStore.lookup_remove_other _ sameKey, absent]
  · right
    obtain ⟨position, atPosition⟩ := List.mem_iff_getElem?.mp member
    by_cases samePosition : position = index
    · subst samePosition
      have sameChain : chain = key :: rest :=
        Option.some.inj (atPosition.symm.trans found)
      have inRest : query ∈ rest := by
        rw [sameChain] at inChain
        exact (List.mem_cons.mp inChain).resolve_left sameKey
      have bound : position < backend.chains.length :=
        (List.getElem?_eq_some_iff.mp found).choose
      exact ⟨rest, List.mem_set bound rest, inRest⟩
    · have kept :
          (backend.chains.set index rest)[position]? = some chain := by
        rw [List.getElem?_set_ne (Ne.symm samePosition), atPosition]
      exact ⟨chain, List.mem_of_getElem? kept, inChain⟩

/-- When every detached deletion is done, what was doomed is gone. -/
theorem Doomed.absent
    (doomed : backend.Doomed query)
    (completed : ∀ chain ∈ backend.chains, chain = []) :
    backend.store.lookup query = none := by
  rcases doomed with absent | ⟨chain, member, inChain⟩
  · exact absent
  · rw [completed chain member] at inChain
    cases inChain

/-- A write under another key saves nothing. -/
theorem Doomed.write
    (doomed : backend.Doomed query)
    (different : query ≠ key)
    (now lifetime : Nat)
    (value : Value) :
    Doomed
      { backend with store := backend.store.write now key lifetime value }
      query := by
  rcases doomed with absent | pending
  · left
    rw [ExpiringStore.lookup_write_other _ different, absent]
  · exact Or.inr pending

end Drained

/-- Settling mentions no new key. -/
theorem Settles.unmentioned
    {backend after : Backend Key Value}
    (settles : backend.Settles after)
    {query : Key}
    (unmentioned : backend.Unmentioned query) :
    after.Unmentioned query := by
  induction settles with
  | refl backend => exact unmentioned
  | drain found later inductionHypothesis =>
      exact inductionHypothesis (unmentioned.drain found)

/-- Settling saves nothing. -/
theorem Settles.doomed
    {backend after : Backend Key Value}
    (settles : backend.Settles after)
    {query : Key}
    (doomed : backend.Doomed query) :
    after.Doomed query := by
  induction settles with
  | refl backend => exact doomed
  | drain found later inductionHypothesis =>
      exact inductionHypothesis (doomed.drain found)

/-- Deletions leave alone what no chain mentions. -/
theorem Settles.lookup_other
    {backend after : Backend Key Value}
    (settles : backend.Settles after)
    {query : Key}
    (unmentioned : backend.Unmentioned query) :
    after.store.lookup query = backend.store.lookup query := by
  induction settles with
  | refl backend => rfl
  | drain found later inductionHypothesis =>
      rw [inductionHypothesis (unmentioned.drain found)]
      exact ExpiringStore.lookup_remove_other _
        (unmentioned.different found)

/-- Deletions bring nothing back. -/
theorem Settles.lookup_some
    {backend after : Backend Key Value}
    (settles : backend.Settles after)
    {query : Key}
    {entry : Entry Value}
    (found : after.store.lookup query = some entry) :
    backend.store.lookup query = some entry := by
  induction settles with
  | refl backend => exact found
  | @drain backend after index key rest chain later inductionHypothesis =>
      have remaining := inductionHypothesis found
      by_cases sameKey : query = key
      · subst sameKey
        rw [ExpiringStore.lookup_remove_same] at remaining
        cases remaining
      · rw [ExpiringStore.lookup_remove_other _ sameKey] at remaining
        exact remaining

end Backend

namespace StoreProgram

variable {Key Value Failure Result Next : Type}

/-! ## Sequencing -/

/-- Continue with the result, or stop at the failure. -/
def bind
    (program : StoreProgram Key Value Failure Result)
    (rest : Result → StoreProgram Key Value Failure Next) :
    StoreProgram Key Value Failure Next :=
  match program with
  | .done (.ok result) => rest result
  | .done (.error failure) => .done (.error failure)
  | .clock next => .clock fun now => (next now).bind rest
  | .get key next => .get key fun reply => (next reply).bind rest
  | .setex key seconds value next =>
      .setex key seconds value fun reply => (next reply).bind rest
  | .del key next => .del key fun reply => (next reply).bind rest
  | .keys accepts next =>
      .keys accepts fun reply => (next reply).bind rest
  | .detach chains next => .detach chains (next.bind rest)

/-- Run `handler` when the program fails. -/
def tryCatch
    (program : StoreProgram Key Value Failure Result)
    (handler : Failure → StoreProgram Key Value Failure Result) :
    StoreProgram Key Value Failure Result :=
  match program with
  | .done (.ok result) => .done (.ok result)
  | .done (.error failure) => handler failure
  | .clock next => .clock fun now => (next now).tryCatch handler
  | .get key next => .get key fun reply => (next reply).tryCatch handler
  | .setex key seconds value next =>
      .setex key seconds value fun reply => (next reply).tryCatch handler
  | .del key next => .del key fun reply => (next reply).tryCatch handler
  | .keys accepts next =>
      .keys accepts fun reply => (next reply).tryCatch handler
  | .detach chains next => .detach chains (next.tryCatch handler)

instance : Monad (StoreProgram Key Value Failure) where
  pure result := .done (.ok result)
  bind := bind

instance : MonadExceptOf Failure (StoreProgram Key Value Failure) where
  throw failure := .done (.error failure)
  tryCatch := tryCatch

section Sequencing

variable
  (rest : Result → StoreProgram Key Value Failure Next)
  (handler : Failure → StoreProgram Key Value Failure Result)

@[simp] theorem pure_eq (result : Result) :
    (pure result : StoreProgram Key Value Failure Result) =
      .done (.ok result) := rfl

@[simp] theorem throw_eq (failure : Failure) :
    (throw failure : StoreProgram Key Value Failure Result) =
      .done (.error failure) := rfl

@[simp] theorem ok_bind (result : Result) :
    (StoreProgram.done (.ok result) >>= rest) = rest result := rfl

@[simp] theorem error_bind (failure : Failure) :
    ((StoreProgram.done (.error failure) :
        StoreProgram Key Value Failure Result) >>= rest) =
      .done (.error failure) := rfl

@[simp] theorem clock_bind
    (next : Nat → StoreProgram Key Value Failure Result) :
    (StoreProgram.clock next >>= rest) =
      .clock fun now => next now >>= rest := rfl

@[simp] theorem get_bind
    (key : Key)
    (next : Reply (Option Value) →
      StoreProgram Key Value Failure Result) :
    (StoreProgram.get key next >>= rest) =
      .get key fun reply => next reply >>= rest := rfl

@[simp] theorem setex_bind
    (key : Key)
    (seconds : Option Int)
    (value : Value)
    (next : Reply Bool → StoreProgram Key Value Failure Result) :
    (StoreProgram.setex key seconds value next >>= rest) =
      .setex key seconds value fun reply => next reply >>= rest := rfl

@[simp] theorem del_bind
    (key : Key)
    (next : Reply Nat → StoreProgram Key Value Failure Result) :
    (StoreProgram.del key next >>= rest) =
      .del key fun reply => next reply >>= rest := rfl

@[simp] theorem keys_bind
    (accepts : Key → Bool)
    (next : Reply (List Key) →
      StoreProgram Key Value Failure Result) :
    (StoreProgram.keys accepts next >>= rest) =
      .keys accepts fun reply => next reply >>= rest := rfl

@[simp] theorem detach_bind
    (chains : List (List Key))
    (next : StoreProgram Key Value Failure Result) :
    (StoreProgram.detach chains next >>= rest) =
      .detach chains (next >>= rest) := rfl

@[simp] theorem tryCatch_eq
    (program : StoreProgram Key Value Failure Result) :
    tryCatchThe Failure program handler = program.tryCatch handler := rfl

/-- Sequencing is associative. -/
theorem bind_bind
    {Last : Type}
    (program : StoreProgram Key Value Failure Result)
    (last : Next → StoreProgram Key Value Failure Last) :
    ((program >>= rest) >>= last) =
      (program >>= fun result => rest result >>= last) := by
  induction program with
  | done outcome =>
      cases outcome with
      | ok result => rfl
      | error failure => rfl
  | clock next inductionHypothesis =>
      exact congrArg StoreProgram.clock (funext inductionHypothesis)
  | get key next inductionHypothesis =>
      exact congrArg (StoreProgram.get key) (funext inductionHypothesis)
  | setex key seconds value next inductionHypothesis =>
      exact congrArg (StoreProgram.setex key seconds value)
        (funext inductionHypothesis)
  | del key next inductionHypothesis =>
      exact congrArg (StoreProgram.del key) (funext inductionHypothesis)
  | keys accepts next inductionHypothesis =>
      exact congrArg (StoreProgram.keys accepts)
        (funext inductionHypothesis)
  | detach chains next inductionHypothesis =>
      exact congrArg (StoreProgram.detach chains) inductionHypothesis

end Sequencing

/-! ## Execution -/

variable [DecidableEq Key]

/--
Perform the next command at the instant `now`, reading the clock at that same
instant.  Detaching is a step of its own, so that detached deletions may run
before the next command.
-/
def step (now : Nat) :
    Backend Key Value →
      StoreProgram Key Value Failure Result →
      Backend Key Value × StoreProgram Key Value Failure Result
  | backend, .done outcome => (backend, .done outcome)
  | backend, .clock next => step now backend (next now)
  | backend, .get key next =>
      (backend, next (.ok (backend.store.read now key)))
  | backend, .setex key seconds value next =>
      ((backend.setex now key seconds value).1,
        next (backend.setex now key seconds value).2)
  | backend, .del key next =>
      ((backend.del now key).1, next (.ok (backend.del now key).2))
  | backend, .keys accepts next =>
      (backend, next (.ok (backend.store.scan now accepts)))
  | backend, .detach chains next => (backend.detach chains, next)

/-- Whether the next step sends a command, and does not only detach or end. -/
def commands (now : Nat) :
    StoreProgram Key Value Failure Result → Bool
  | .done _ => false
  | .clock next => commands now (next now)
  | .detach _ _ => false
  | _ => true

/-- Whether the program has settled. -/
def settled : StoreProgram Key Value Failure Result → Bool
  | .done _ => true
  | _ => false

/--
Run a program alone to its outcome.  Its successive commands are performed at
the instants `clock 0`, `clock 1`, and so on.
-/
def run
    (clock : Nat → Nat)
    (backend : Backend Key Value) :
    StoreProgram Key Value Failure Result →
      Backend Key Value × Except Failure Result
  | .done outcome => (backend, outcome)
  | .clock next => run clock backend (next (clock 0))
  | .get key next =>
      run (fun index => clock (index + 1)) backend
        (next (.ok (backend.store.read (clock 0) key)))
  | .setex key seconds value next =>
      run (fun index => clock (index + 1))
        (backend.setex (clock 0) key seconds value).1
        (next (backend.setex (clock 0) key seconds value).2)
  | .del key next =>
      run (fun index => clock (index + 1))
        (backend.del (clock 0) key).1
        (next (.ok (backend.del (clock 0) key).2))
  | .keys accepts next =>
      run (fun index => clock (index + 1)) backend
        (next (.ok (backend.store.scan (clock 0) accepts)))
  | .detach chains next => run clock (backend.detach chains) next

/--
Run at most `limit` commands of a program alone, and give it up there: the
backend that a request leaves behind when it dies.
-/
def runFor
    (limit : Nat)
    (clock : Nat → Nat)
    (backend : Backend Key Value) :
    StoreProgram Key Value Failure Result → Backend Key Value
  | .done _ => backend
  | .clock next => runFor limit clock backend (next (clock 0))
  | .get key next =>
      match limit with
      | 0 => backend
      | remaining + 1 =>
          runFor remaining (fun index => clock (index + 1)) backend
            (next (.ok (backend.store.read (clock 0) key)))
  | .setex key seconds value next =>
      match limit with
      | 0 => backend
      | remaining + 1 =>
          runFor remaining (fun index => clock (index + 1))
            (backend.setex (clock 0) key seconds value).1
            (next (backend.setex (clock 0) key seconds value).2)
  | .del key next =>
      match limit with
      | 0 => backend
      | remaining + 1 =>
          runFor remaining (fun index => clock (index + 1))
            (backend.del (clock 0) key).1
            (next (.ok (backend.del (clock 0) key).2))
  | .keys accepts next =>
      match limit with
      | 0 => backend
      | remaining + 1 =>
          runFor remaining (fun index => clock (index + 1)) backend
            (next (.ok (backend.store.scan (clock 0) accepts)))
  | .detach chains next =>
      runFor limit clock (backend.detach chains) next

end StoreProgram

end NestBackend
