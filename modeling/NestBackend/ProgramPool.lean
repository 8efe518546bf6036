import NestBackend.EntryContract
import NestBackend.EventRun

namespace NestBackend

/-!
# Interleaved programs

A world is a backend, a clock, and every call made so far with what is left of
its program.  Its actions are the passing of time, a new call, the next command
of one call, and the next deletion of one detached chain; a schedule is any
list of them.  Nothing is assumed about fairness or about the order in which
commands of different calls arrive.
-/

/-- One call: the operation, the rest of its program, and commands sent. -/
structure Thread (Operation Key Value Failure Result : Type) where
  operation : Operation
  program : StoreProgram Key Value Failure Result
  commands : Nat

/-- The store with every call made so far, in the order of the calls. -/
structure World (Operation Key Value Failure Result : Type) where
  now : Nat
  backend : Backend Key Value
  threads : List (Thread Operation Key Value Failure Result)

/-- What can happen next; threads and chains are named by position. -/
inductive Action (Operation : Type) where
  | tick (milliseconds : Nat)
  | invoke (operation : Operation)
  | advance (thread : Nat)
  | drain (chain : Nat)

/-- A schedule in which no further call is made. -/
def NoInvoke
    {Operation : Type}
    (actions : List (Action Operation)) : Prop :=
  ∀ operation, .invoke operation ∉ actions

theorem NoInvoke.tail
    {Operation : Type}
    {action : Action Operation}
    {rest : List (Action Operation)}
    (noInvoke : NoInvoke (action :: rest)) :
    NoInvoke rest :=
  fun operation member =>
    noInvoke operation (List.mem_cons_of_mem action member)

/-- No action of such a schedule is a call. -/
theorem NoInvoke.notInvoke
    {Operation : Type}
    {actions : List (Action Operation)}
    (noInvoke : NoInvoke actions)
    {action : Action Operation}
    (member : action ∈ actions)
    (operation : Operation) :
    action ≠ .invoke operation := by
  rintro rfl
  exact noInvoke operation member

namespace Thread

variable {Operation Key Value Failure Result : Type} [DecidableEq Key]

/-- The thread after its next command. -/
def advance
    (thread : Thread Operation Key Value Failure Result)
    (now : Nat)
    (backend : Backend Key Value) :
    Thread Operation Key Value Failure Result where
  operation := thread.operation
  program := (thread.program.step now backend).2
  commands :=
    thread.commands + if thread.program.commands now then 1 else 0

@[simp] theorem advance_operation
    (thread : Thread Operation Key Value Failure Result)
    (now : Nat)
    (backend : Backend Key Value) :
    (thread.advance now backend).operation = thread.operation := rfl

@[simp] theorem advance_program
    (thread : Thread Operation Key Value Failure Result)
    (now : Nat)
    (backend : Backend Key Value) :
    (thread.advance now backend).program =
      (thread.program.step now backend).2 := rfl

end Thread

namespace World

variable {Operation Key Value Failure Result : Type} [DecidableEq Key]

/-- One action; disabled when it names a thread or chain that is not there. -/
def step
    (behaviour :
      Operation → StoreProgram Key Value Failure Result)
    (world : World Operation Key Value Failure Result) :
    Action Operation →
      Option (World Operation Key Value Failure Result)
  | .tick milliseconds =>
      some { world with now := world.now + milliseconds }
  | .invoke operation =>
      some { world with
        threads := world.threads ++ [⟨operation, behaviour operation, 0⟩] }
  | .advance index =>
      match world.threads[index]? with
      | none => none
      | some thread =>
          some { world with
            backend := (thread.program.step world.now world.backend).1
            threads :=
              world.threads.set index
                (thread.advance world.now world.backend) }
  | .drain index =>
      match world.backend.chains[index]? with
      | some (key :: rest) =>
          some { world with
            backend :=
              { store := world.backend.store.remove key
                chains := world.backend.chains.set index rest } }
      | _ => none

/-- Perform a whole schedule. -/
def run?
    (behaviour :
      Operation → StoreProgram Key Value Failure Result) :
    World Operation Key Value Failure Result →
      List (Action Operation) →
      Option (World Operation Key Value Failure Result)
  | world, [] => some world
  | world, action :: rest =>
      match world.step behaviour action with
      | none => none
      | some next => run? behaviour next rest

variable
  {behaviour : Operation → StoreProgram Key Value Failure Result}
  {world after : World Operation Key Value Failure Result}

/-- What one action can do, case by case. -/
inductive StepCase
    (behaviour :
      Operation → StoreProgram Key Value Failure Result)
    (world : World Operation Key Value Failure Result) :
    Action Operation →
      World Operation Key Value Failure Result → Prop where
  | tick (milliseconds : Nat) :
      StepCase behaviour world (.tick milliseconds)
        { world with now := world.now + milliseconds }
  | invoke (operation : Operation) :
      StepCase behaviour world (.invoke operation)
        { world with
          threads :=
            world.threads ++ [⟨operation, behaviour operation, 0⟩] }
  | advance
      {index : Nat}
      {thread : Thread Operation Key Value Failure Result}
      (found : world.threads[index]? = some thread) :
      StepCase behaviour world (.advance index)
        { world with
          backend := (thread.program.step world.now world.backend).1
          threads :=
            world.threads.set index
              (thread.advance world.now world.backend) }
  | drain
      {index : Nat}
      {key : Key}
      {rest : List Key}
      (found : world.backend.chains[index]? = some (key :: rest)) :
      StepCase behaviour world (.drain index)
        { world with
          backend :=
            { store := world.backend.store.remove key
              chains := world.backend.chains.set index rest } }

/-- Every enabled action is one of the cases. -/
theorem step_cases
    {action : Action Operation}
    (stepped : world.step behaviour action = some after) :
    StepCase behaviour world action after := by
  cases action with
  | tick milliseconds =>
      cases stepped
      exact .tick milliseconds
  | invoke operation =>
      cases stepped
      exact .invoke operation
  | advance index =>
      simp only [step] at stepped
      split at stepped
      · cases stepped
      · rename_i thread found
        cases stepped
        exact .advance found
  | drain index =>
      simp only [step] at stepped
      split at stepped
      · rename_i key rest found
        cases stepped
        exact .drain found
      · cases stepped

/-- A schedule is a run of events. -/
theorem run?_eq
    (world : World Operation Key Value Failure Result)
    (actions : List (Action Operation)) :
    world.run? behaviour actions =
      EventRun.run? (step behaviour) world actions := by
  induction actions generalizing world with
  | nil => rfl
  | cons action rest inductionHypothesis =>
      unfold run? EventRun.run?
      rw [List.foldlM_cons]
      cases world.step behaviour action with
      | none => rfl
      | some next => exact inductionHypothesis next

/-- The first action of a schedule and the rest of it. -/
theorem run?_cons
    {action : Action Operation}
    {rest : List (Action Operation)} :
    world.run? behaviour (action :: rest) = some after ↔
      ∃ next,
        world.step behaviour action = some next ∧
          next.run? behaviour rest = some after := by
  simp only [run?_eq]
  exact EventRun.run?_cons

/-- A schedule in two parts. -/
theorem run?_append
    {first second : List (Action Operation)} :
    world.run? behaviour (first ++ second) = some after ↔
      ∃ middle,
        world.run? behaviour first = some middle ∧
          middle.run? behaviour second = some after := by
  simp only [run?_eq, EventRun.run?_append, Option.bind_eq_some_iff]

/--
What holds at first and is preserved by every action of the schedule holds at
the end.
-/
theorem run?_induction
    {invariant : World Operation Key Value Failure Result → Prop}
    {actions : List (Action Operation)}
    (preserved :
      ∀ {world after action},
        action ∈ actions →
        invariant world →
        StepCase behaviour world action after →
        invariant after)
    (ran : world.run? behaviour actions = some after)
    (initially : invariant world) :
    invariant after := by
  rw [run?_eq] at ran
  refine EventRun.keeps ?_ ran initially
  intro world after action member holds stepped
  exact preserved member holds (step_cases stepped)

/-- One action does not turn the clock back. -/
theorem StepCase.now_le
    {action : Action Operation}
    (stepCase : StepCase behaviour world action after) :
    world.now ≤ after.now := by
  cases stepCase with
  | tick milliseconds => exact Nat.le_add_right _ _
  | invoke operation => exact Nat.le_refl _
  | advance found => exact Nat.le_refl _
  | drain found => exact Nat.le_refl _

/-- Time never runs backwards. -/
theorem now_le
    {actions : List (Action Operation)}
    (ran : world.run? behaviour actions = some after) :
    world.now ≤ after.now := by
  have preserved :
      ∀ {current next : World Operation Key Value Failure Result}
        {action : Action Operation},
        action ∈ actions →
        world.now ≤ current.now →
        StepCase behaviour current action next →
        world.now ≤ next.now := by
    intro current next action _ order stepCase
    exact Nat.le_trans order stepCase.now_le
  exact run?_induction preserved ran (Nat.le_refl world.now)

/-- A call after one action: as before, moved on, or new. -/
theorem StepCase.thread_cases
    {action : Action Operation}
    (stepCase : StepCase behaviour world action after)
    {index : Nat}
    {thread : Thread Operation Key Value Failure Result}
    (found : after.threads[index]? = some thread) :
    (world.threads[index]? = some thread ∧ action ≠ .advance index) ∨
      (∃ earlier,
        world.threads[index]? = some earlier ∧
          action = .advance index ∧
          thread = earlier.advance world.now world.backend) ∨
      ∃ operation,
        action = .invoke operation ∧
          thread = ⟨operation, behaviour operation, 0⟩ := by
  cases stepCase with
  | tick milliseconds => exact Or.inl ⟨found, nofun⟩
  | drain _ => exact Or.inl ⟨found, nofun⟩
  | invoke operation =>
      rcases Nat.lt_or_ge index world.threads.length with old | new
      · rw [List.getElem?_append_left old] at found
        exact Or.inl ⟨found, nofun⟩
      · rw [List.getElem?_append_right new] at found
        obtain ⟨inside, same⟩ := List.getElem?_eq_some_iff.mp found
        exact Or.inr (Or.inr ⟨operation, rfl, by simpa using same.symm⟩)
  | @advance moved earlier earlierFound =>
      by_cases sameThread : moved = index
      · subst sameThread
        rw [List.getElem?_set_self
          (List.getElem?_eq_some_iff.mp earlierFound).1] at found
        cases found
        exact Or.inr (Or.inl ⟨earlier, earlierFound, rfl, rfl⟩)
      · rw [List.getElem?_set_ne sameThread] at found
        refine Or.inl ⟨found, ?_⟩
        intro same
        exact sameThread (Action.advance.inj same)

/-- A call goes on as the same call and has sent no fewer commands. -/
theorem StepCase.thread_continues
    {action : Action Operation}
    (stepCase : StepCase behaviour world action after)
    {index : Nat}
    {thread : Thread Operation Key Value Failure Result}
    (found : world.threads[index]? = some thread) :
    ∃ later,
      after.threads[index]? = some later ∧
        later.operation = thread.operation ∧
        thread.commands ≤ later.commands := by
  have inside : index < world.threads.length :=
    (List.getElem?_eq_some_iff.mp found).1
  cases stepCase with
  | tick milliseconds => exact ⟨thread, found, rfl, Nat.le_refl _⟩
  | drain _ => exact ⟨thread, found, rfl, Nat.le_refl _⟩
  | invoke operation =>
      exact ⟨thread, (List.getElem?_append_left inside).trans found, rfl,
        Nat.le_refl _⟩
  | @advance moved earlier earlierFound =>
      by_cases sameThread : moved = index
      · subst sameThread
        rw [found] at earlierFound
        cases earlierFound
        exact ⟨_, List.getElem?_set_self inside, rfl,
          Nat.le_add_right _ _⟩
      · exact ⟨thread, (List.getElem?_set_ne sameThread).trans found, rfl,
          Nat.le_refl _⟩

/-- No call is forgotten. -/
theorem length_le
    {actions : List (Action Operation)}
    (ran : world.run? behaviour actions = some after) :
    world.threads.length ≤ after.threads.length := by
  have preserved :
      ∀ {current next : World Operation Key Value Failure Result}
        {action : Action Operation},
        action ∈ actions →
        world.threads.length ≤ current.threads.length →
        StepCase behaviour current action next →
        world.threads.length ≤ next.threads.length := by
    intro current next action _ order stepCase
    cases stepCase with
    | tick milliseconds => exact order
    | invoke operation =>
        rw [List.length_append]
        exact Nat.le_add_right_of_le order
    | advance found => rwa [List.length_set]
    | drain found => exact order
  exact run?_induction preserved ran (Nat.le_refl _)

/-- A call that does not go on is as it was. -/
theorem thread_kept
    {index : Nat}
    {thread : Thread Operation Key Value Failure Result}
    {actions : List (Action Operation)}
    (waits : .advance index ∉ actions)
    (ran : world.run? behaviour actions = some after)
    (found : world.threads[index]? = some thread) :
    after.threads[index]? = some thread := by
  have preserved :
      ∀ {current next : World Operation Key Value Failure Result}
        {action : Action Operation},
        action ∈ actions →
        current.threads[index]? = some thread →
        StepCase behaviour current action next →
        next.threads[index]? = some thread := by
    intro current next action member here stepCase
    cases stepCase with
    | tick milliseconds => exact here
    | invoke operation =>
        have inside : index < current.threads.length :=
          (List.getElem?_eq_some_iff.mp here).1
        exact (List.getElem?_append_left inside).trans here
    | @advance other moved otherFound =>
        have different : other ≠ index := by
          rintro rfl
          exact waits member
        exact (List.getElem?_set_ne different).trans here
    | drain _ => exact here
  exact run?_induction preserved ran found

/-- A new call stays where it was put. -/
theorem invoked_found
    {operation : Operation}
    {rest : List (Action Operation)}
    (ran : world.run? behaviour (.invoke operation :: rest) = some after) :
    ∃ thread,
      after.threads[world.threads.length]? = some thread ∧
        thread.operation = operation := by
  have preserved :
      ∀ {current next : World Operation Key Value Failure Result}
        {action : Action Operation},
        action ∈ rest →
        (∃ thread,
          current.threads[world.threads.length]? = some thread ∧
            thread.operation = operation) →
        StepCase behaviour current action next →
        ∃ thread,
          next.threads[world.threads.length]? = some thread ∧
            thread.operation = operation := by
    intro current next action _ here stepCase
    obtain ⟨thread, found, same⟩ := here
    obtain ⟨later, laterFound, sameOperation, -⟩ :=
      stepCase.thread_continues found
    exact ⟨later, laterFound, sameOperation.trans same⟩
  obtain ⟨next, stepped, ranRest⟩ := run?_cons.mp ran
  cases stepped
  exact run?_induction preserved ranRest
    ⟨_, List.getElem?_concat_length, rfl⟩

/-- A member of a list with one entry replaced is the new entry or an old one. -/
theorem mem_set_cases
    {items : List Next}
    {index : Nat}
    {new item : Next}
    (member : item ∈ items.set index new) :
    item = new ∨ item ∈ items := by
  rcases List.mem_or_eq_of_mem_set member with old | isNew
  · exact Or.inr old
  · exact Or.inl isNew

/-! ## Contracts of whole worlds -/

/--
Every entry is as the programs rely on, and every call still meets the contract
of its operation.
-/
structure Abides
    (rely : Key → Value → Prop)
    (guarantee : Operation → Key → Value → Prop)
    (ensures : Operation → Except Failure Result → Prop)
    (world : World Operation Key Value Failure Result) : Prop where
  store : world.backend.store.Conforms rely
  threads :
    ∀ thread ∈ world.threads,
      thread.program.Satisfies rely
        (guarantee thread.operation) (ensures thread.operation)

namespace Abides

variable
  {rely : Key → Value → Prop}
  {guarantee : Operation → Key → Value → Prop}
  {ensures : Operation → Except Failure Result → Prop}

/-- One action, when every new call meets its contract. -/
theorem step
    (abides : world.Abides rely guarantee ensures)
    (guaranteeRely :
      ∀ {operation key value},
        guarantee operation key value → rely key value)
    {action : Action Operation}
    (invoked :
      ∀ operation,
        action = .invoke operation →
        (behaviour operation).Satisfies rely
          (guarantee operation) (ensures operation))
    (stepCase : StepCase behaviour world action after) :
    after.Abides rely guarantee ensures := by
  cases stepCase with
  | tick milliseconds =>
      exact ⟨abides.store, abides.threads⟩
  | invoke operation =>
      refine ⟨abides.store, ?_⟩
      intro thread member
      rcases List.mem_append.mp member with old | isNew
      · exact abides.threads thread old
      · rw [List.mem_singleton.mp isNew]
        exact invoked operation rfl
  | @advance index thread found =>
      have threadSatisfies :=
        abides.threads thread (List.mem_of_getElem? found)
      refine ⟨?_, ?_⟩
      · exact threadSatisfies.step_conforms guaranteeRely
          abides.store world.now
      · intro other member
        rcases mem_set_cases member with isAdvanced | old
        · rw [isAdvanced]
          exact threadSatisfies.step abides.store world.now
        · exact abides.threads other old
  | @drain index key rest found =>
      exact ⟨abides.store.remove key, abides.threads⟩

/-- A whole schedule, when every new call in it meets its contract. -/
theorem run
    (abides : world.Abides rely guarantee ensures)
    (guaranteeRely :
      ∀ {operation key value},
        guarantee operation key value → rely key value)
    {actions : List (Action Operation)}
    (invoked :
      ∀ operation,
        .invoke operation ∈ actions →
        (behaviour operation).Satisfies rely
          (guarantee operation) (ensures operation))
    (ran : world.run? behaviour actions = some after) :
    after.Abides rely guarantee ensures := by
  refine run?_induction ?_ ran abides
  intro current next action member currentAbides stepCase
  refine currentAbides.step guaranteeRely ?_ stepCase
  rintro operation rfl
  exact invoked operation member

end Abides

end World

end NestBackend
