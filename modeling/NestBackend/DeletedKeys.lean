import NestBackend.ProgramPool

namespace NestBackend

/-!
# What happens to a deleted key

A key that is absent stays absent until a call puts it back.  Most calls can be
ruled out: those that never write the key, and those that write it only after
they have read an entry under it.  The remaining ones are the writers, and the
result is an account of every reappearance: a writer did it, at a definite
point of the schedule.
-/

namespace World

variable {Operation Key Value Failure Result : Type} [DecidableEq Key]

/-- At some point of the schedule such a call puts the absent key back. -/
def RestoredBy
    (behaviour : Operation → StoreProgram Key Value Failure Result)
    (key : Key)
    (writer : Nat → Operation → Prop)
    (world : World Operation Key Value Failure Result)
    (actions : List (Action Operation)) : Prop :=
  ∃ before index rest current thread,
    actions = before ++ .advance index :: rest ∧
      world.run? behaviour before = some current ∧
      current.threads[index]? = some thread ∧
      writer index thread.operation ∧
      current.backend.store.lookup key = none ∧
      (thread.program.step current.now current.backend).1.store.lookup
          key ≠
        none

/-- The key is absent, and calls other than the writers keep it absent. -/
structure Withheld
    (key : Key)
    (writer : Nat → Operation → Prop)
    (ensures : Nat → Operation → Except Failure Result → Prop)
    (world : World Operation Key Value Failure Result) : Prop where
  absent : world.backend.store.lookup key = none
  threads :
    ∀ index thread,
      world.threads[index]? = some thread →
      writer index thread.operation ∨
        thread.program.Satisfies (fun query _ => query ≠ key)
          (fun query _ => query ≠ key)
          (ensures index thread.operation)

variable
  {behaviour : Operation → StoreProgram Key Value Failure Result}
  {key : Key}
  {writer : Nat → Operation → Prop}
  {ensures : Nat → Operation → Except Failure Result → Prop}
  {world after : World Operation Key Value Failure Result}

/-- A deletion does not bring a key back. -/
theorem lookup_remove_of_absent
    {store : ExpiringStore Key Value}
    (absent : store.lookup key = none)
    (removed : Key) :
    (store.remove removed).lookup key = none := by
  by_cases sameKey : key = removed
  · rw [sameKey]
    exact store.lookup_remove_same removed
  · exact (store.lookup_remove_other sameKey).trans absent

/-- What a call does at the absent key, if it is no writer. -/
theorem Withheld.advance_absent
    (withheld : world.Withheld key writer ensures)
    {index : Nat}
    {thread : Thread Operation Key Value Failure Result}
    (found : world.threads[index]? = some thread)
    (noWriter : ¬ writer index thread.operation) :
    (thread.program.step world.now world.backend).1.store.lookup key =
      none := by
  rcases withheld.threads index thread found with isWriter | satisfies
  · exact (noWriter isWriter).elim
  · have conforms := ExpiringStore.conforms_ne_iff.mpr withheld.absent
    exact ExpiringStore.conforms_ne_iff.mp
      (satisfies.step_conforms (fun other => other) conforms world.now)

/-- The calls after one of them went on without restoring the key. -/
theorem Withheld.advance_threads
    (withheld : world.Withheld key writer ensures)
    {index : Nat}
    {thread : Thread Operation Key Value Failure Result}
    (found : world.threads[index]? = some thread)
    {other : Nat}
    {later : Thread Operation Key Value Failure Result}
    (laterFound :
      (world.threads.set index
          (thread.advance world.now world.backend))[other]? =
        some later) :
    writer other later.operation ∨
      later.program.Satisfies (fun query _ => query ≠ key)
        (fun query _ => query ≠ key) (ensures other later.operation) := by
  by_cases sameThread : index = other
  · subst sameThread
    have inside : index < world.threads.length :=
      (List.getElem?_eq_some_iff.mp found).1
    rw [List.getElem?_set_self inside] at laterFound
    cases laterFound
    rcases withheld.threads index thread found with isWriter | satisfies
    · exact Or.inl isWriter
    · exact Or.inr (satisfies.step
        (ExpiringStore.conforms_ne_iff.mpr withheld.absent) world.now)
  · rw [List.getElem?_set_ne sameThread] at laterFound
    exact withheld.threads other later laterFound

/-- One action withholds the key further, or is a writer's. -/
theorem Withheld.step
    (withheld : world.Withheld key writer ensures)
    {action : Action Operation}
    (invoked :
      ∀ operation index,
        action = .invoke operation →
        writer index operation ∨
          (behaviour operation).Satisfies (fun query _ => query ≠ key)
            (fun query _ => query ≠ key) (ensures index operation))
    (stepCase : StepCase behaviour world action after) :
    after.Withheld key writer ensures ∨
      ∃ index thread,
        action = .advance index ∧
          world.threads[index]? = some thread ∧
          writer index thread.operation ∧
          (thread.program.step world.now world.backend).1.store.lookup
              key ≠
            none := by
  cases stepCase with
  | tick milliseconds =>
      exact Or.inl ⟨withheld.absent, withheld.threads⟩
  | invoke operation =>
      refine Or.inl ⟨withheld.absent, ?_⟩
      intro index thread found
      rcases Nat.lt_or_ge index world.threads.length with old | new
      · rw [List.getElem?_append_left old] at found
        exact withheld.threads index thread found
      · rw [List.getElem?_append_right new] at found
        obtain ⟨inside, same⟩ := List.getElem?_eq_some_iff.mp found
        have isNew : thread = ⟨operation, behaviour operation, 0⟩ := by
          simpa using same.symm
        rw [isNew]
        exact invoked operation index rfl
  | @advance index thread found =>
      by_cases isWriter : writer index thread.operation
      · by_cases absent :
            (thread.program.step world.now
              world.backend).1.store.lookup key =
              none
        · exact Or.inl ⟨absent, fun other later laterFound =>
            withheld.advance_threads found laterFound⟩
        · exact Or.inr ⟨index, thread, rfl, found, isWriter, absent⟩
      · exact Or.inl ⟨withheld.advance_absent found isWriter,
          fun other later laterFound =>
            withheld.advance_threads found laterFound⟩
  | @drain index removed rest found =>
      exact Or.inl
        ⟨lookup_remove_of_absent withheld.absent removed,
          withheld.threads⟩

/-- Later in the schedule is later in the longer schedule. -/
theorem RestoredBy.cons
    {action : Action Operation}
    {next : World Operation Key Value Failure Result}
    {rest : List (Action Operation)}
    (stepped : world.step behaviour action = some next)
    (restored : next.RestoredBy behaviour key writer rest) :
    world.RestoredBy behaviour key writer (action :: rest) := by
  obtain ⟨before, index, later, current, thread, split, ran, found,
    isWriter, absent, present⟩ := restored
  refine ⟨action :: before, index, later, current, thread, ?_, ?_, found,
    isWriter, absent, present⟩
  · rw [split, List.cons_append]
  · exact run?_cons.mpr ⟨next, stepped, ran⟩

/-- A whole schedule withholds the key, or a writer restores it in between. -/
theorem Withheld.run
    (withheld : world.Withheld key writer ensures)
    {actions : List (Action Operation)}
    (invoked :
      ∀ operation index,
        .invoke operation ∈ actions →
        writer index operation ∨
          (behaviour operation).Satisfies (fun query _ => query ≠ key)
            (fun query _ => query ≠ key) (ensures index operation))
    (ran : world.run? behaviour actions = some after) :
    after.Withheld key writer ensures ∨
      world.RestoredBy behaviour key writer actions := by
  induction actions generalizing world with
  | nil =>
      cases ran
      exact Or.inl withheld
  | cons action rest inductionHypothesis =>
      obtain ⟨next, stepped, ranRest⟩ := run?_cons.mp ran
      have first := withheld.step
        (fun operation index isInvoke =>
          invoked operation index (isInvoke ▸ List.mem_cons_self ..))
        (step_cases stepped)
      rcases first with nextWithheld | ⟨index, thread, isAdvance, found,
        isWriter, present⟩
      · have later := inductionHypothesis nextWithheld
          (fun operation index member =>
            invoked operation index (List.mem_cons_of_mem action member))
          ranRest
        rcases later with eventually | restored
        · exact Or.inl eventually
        · exact Or.inr (restored.cons stepped)
      · exact Or.inr ⟨[], index, rest, world, thread, by rw [isAdvance]; rfl,
          rfl, found, isWriter, withheld.absent, present⟩

end World

end NestBackend
