import NestBackend.ProgramPool

namespace NestBackend

/-!
# Keys that no deletion is on the way to

A live key is spared while no detached deletion of it is pending and no call is
about to detach one.  Nothing but a write makes a key spared: what is spared
after an action was spared before it, unless the action wrote the key.
-/

namespace StoreProgram

variable {Key Value Failure Result : Type}

/-- The program is not about to detach a deletion of the key. -/
def Unlisted
    (key : Key) : StoreProgram Key Value Failure Result → Prop
  | .detach chains _ => ∀ chain ∈ chains, key ∉ chain
  | _ => True

variable
  [DecidableEq Key]
  {program : StoreProgram Key Value Failure Result}
  {backend : Backend Key Value}
  {key : Key}
  {now : Nat}

/-- A command forgets no pending deletion. -/
theorem unmentioned_of_step
    (unmentioned : (program.step now backend).1.Unmentioned key) :
    backend.Unmentioned key := by
  induction program with
  | done outcome => exact unmentioned
  | clock next inductionHypothesis =>
      exact inductionHypothesis now unmentioned
  | get query next inductionHypothesis => exact unmentioned
  | keys accepts next inductionHypothesis => exact unmentioned
  | del query next inductionHypothesis => exact unmentioned
  | setex query seconds value next inductionHypothesis =>
      intro chain member
      apply unmentioned chain
      simpa only [step, Backend.setex_chains] using member
  | detach chains next inductionHypothesis =>
      intro chain member
      exact unmentioned chain (List.mem_append_left _ member)

/-- What is not pending after a step was not about to be detached. -/
theorem unlisted_of_step
    (unmentioned : (program.step now backend).1.Unmentioned key) :
    program.Unlisted key := by
  cases program with
  | detach chains next =>
      intro chain member
      exact unmentioned chain (List.mem_append_right _ member)
  | _ => trivial

/-- A program that does not write the key brings no entry of it about. -/
theorem Satisfies.lookup_of_step
    {ensures : Except Failure Result → Prop}
    (satisfies :
      program.Satisfies (fun _ _ => True) (fun query _ => query ≠ key)
        ensures)
    {entry : Entry Value}
    (found : (program.step now backend).1.store.lookup key = some entry) :
    backend.store.lookup key = some entry := by
  induction program with
  | done outcome => exact found
  | clock next inductionHypothesis =>
      exact inductionHypothesis now (satisfies now) found
  | get query next inductionHypothesis => exact found
  | keys accepts next inductionHypothesis => exact found
  | detach chains next inductionHypothesis => exact found
  | setex query seconds value next inductionHypothesis =>
      exact (Backend.setex_lookup_other backend satisfies.1.symm now
        seconds value).symm.trans found
  | del query next inductionHypothesis =>
      by_cases sameKey : key = query
      · subst sameKey
        have gone := backend.store.lookup_remove_same key
        exact (Option.some_ne_none entry (found.symm.trans gone)).elim
      · exact (backend.store.lookup_remove_other sameKey).symm.trans found

end StoreProgram

namespace World

variable {Operation Key Value Failure Result : Type} [DecidableEq Key]

/-- The key is live, and no deletion of it is pending or about to be. -/
structure Spared
    (key : Key)
    (world : World Operation Key Value Failure Result) : Prop where
  live : (world.backend.store.read world.now key).isSome = true
  unmentioned : world.backend.Unmentioned key
  unlisted :
    ∀ (index : Nat) (thread : Thread Operation Key Value Failure Result),
      world.threads[index]? = some thread → thread.program.Unlisted key

variable
  {behaviour : Operation → StoreProgram Key Value Failure Result}
  {world after : World Operation Key Value Failure Result}
  {key : Key}

/-- An entry that was there before, at an instant that is not later. -/
theorem live_of_lookup
    {earlier later : ExpiringStore Key Value}
    {before now : Nat}
    (order : before ≤ now)
    (kept :
      ∀ entry,
        later.lookup key = some entry → earlier.lookup key = some entry)
    (live : (later.read now key).isSome = true) :
    (earlier.read before key).isSome = true := by
  obtain ⟨value, found⟩ := Option.isSome_iff_exists.mp live
  obtain ⟨entry, lookup, entryLive, same⟩ :=
    ExpiringStore.read_eq_some.mp found
  have readable :=
    ExpiringStore.read_eq_some.mpr
      ⟨entry, kept entry lookup, entryLive.earlier order, same⟩
  rw [readable]
  rfl

/-- What a step left spared, it found spared, if it did not write it. -/
theorem Spared.before
    {action : Action Operation}
    (spared : after.Spared key)
    (stepCase : StepCase behaviour world action after)
    (kept :
      ∀ index thread entry,
        action = .advance index →
        world.threads[index]? = some thread →
        (thread.program.step world.now world.backend).1.store.lookup key =
          some entry →
        world.backend.store.lookup key = some entry) :
    world.Spared key := by
  cases stepCase with
  | tick milliseconds =>
      exact ⟨live_of_lookup (Nat.le_add_right _ _) (fun _ => id)
        spared.live, spared.unmentioned, spared.unlisted⟩
  | invoke operation =>
      refine ⟨spared.live, spared.unmentioned, ?_⟩
      intro index thread found
      have inside : index < world.threads.length :=
        (List.getElem?_eq_some_iff.mp found).1
      exact spared.unlisted index thread
        ((List.getElem?_append_left inside).trans found)
  | @advance index thread found =>
      refine ⟨?_, ?_, ?_⟩
      · exact live_of_lookup (Nat.le_refl _)
          (fun entry lookup => kept index thread entry rfl found lookup)
          spared.live
      · exact StoreProgram.unmentioned_of_step spared.unmentioned
      · intro other thread' otherFound
        by_cases sameThread : index = other
        · subst sameThread
          rw [found] at otherFound
          cases otherFound
          exact StoreProgram.unlisted_of_step spared.unmentioned
        · exact spared.unlisted other thread'
            ((List.getElem?_set_ne sameThread).trans otherFound)
  | @drain index removed rest found =>
      have different : key ≠ removed := by
        rintro rfl
        have live := spared.live
        rw [ExpiringStore.read_of_lookup_none
          (ExpiringStore.lookup_remove_same _ _)] at live
        cases live
      refine ⟨?_, ?_, spared.unlisted⟩
      · refine live_of_lookup (Nat.le_refl _) ?_ spared.live
        intro entry lookup
        exact (ExpiringStore.lookup_remove_other _ different).symm.trans
          lookup
      · intro chain member inChain
        obtain ⟨position, atPosition⟩ := List.mem_iff_getElem?.mp member
        by_cases samePosition : index = position
        · subst samePosition
          rw [found] at atPosition
          cases atPosition
          have inRest : key ∈ rest :=
            (List.mem_cons.mp inChain).resolve_left different
          have inside := (List.getElem?_eq_some_iff.mp found).1
          exact spared.unmentioned rest (List.mem_set inside rest) inRest
        · have kept :
              (world.backend.chains.set index rest)[position]? =
                some chain :=
            (List.getElem?_set_ne samePosition).trans atPosition
          exact spared.unmentioned chain (List.mem_of_getElem? kept)
            inChain

end World

end NestBackend
