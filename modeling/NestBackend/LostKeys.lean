import NestBackend.ProgramPool

namespace NestBackend

/-!
# Which call a lost key goes back to

Some keys are to be spared: no program deletes them, and none starts a deletion
of them, unless a scan of its own has shown it something that was to stay hidden
from it.  In every interleaving, a spared key that is stored and then is not
goes back to such a scan.
-/

/-! ## Programs that spare keys -/

namespace StoreProgram

variable {Key Value Failure Result Next : Type}

/--
The program deletes no spared key and starts no deletion of one, whatever the
replies, as long as no scan shows it a hidden key.
-/
def Spares
    (spared hidden : Key → Prop) :
    StoreProgram Key Value Failure Result → Prop
  | .done _ => True
  | .clock next => ∀ now, Spares spared hidden (next now)
  | .get _ next => ∀ reply, Spares spared hidden (next reply)
  | .setex _ _ _ next => ∀ reply, Spares spared hidden (next reply)
  | .del key next =>
      ¬ spared key ∧ ∀ reply, Spares spared hidden (next reply)
  | .keys accepts next =>
      ∀ reply,
        (∀ listed,
          reply = .ok listed →
            ∀ key ∈ listed, accepts key = true ∧ ¬ hidden key) →
          Spares spared hidden (next reply)
  | .detach chains next =>
      (∀ chain ∈ chains, ∀ key ∈ chain, ¬ spared key) ∧
        Spares spared hidden next

/-- The next command is a scan, and it shows a hidden key. -/
def Shows
    [DecidableEq Key]
    (hidden : Key → Prop)
    (now : Nat)
    (backend : Backend Key Value) :
    StoreProgram Key Value Failure Result → Prop
  | .clock next => Shows hidden now backend (next now)
  | .keys accepts _ => ∃ key ∈ backend.store.scan now accepts, hidden key
  | _ => False

variable
  {spared hidden : Key → Prop}
  {program : StoreProgram Key Value Failure Result}

/-- Sequencing: the rest spares the keys after every result. -/
theorem Spares.bind
    {rest : Result → StoreProgram Key Value Failure Next}
    (spares : program.Spares spared hidden)
    (restSpares : ∀ result, (rest result).Spares spared hidden) :
    (program >>= rest).Spares spared hidden := by
  induction program with
  | done outcome =>
      cases outcome with
      | ok result => exact restSpares result
      | error failure => trivial
  | clock next inductionHypothesis =>
      exact fun now => inductionHypothesis now (spares now)
  | get key next inductionHypothesis =>
      exact fun reply => inductionHypothesis reply (spares reply)
  | setex key seconds value next inductionHypothesis =>
      exact fun reply => inductionHypothesis reply (spares reply)
  | del key next inductionHypothesis =>
      exact ⟨spares.1,
        fun reply => inductionHypothesis reply (spares.2 reply)⟩
  | keys accepts next inductionHypothesis =>
      exact fun reply unseen =>
        inductionHypothesis reply (spares reply unseen)
  | detach chains next inductionHypothesis =>
      exact ⟨spares.1, inductionHypothesis spares.2⟩

section Step

variable
  [DecidableEq Key]
  {backend : Backend Key Value}
  {now : Nat}
  {key : Key}

/-- What is shown is a key of its own that can be read. -/
theorem Shows.exists_key
    (shows : program.Shows hidden now backend) :
    ∃ key,
      hidden key ∧
        program.Shows (fun other => other = key) now backend ∧
        (backend.store.read now key).isSome = true := by
  induction program with
  | clock next inductionHypothesis => exact inductionHypothesis now shows
  | keys accepts next inductionHypothesis =>
      obtain ⟨key, member, isHidden⟩ := shows
      exact ⟨key, isHidden, ⟨key, member, rfl⟩,
        (ExpiringStore.mem_scan.mp member).1⟩
  | _ => cases shows

/-- A step that shows nothing hidden leaves a program that spares the keys. -/
theorem Spares.step
    (spares : program.Spares spared hidden)
    (unseen : ¬ program.Shows hidden now backend) :
    (program.step now backend).2.Spares spared hidden := by
  induction program with
  | done outcome => trivial
  | clock next inductionHypothesis =>
      exact inductionHypothesis now (spares now) unseen
  | get query next inductionHypothesis => exact spares _
  | setex query seconds value next inductionHypothesis => exact spares _
  | del query next inductionHypothesis => exact spares.2 _
  | keys accepts next inductionHypothesis =>
      apply spares
      intro listed isReply query member
      obtain rfl := Except.ok.inj isReply
      exact ⟨(ExpiringStore.mem_scan.mp member).2,
        fun isHidden => unseen ⟨query, member, isHidden⟩⟩
  | detach chains next inductionHypothesis => exact spares.2

/-- A step leaves a spared key stored. -/
theorem Spares.step_isSome
    (spares : program.Spares spared hidden)
    (isSpared : spared key)
    (stored : (backend.store.lookup key).isSome = true) :
    ((program.step now backend).1.store.lookup key).isSome = true := by
  induction program with
  | clock next inductionHypothesis =>
      exact inductionHypothesis now (spares now)
  | setex query seconds value next inductionHypothesis =>
      simp only [StoreProgram.step, Backend.setex]
      split
      · exact stored
      · split
        · by_cases same : key = query
          · rw [same, ExpiringStore.lookup_write_same]
            rfl
          · rw [ExpiringStore.lookup_write_other _ same]
            exact stored
        · exact stored
  | del query next inductionHypothesis =>
      have different : key ≠ query := by
        rintro rfl
        exact spares.1 isSpared
      simp only [StoreProgram.step, Backend.del_store]
      rw [ExpiringStore.lookup_remove_other _ different]
      exact stored
  | _ => exact stored

/-- A step starts no deletion of a spared key. -/
theorem Spares.step_unmentioned
    (spares : program.Spares spared hidden)
    (isSpared : spared key)
    (unmentioned : backend.Unmentioned key) :
    (program.step now backend).1.Unmentioned key := by
  induction program with
  | clock next inductionHypothesis =>
      exact inductionHypothesis now (spares now)
  | setex query seconds value next inductionHypothesis =>
      intro chain member
      rw [StoreProgram.step, Backend.setex_chains] at member
      exact unmentioned chain member
  | detach chains next inductionHypothesis =>
      intro chain member inChain
      rcases List.mem_append.mp member with pending | started
      · exact unmentioned chain pending inChain
      · exact spares.1 chain started key inChain isSpared
  | _ => exact unmentioned

end Step

end StoreProgram

/-! ## Whole schedules -/

namespace World

variable {Operation Key Value Failure Result : Type} [DecidableEq Key]

/-- At some point of the schedule a scan shows a call what is hidden from it. -/
def ShownIn
    (behaviour : Operation → StoreProgram Key Value Failure Result)
    (hidden : Operation → Key → Prop)
    (world : World Operation Key Value Failure Result)
    (actions : List (Action Operation)) : Prop :=
  ∃ before index rest current thread,
    actions = before ++ .advance index :: rest ∧
      world.run? behaviour before = some current ∧
      current.threads[index]? = some thread ∧
      thread.program.Shows (hidden thread.operation) current.now
        current.backend

/-- No deletion of a spared key is pending, and every call spares them. -/
structure Sparing
    (spared : Key → Prop)
    (hidden : Operation → Key → Prop)
    (world : World Operation Key Value Failure Result) : Prop where
  chains : ∀ key, spared key → world.backend.Unmentioned key
  threads :
    ∀ thread ∈ world.threads,
      thread.program.Spares spared (hidden thread.operation)

variable
  {behaviour : Operation → StoreProgram Key Value Failure Result}
  {spared : Key → Prop}
  {hidden : Operation → Key → Prop}
  {world after : World Operation Key Value Failure Result}
  {first second : List (Action Operation)}

/-- What a schedule begins with is part of it. -/
theorem ShownIn.append
    (shown : world.ShownIn behaviour hidden first)
    (second : List (Action Operation)) :
    world.ShownIn behaviour hidden (first ++ second) := by
  obtain ⟨before, index, rest, current, thread, split, ran, found, shows⟩ :=
    shown
  refine ⟨before, index, rest ++ second, current, thread, ?_, ran, found,
    shows⟩
  rw [split, List.append_assoc, List.cons_append]

/-- Later in the schedule is later in the longer schedule. -/
theorem ShownIn.prepend
    {middle : World Operation Key Value Failure Result}
    (shown : middle.ShownIn behaviour hidden second)
    (ran : world.run? behaviour first = some middle) :
    world.ShownIn behaviour hidden (first ++ second) := by
  obtain ⟨before, index, rest, current, thread, split, ranBefore, found,
    shows⟩ := shown
  refine ⟨first ++ before, index, rest, current, thread, ?_, ?_, found,
    shows⟩
  · rw [split, List.append_assoc]
  · exact run?_append.mpr ⟨middle, ran, ranBefore⟩

/-- One action spares the keys, or shows a call what is hidden from it. -/
theorem Sparing.step
    (sparing : world.Sparing spared hidden)
    {action : Action Operation}
    (invoked :
      ∀ operation,
        action = .invoke operation →
          (behaviour operation).Spares spared (hidden operation))
    (stepCase : StepCase behaviour world action after) :
    (after.Sparing spared hidden ∧
        ∀ key,
          spared key →
          (world.backend.store.lookup key).isSome = true →
            (after.backend.store.lookup key).isSome = true) ∨
      ∃ index thread,
        action = .advance index ∧
          world.threads[index]? = some thread ∧
          thread.program.Shows (hidden thread.operation) world.now
            world.backend := by
  cases stepCase with
  | tick milliseconds =>
      exact Or.inl ⟨⟨sparing.chains, sparing.threads⟩, fun _ _ => id⟩
  | invoke operation =>
      refine Or.inl ⟨⟨sparing.chains, ?_⟩, fun _ _ => id⟩
      intro thread member
      rcases List.mem_append.mp member with old | isNew
      · exact sparing.threads thread old
      · rw [List.mem_singleton.mp isNew]
        exact invoked operation rfl
  | @advance index thread found =>
      by_cases shows :
          thread.program.Shows (hidden thread.operation) world.now
            world.backend
      · exact Or.inr ⟨index, thread, rfl, found, shows⟩
      have spares := sparing.threads thread (List.mem_of_getElem? found)
      refine Or.inl ⟨⟨?_, ?_⟩, fun key => spares.step_isSome⟩
      · intro key isSpared
        exact spares.step_unmentioned isSpared (sparing.chains key isSpared)
      · intro other member
        rcases mem_set_cases member with isAdvanced | old
        · rw [isAdvanced]
          exact spares.step shows
        · exact sparing.threads other old
  | @drain index removed rest found =>
      refine Or.inl ⟨⟨?_, sparing.threads⟩, ?_⟩
      · intro key isSpared
        exact (sparing.chains key isSpared).drain found
      · intro key isSpared stored
        have different := (sparing.chains key isSpared).different found
        rw [ExpiringStore.lookup_remove_other _ different]
        exact stored

/-- A whole schedule spares the keys, or shows a call what is hidden from it. -/
theorem Sparing.run
    {actions : List (Action Operation)}
    (sparing : world.Sparing spared hidden)
    (invoked :
      ∀ operation,
        .invoke operation ∈ actions →
          (behaviour operation).Spares spared (hidden operation))
    (ran : world.run? behaviour actions = some after) :
    (after.Sparing spared hidden ∧
        ∀ key,
          spared key →
          (world.backend.store.lookup key).isSome = true →
            (after.backend.store.lookup key).isSome = true) ∨
      world.ShownIn behaviour hidden actions := by
  induction actions generalizing world with
  | nil =>
      cases ran
      exact Or.inl ⟨sparing, fun _ _ => id⟩
  | cons action rest inductionHypothesis =>
      obtain ⟨next, stepped, ranRest⟩ := run?_cons.mp ran
      have here :=
        sparing.step
          (fun operation isInvoke =>
            invoked operation (isInvoke ▸ List.mem_cons_self))
          (step_cases stepped)
      rcases here with
        ⟨nextSparing, kept⟩ | ⟨index, thread, isAdvance, found, shows⟩
      · have later :=
          inductionHypothesis nextSparing
            (fun operation member =>
              invoked operation (List.mem_cons_of_mem _ member)) ranRest
        rcases later with ⟨afterSparing, keptLater⟩ | shown
        · refine Or.inl ⟨afterSparing, ?_⟩
          intro key isSpared stored
          exact keptLater key isSpared (kept key isSpared stored)
        · have ranFirst : world.run? behaviour [action] = some next :=
            run?_cons.mpr ⟨next, stepped, rfl⟩
          exact Or.inr (shown.prepend ranFirst)
      · refine Or.inr ⟨[], index, rest, world, thread, ?_, rfl, found, shows⟩
        rw [isAdvance]
        rfl

/--
A spared key that is stored at one instant of a schedule and not at a later one
goes back to a scan that showed a call what was hidden from it.
-/
theorem shownIn_of_lost
    {middle : World Operation Key Value Failure Result}
    {key : Key}
    (idle : world.threads = [])
    (settled : world.backend.chains = [])
    (invoked :
      ∀ operation,
        .invoke operation ∈ first ++ second →
          (behaviour operation).Spares spared (hidden operation))
    (ranFirst : world.run? behaviour first = some middle)
    (ranSecond : middle.run? behaviour second = some after)
    (isSpared : spared key)
    (stored : (middle.backend.store.lookup key).isSome = true)
    (lost : after.backend.store.lookup key = none) :
    world.ShownIn behaviour hidden (first ++ second) := by
  have sparing : world.Sparing spared hidden := by
    refine ⟨?_, ?_⟩
    · intro query _ chain member
      rw [settled] at member
      cases member
    · intro thread member
      rw [idle] at member
      cases member
  have calledFirst :=
    sparing.run
      (fun operation member =>
        invoked operation (List.mem_append_left _ member)) ranFirst
  rcases calledFirst with ⟨middleSparing, -⟩ | shown
  · have calledSecond :=
      middleSparing.run
        (fun operation member =>
          invoked operation (List.mem_append_right _ member)) ranSecond
    rcases calledSecond with ⟨-, kept⟩ | shown
    · have stillStored := kept key isSpared stored
      rw [lost] at stillStored
      cases stillStored
    · exact shown.prepend ranFirst
  · exact shown.append second

end World

end NestBackend
