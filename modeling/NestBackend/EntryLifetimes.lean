import NestBackend.SeenProperty

namespace NestBackend

/-!
# When entries end, and what about them never changes

A clock reading shares its instant with the command that follows it, so a
program can promise something about whole entries: their value, the instant at
which it writes them, and their lifetime.  The promise survives every
interleaving.

Some aspect of the values under a key is fixed if one call at most writes a
value of its own there, with that aspect, and all the others copy the aspect
from what they have read.
-/

/-! ## Promises about entries -/

namespace StoreProgram

variable {Key Value Failure Result Next : Type}

/--
From this instant on, the program relies on `rely` for what it reads, writes
entries as `promised`, and its outcome is as `ensures` says.
-/
def LastsFrom
    (rely : Key → Value → Prop)
    (promised : Key → Entry Value → Prop)
    (ensures : Except Failure Result → Prop) :
    Nat → StoreProgram Key Value Failure Result → Prop
  | _, .done outcome => ensures outcome
  | now, .clock next => LastsFrom rely promised ensures now (next now)
  | _, .get key next =>
      ∀ reply,
        (∀ value, reply = .ok (some value) → rely key value) →
        ∀ later, LastsFrom rely promised ensures later (next reply)
  | now, .setex key seconds value next =>
      (∀ count : Int,
        seconds = some count →
          0 < count → promised key ⟨value, now, count.toNat * 1000⟩) ∧
        ∀ reply later, LastsFrom rely promised ensures later (next reply)
  | _, .del _ next =>
      ∀ reply later, LastsFrom rely promised ensures later (next reply)
  | _, .keys _ next =>
      ∀ reply later, LastsFrom rely promised ensures later (next reply)
  | _, .detach _ next =>
      ∀ later, LastsFrom rely promised ensures later next

/-- The same at whatever instant the program goes on. -/
def Lasts
    (rely : Key → Value → Prop)
    (promised : Key → Entry Value → Prop)
    (ensures : Except Failure Result → Prop)
    (program : StoreProgram Key Value Failure Result) : Prop :=
  ∀ now, program.LastsFrom rely promised ensures now

variable
  {rely : Key → Value → Prop}
  {promised : Key → Entry Value → Prop}
  {ensures : Except Failure Result → Prop}
  {program : StoreProgram Key Value Failure Result}

/-- A promise about keys alone holds whenever they are written. -/
theorem Satisfies.lasts
    {guarantee : Key → Value → Prop}
    (satisfies : program.Satisfies rely guarantee ensures)
    (enough :
      ∀ {key value},
        guarantee key value →
          ∀ now lifetime, promised key ⟨value, now, lifetime⟩) :
    program.Lasts rely promised ensures := by
  intro now
  induction program generalizing now with
  | done outcome => exact satisfies
  | clock next inductionHypothesis =>
      exact inductionHypothesis now (satisfies now) now
  | get key next inductionHypothesis =>
      exact fun reply relied =>
        inductionHypothesis reply (satisfies reply relied)
  | setex key seconds value next inductionHypothesis =>
      exact ⟨fun count _ _ => enough satisfies.1 _ _,
        fun reply => inductionHypothesis reply (satisfies.2 reply)⟩
  | del key next inductionHypothesis =>
      exact fun reply => inductionHypothesis reply (satisfies reply)
  | keys accepts next inductionHypothesis =>
      exact fun reply => inductionHypothesis reply (satisfies reply)
  | detach chains next inductionHypothesis =>
      exact inductionHypothesis satisfies

/-- Sequencing: the rest keeps the promise after every result. -/
theorem LastsFrom.bind
    {rest : Result → StoreProgram Key Value Failure Next}
    {eventually : Except Failure Next → Prop}
    {now : Nat}
    (lasts :
      program.LastsFrom rely promised
        (fun outcome =>
          match outcome with
          | .ok result => (rest result).Lasts rely promised eventually
          | .error failure => eventually (.error failure)) now) :
    (program >>= rest).LastsFrom rely promised eventually now := by
  induction program generalizing now with
  | done outcome =>
      cases outcome with
      | ok result => exact lasts now
      | error failure => exact lasts
  | clock next inductionHypothesis => exact inductionHypothesis now lasts
  | get key next inductionHypothesis =>
      exact fun reply relied later =>
        inductionHypothesis reply (lasts reply relied later)
  | setex key seconds value next inductionHypothesis =>
      exact ⟨lasts.1,
        fun reply later => inductionHypothesis reply (lasts.2 reply later)⟩
  | del key next inductionHypothesis =>
      exact fun reply later =>
        inductionHypothesis reply (lasts reply later)
  | keys accepts next inductionHypothesis =>
      exact fun reply later =>
        inductionHypothesis reply (lasts reply later)
  | detach chains next inductionHypothesis =>
      exact fun later => inductionHypothesis (lasts later)

section Step

variable
  [DecidableEq Key]
  {backend : Backend Key Value}
  {now : Nat}

/-- A step leaves the promise to the rest of the program. -/
theorem LastsFrom.step
    (lasts : program.LastsFrom rely promised ensures now)
    (conforms : backend.store.Conforms rely) :
    (program.step now backend).2.Lasts rely promised ensures ∨
      ∃ outcome, program.step now backend = (backend, .done outcome) := by
  induction program with
  | done outcome => exact Or.inr ⟨outcome, rfl⟩
  | clock next inductionHypothesis => exact inductionHypothesis now lasts
  | get key next inductionHypothesis =>
      refine Or.inl (lasts _ ?_)
      intro value found
      exact conforms.read (Except.ok.inj found)
  | setex key seconds value next inductionHypothesis =>
      exact Or.inl (lasts.2 _)
  | del key next inductionHypothesis => exact Or.inl (lasts _)
  | keys accepts next inductionHypothesis => exact Or.inl (lasts _)
  | detach chains next inductionHypothesis => exact Or.inl lasts

/-- An entry after a step was there, or is as promised. -/
theorem LastsFrom.step_lookup
    (lasts : program.LastsFrom rely promised ensures now)
    {key : Key}
    {entry : Entry Value}
    (found : (program.step now backend).1.store.lookup key = some entry) :
    backend.store.lookup key = some entry ∨ promised key entry := by
  induction program with
  | clock next inductionHypothesis =>
      exact inductionHypothesis now lasts found
  | setex query seconds value next inductionHypothesis =>
      simp only [StoreProgram.step, Backend.setex] at found
      split at found
      · exact Or.inl found
      · split at found
        · rename_i count positive
          by_cases same : key = query
          · subst same
            rw [ExpiringStore.lookup_write_same] at found
            obtain rfl := Option.some.inj found
            exact Or.inr (lasts.1 count rfl positive)
          · rw [ExpiringStore.lookup_write_other _ same] at found
            exact Or.inl found
        · exact Or.inl found
  | del query next inductionHypothesis =>
      exact Or.inl (ExpiringStore.lookup_of_lookup_remove found)
  | _ => exact Or.inl found

end Step

end StoreProgram

/-! ## Promises in whole worlds -/

namespace World

variable
  {Operation Key Value Failure Result : Type}
  [DecidableEq Key]
  {behaviour : Operation → StoreProgram Key Value Failure Result}
  {rely : Key → Value → Prop}
  {promised : Key → Entry Value → Prop}
  {world next : World Operation Key Value Failure Result}

/-- Every entry is as promised, and so will those be that are written. -/
structure Lasting
    (rely : Key → Value → Prop)
    (promised : Key → Entry Value → Prop)
    (world : World Operation Key Value Failure Result) : Prop where
  entries :
    ∀ key entry,
      world.backend.store.lookup key = some entry → promised key entry
  threads :
    ∀ thread ∈ world.threads,
      thread.program.Lasts rely promised (fun _ => True)

/-- Every schedule keeps the promise. -/
theorem Lasting.run
    {actions : List (Action Operation)}
    (lasting : world.Lasting rely promised)
    (reliable :
      ∀ {key entry}, promised key entry → rely key entry.value)
    (invoked :
      ∀ operation,
        .invoke operation ∈ actions →
          (behaviour operation).Lasts rely promised (fun _ => True))
    (ran : world.run? behaviour actions = some next) :
    next.Lasting rely promised := by
  refine run?_induction ?_ ran lasting
  intro current later action member holds stepCase
  cases stepCase with
  | tick milliseconds => exact ⟨holds.entries, holds.threads⟩
  | invoke operation =>
      refine ⟨holds.entries, ?_⟩
      intro thread inThreads
      rcases List.mem_append.mp inThreads with old | isNew
      · exact holds.threads thread old
      · rw [List.mem_singleton.mp isNew]
        exact invoked operation member
  | @advance index thread found =>
      have lasts :=
        holds.threads thread (List.mem_of_getElem? found) current.now
      have conforms : current.backend.store.Conforms rely :=
        fun key entry isThere => reliable (holds.entries key entry isThere)
      refine ⟨?_, ?_⟩
      · intro key entry isThere
        rcases lasts.step_lookup isThere with old | isPromised
        · exact holds.entries key entry old
        · exact isPromised
      · intro other inThreads
        rcases mem_set_cases inThreads with isAdvanced | old
        · rw [isAdvanced, Thread.advance_program]
          rcases lasts.step conforms with goesOn | ⟨outcome, ended⟩
          · exact goesOn
          · rw [ended]
            exact fun _ => trivial
        · exact holds.threads other old
  | @drain index removed rest found =>
      refine ⟨?_, holds.threads⟩
      intro key entry isThere
      exact holds.entries key entry
        (ExpiringStore.lookup_of_lookup_remove isThere)

end World

/-! ## A fixed aspect -/

section Aspect

variable
  {Operation Key Value Failure Result Aspect : Type}
  [DecidableEq Key]
  {key : Key}
  {aspect : Value → Option Aspect}
  {held : Aspect}

/-- The aspect of the values under the key. -/
def HeldAt
    (key : Key)
    (aspect : Value → Option Aspect)
    (held : Aspect) : Key → Value → Prop :=
  fun query value => query = key → aspect value = some held

omit [DecidableEq Key] in
/-- Nothing under other keys has the aspect to keep. -/
theorem heldAt_of_ne
    {query : Key}
    (different : query ≠ key)
    (value : Value) :
    HeldAt key aspect held query value :=
  fun same => absurd same different

/-- While nothing is stored under the key, any aspect is held there. -/
theorem ExpiringStore.conforms_heldAt
    {store : ExpiringStore Key Value}
    (absent : store.lookup key = none) :
    store.Conforms (HeldAt key aspect held) := by
  intro query entry found
  refine heldAt_of_ne ?_ entry.value
  rintro rfl
  rw [absent] at found
  cases found

namespace StoreProgram

/--
A program that writes the key only after it has read something there, and
copies the aspect of that.
-/
structure Copies
    (key : Key)
    (aspect : Value → Option Aspect)
    (program : StoreProgram Key Value Failure Result) : Prop where
  keeps :
    ∀ held,
      program.Satisfies (HeldAt key aspect held) (HeldAt key aspect held)
        (fun _ => True)
  spares : program.KeepsAbsent key

/-- A program that writes the key at most once, and then with the aspect. -/
abbrev WritesOnce
    (key : Key)
    (aspect : Value → Option Aspect)
    (program : StoreProgram Key Value Failure Result) : Prop :=
  program.Founds (fun _ _ => True) key
    (fun value => (aspect value).isSome = true)

variable
  {program : StoreProgram Key Value Failure Result}
  {backend : Backend Key Value}

/-- While nothing is stored under the key, a step leaves it so. -/
theorem Copies.step
    (copies : program.Copies key aspect)
    (absent : backend.store.lookup key = none)
    (now : Nat) :
    (program.step now backend).1.store.lookup key = none ∧
      (program.step now backend).2.Copies key aspect := by
  have conforms := ExpiringStore.conforms_ne_iff.mpr absent
  refine ⟨?_, ?_, copies.spares.step conforms now⟩
  · rw [← ExpiringStore.conforms_ne_iff]
    exact copies.spares.step_conforms id conforms now
  · intro held
    exact (copies.keeps held).step
      (ExpiringStore.conforms_heldAt absent) now

/-- Once it has written the key it does not do so again. -/
theorem Founds.step_once
    (once : program.WritesOnce key aspect)
    (absent : backend.store.lookup key = none)
    (now : Nat) :
    (program.step now backend).2.WritesOnce key aspect ∧
      ∀ entry,
        (program.step now backend).1.store.lookup key = some entry →
          (aspect entry.value).isSome = true ∧
            (program.step now backend).2.Satisfies (fun _ _ => True)
              (Elsewhere (fun _ _ => True) key) (fun _ => True) := by
  have conforms :
      backend.store.Conforms (Elsewhere (fun _ _ => True) key) :=
    ExpiringStore.conforms_elsewhere_iff.mpr
      ⟨fun _ _ _ => trivial, absent⟩
  rcases once.step conforms now with
    ⟨still, founds⟩ | ⟨-, shown, satisfies⟩
  · refine ⟨founds, ?_⟩
    rw [(ExpiringStore.conforms_elsewhere_iff.mp still).2]
    intro entry found
    cases found
  · exact ⟨satisfies.founds,
      fun entry found => ⟨shown entry found, satisfies⟩⟩

end StoreProgram

namespace World

variable
  {behaviour : Operation → StoreProgram Key Value Failure Result}
  {founder : Operation → Bool}
  {world next : World Operation Key Value Failure Result}
  {action : Action Operation}

/-- Nothing is stored under the key yet. -/
structure Unwritten
    (key : Key)
    (aspect : Value → Option Aspect)
    (founder : Operation → Bool)
    (world : World Operation Key Value Failure Result) : Prop where
  absent : world.backend.store.lookup key = none
  threads :
    ∀ thread ∈ world.threads,
      if founder thread.operation then
        thread.program.WritesOnce key aspect
      else
        thread.program.Copies key aspect

/-- The aspect is fixed. -/
structure Fixed
    (key : Key)
    (aspect : Value → Option Aspect)
    (held : Aspect)
    (world : World Operation Key Value Failure Result) : Prop where
  store : world.backend.store.Conforms (HeldAt key aspect held)
  threads :
    ∀ thread ∈ world.threads,
      thread.program.Satisfies (HeldAt key aspect held)
        (HeldAt key aspect held) (fun _ => True)

/-- A fixed aspect stays so in every schedule without a founder. -/
theorem Fixed.run
    {actions : List (Action Operation)}
    (holds : world.Fixed key aspect held)
    (invoked :
      ∀ operation,
        .invoke operation ∈ actions →
          (behaviour operation).Copies key aspect)
    (ran : world.run? behaviour actions = some next) :
    next.Fixed key aspect held := by
  refine run?_induction ?_ ran holds
  intro current later action member holds stepCase
  cases stepCase with
  | tick milliseconds => exact ⟨holds.store, holds.threads⟩
  | invoke operation =>
      refine ⟨holds.store, ?_⟩
      intro thread inThreads
      rcases List.mem_append.mp inThreads with old | isNew
      · exact holds.threads thread old
      · rw [List.mem_singleton.mp isNew]
        exact (invoked operation member).keeps held
  | @advance index thread found =>
      have satisfies := holds.threads thread (List.mem_of_getElem? found)
      refine ⟨satisfies.step_conforms id holds.store current.now, ?_⟩
      intro other inThreads
      rcases mem_set_cases inThreads with isAdvanced | old
      · rw [isAdvanced]
        exact satisfies.step holds.store current.now
      · exact holds.threads other old
  | @drain index removed rest found =>
      exact ⟨holds.store.remove removed, holds.threads⟩

/-- Until the key is written, an action leaves it so or fixes the aspect. -/
theorem Unwritten.step
    (unwritten : world.Unwritten key aspect founder)
    (one : OneFounder founder (world.threads.map Thread.operation))
    (invoked :
      ∀ operation,
        action = .invoke operation →
        if founder operation then
          (behaviour operation).WritesOnce key aspect
        else
          (behaviour operation).Copies key aspect)
    (stepCase : StepCase behaviour world action next) :
    next.Unwritten key aspect founder ∨
      (∃ held, next.Fixed key aspect held) ∧
        ∃ thread ∈ world.threads, founder thread.operation = true := by
  cases stepCase with
  | tick milliseconds =>
      exact Or.inl ⟨unwritten.absent, unwritten.threads⟩
  | invoke operation =>
      refine Or.inl ⟨unwritten.absent, ?_⟩
      intro thread member
      rcases List.mem_append.mp member with old | isNew
      · exact unwritten.threads thread old
      · rw [List.mem_singleton.mp isNew]
        exact invoked operation rfl
  | @drain index removed rest found =>
      refine Or.inl ⟨?_, unwritten.threads⟩
      cases stored : (world.backend.store.remove removed).lookup key with
      | none => rfl
      | some entry =>
          have before := ExpiringStore.lookup_of_lookup_remove stored
          rw [unwritten.absent] at before
          cases before
  | @advance index thread found =>
      have inside := List.mem_of_getElem? found
      have program := unwritten.threads thread inside
      cases isFounder : founder thread.operation with
      | false =>
          simp only [isFounder, Bool.false_eq_true, ↓reduceIte] at program
          obtain ⟨absent, copies⟩ :=
            program.step unwritten.absent world.now
          refine Or.inl ⟨absent, ?_⟩
          intro other member
          rcases mem_set_cases member with isAdvanced | old
          · rw [isAdvanced]
            simpa [Thread.advance, isFounder] using copies
          · exact unwritten.threads other old
      | true =>
          simp only [isFounder, ↓reduceIte] at program
          have rest := program.step_once unwritten.absent world.now
          cases stored :
              (thread.program.step world.now
                world.backend).1.store.lookup key with
          | none =>
              refine Or.inl ⟨stored, ?_⟩
              intro other member
              rcases mem_set_cases member with isAdvanced | old
              · rw [isAdvanced]
                simpa [Thread.advance, isFounder] using rest.1
              · exact unwritten.threads other old
          | some entry =>
              obtain ⟨hasAspect, written⟩ := rest.2 entry stored
              obtain ⟨held, isHeld⟩ := Option.isSome_iff_exists.mp hasAspect
              refine Or.inr ⟨⟨held, ?_, ?_⟩, thread, inside, isFounder⟩
              · intro query other otherFound same
                subst same
                rw [stored] at otherFound
                obtain rfl := Option.some.inj otherFound
                exact isHeld
              · intro other member
                obtain ⟨place, placeFound⟩ :=
                  List.mem_iff_getElem?.mp member
                by_cases same : index = place
                · subst same
                  rw [List.getElem?_set_self
                    (List.getElem?_eq_some_iff.mp found).1] at placeFound
                  obtain rfl := Option.some.inj placeFound
                  refine written.mono (fun _ => trivial) ?_ id
                  exact fun elsewhere => heldAt_of_ne elsewhere.2 _
                · rw [List.getElem?_set_ne same] at placeFound
                  have notFounder :=
                    one.other found isFounder placeFound (Ne.symm same)
                  have copies :=
                    unwritten.threads other
                      (List.mem_of_getElem? placeFound)
                  rw [notFounder] at copies
                  exact copies.keeps _

/--
In every schedule with at most one founder the key is not written, or the
founder was among the calls and the aspect is fixed.
-/
theorem Unwritten.run
    {actions : List (Action Operation)}
    (unwritten : world.Unwritten key aspect founder)
    (one : OneFounder founder (world.ledger actions))
    (invoked :
      ∀ operation,
        .invoke operation ∈ actions →
        if founder operation then
          (behaviour operation).WritesOnce key aspect
        else
          (behaviour operation).Copies key aspect)
    (ran : world.run? behaviour actions = some next) :
    next.Unwritten key aspect founder ∨
      (∃ held, next.Fixed key aspect held) ∧
        ∃ operation ∈ world.ledger actions, founder operation = true := by
  induction actions generalizing world with
  | nil =>
      obtain rfl := Option.some.inj ran
      exact Or.inl unwritten
  | cons action rest inductionHypothesis =>
      obtain ⟨middle, stepped, ranRest⟩ := run?_cons.mp ran
      have stepCase := step_cases stepped
      have here := (List.pairwise_append.mp one).1
      have oneRest : OneFounder founder (middle.ledger rest) := by
        rw [stepCase.ledger]
        exact one
      have invokedRest :
          ∀ operation,
            .invoke operation ∈ rest →
            if founder operation then
              (behaviour operation).WritesOnce key aspect
            else
              (behaviour operation).Copies key aspect :=
        fun operation member =>
          invoked operation (List.mem_cons_of_mem _ member)
      have invokedNow :
          ∀ operation,
            action = .invoke operation →
            if founder operation then
              (behaviour operation).WritesOnce key aspect
            else
              (behaviour operation).Copies key aspect := by
        rintro operation rfl
        exact invoked operation List.mem_cons_self
      rcases unwritten.step here invokedNow stepCase with
        still | ⟨⟨held, holds⟩, thread, member, isFounder⟩
      · rw [← stepCase.ledger]
        exact inductionHypothesis still oneRest invokedRest ranRest
      · refine Or.inr ⟨⟨held, holds.run ?_ ranRest⟩, thread.operation,
          List.mem_append_left _ (List.mem_map_of_mem member), isFounder⟩
        intro operation inRest
        have called : operation ∈ calls (action :: rest) :=
          List.mem_filterMap.mpr
            ⟨_, List.mem_cons_of_mem _ inRest, rfl⟩
        have notFounder :=
          (List.pairwise_append.mp one).2.2 _
            (List.mem_map_of_mem member) operation called isFounder
        have copies := invokedRest operation inRest
        rw [notFounder] at copies
        exact copies

/--
What is stored under the key at two instants of a schedule that begins with
nothing under way has the same aspect.
-/
theorem aspect_kept
    {first second : List (Action Operation)}
    {middle after : World Operation Key Value Failure Result}
    {earlier later : Entry Value}
    (idle : world.threads = [])
    (absent : world.backend.store.lookup key = none)
    (one : OneFounder founder (calls (first ++ second)))
    (invoked :
      ∀ operation ∈ calls (first ++ second),
        if founder operation then
          (behaviour operation).WritesOnce key aspect
        else
          (behaviour operation).Copies key aspect)
    (ranFirst : world.run? behaviour first = some middle)
    (ranSecond : middle.run? behaviour second = some after)
    (found : middle.backend.store.lookup key = some earlier)
    (foundLater : after.backend.store.lookup key = some later) :
    aspect later.value = aspect earlier.value := by
  have unwritten : world.Unwritten key aspect founder := by
    refine ⟨absent, ?_⟩
    rw [idle]
    intro thread member
    cases member
  have split : calls (first ++ second) = calls first ++ calls second :=
    List.filterMap_append
  rw [split] at one invoked
  obtain ⟨oneFirst, -, across⟩ := List.pairwise_append.mp one
  have ledger : world.ledger first = calls first := by
    simp [World.ledger, idle]
  have called :
      ∀ {actions : List (Action Operation)} {operation : Operation},
        .invoke operation ∈ actions → operation ∈ calls actions :=
    fun member => List.mem_filterMap.mpr ⟨_, member, rfl⟩
  rcases unwritten.run (by rwa [ledger])
      (fun operation member =>
        invoked operation (List.mem_append_left _ (called member)))
      ranFirst with
    still | ⟨⟨held, holds⟩, operation, inFirst, isFounder⟩
  · rw [still.absent] at found
    cases found
  · rw [ledger] at inFirst
    have noFounder :
        ∀ other,
          .invoke other ∈ second →
            (behaviour other).Copies key aspect := by
      intro other member
      have copies :=
        invoked other (List.mem_append_right _ (called member))
      rwa [across operation inFirst other (called member) isFounder]
        at copies
    have holdsLater := holds.run noFounder ranSecond
    rw [holdsLater.store key later foundLater rfl,
      holds.store key earlier found rfl]

end World

end Aspect

end NestBackend
