import NestBackend.ProgramErasure

namespace NestBackend

/-!
# A property that stays once it was seen

One call at most founds a key: it writes the key for the first time, with an
initial value.  The other calls write the key only after they have found a
value there, and what they write has a property, or the value that they have
found had it.

Then the property stays: a call that has seen it can rely on it at every later
reading, although other calls write the key in between and nothing is locked.
And whatever is found under the key is an initial value or has the property.

The values of all keys may also be relied upon to be of some form, which every
call keeps.
-/

/-- A value of the form, under another key. -/
def Elsewhere
    {Key Value : Type}
    (rely : Key → Value → Prop)
    (key : Key) : Key → Value → Prop :=
  fun query value => rely query value ∧ query ≠ key

/-- A value of the form, and with the property if it is one of the key. -/
def WithProperty
    {Key Value : Type}
    (rely : Key → Value → Prop)
    (key : Key)
    (has : Value → Prop) : Key → Value → Prop :=
  fun query value => rely query value ∧ (query = key → has value)

namespace ExpiringStore

variable
  {Key Value : Type}
  [DecidableEq Key]
  {rely : Key → Value → Prop}
  {key : Key}
  {has : Value → Prop}
  {store : ExpiringStore Key Value}

/-- What is stored under the key, if anything is, has the property. -/
def Shows
    (key : Key)
    (has : Value → Prop)
    (store : ExpiringStore Key Value) : Prop :=
  ∀ entry, store.lookup key = some entry → has entry.value

/-- Nothing is stored under the key. -/
theorem conforms_elsewhere_iff :
    store.Conforms (Elsewhere rely key) ↔
      store.Conforms rely ∧ store.lookup key = none := by
  rw [← conforms_ne_iff]
  constructor
  · intro conforms
    exact ⟨fun query entry found => (conforms query entry found).1,
      fun query entry found => (conforms query entry found).2⟩
  · rintro ⟨conforms, absent⟩ query entry found
    exact ⟨conforms query entry found, absent query entry found⟩

/-- What is stored under the key has the property. -/
theorem conforms_withProperty_iff :
    store.Conforms (WithProperty rely key has) ↔
      store.Conforms rely ∧ store.Shows key has := by
  constructor
  · intro conforms
    exact ⟨fun query entry found => (conforms query entry found).1,
      fun entry found => (conforms key entry found).2 rfl⟩
  · rintro ⟨conforms, shows'⟩ query entry found
    refine ⟨conforms query entry found, ?_⟩
    rintro rfl
    exact shows' entry found

/-- A deletion leaves an entry or removes it. -/
theorem lookup_of_lookup_remove
    {query : Key}
    {entry : Entry Value}
    (found : (store.remove query).lookup key = some entry) :
    store.lookup key = some entry := by
  by_cases same : key = query
  · rw [same, lookup_remove_same] at found
    cases found
  · rwa [store.lookup_remove_other same] at found

end ExpiringStore

namespace StoreProgram

variable
  {Key Value Failure Result Next : Type}
  {rely : Key → Value → Prop}
  {key : Key}
  {initial has : Value → Prop}
  {unseen seen : Except Failure Result → Prop}
  {program : StoreProgram Key Value Failure Result}

/--
The program writes the key only with the property.  It may stop caring once it
has found the property there: from then on it relies on it.  Its outcome is as
`unseen` says, or as `seen` says if it has found the property.
-/
def Heeds
    (rely : Key → Value → Prop)
    (key : Key)
    (has : Value → Prop)
    (unseen seen : Except Failure Result → Prop) :
    StoreProgram Key Value Failure Result → Prop
  | .done outcome => unseen outcome
  | .clock next => ∀ now, (next now).Heeds rely key has unseen seen
  | .get query next =>
      ∀ reply,
        (∀ value, reply = .ok (some value) → rely query value) →
        (next reply).Heeds rely key has unseen seen ∨
          (∃ value,
            query = key ∧ reply = .ok (some value) ∧ has value) ∧
            (next reply).Satisfies (WithProperty rely key has)
              (WithProperty rely key has) seen
  | .setex query _ value next =>
      WithProperty rely key has query value ∧
        ∀ reply, (next reply).Heeds rely key has unseen seen
  | .del _ next => ∀ reply, (next reply).Heeds rely key has unseen seen
  | .keys _ next => ∀ reply, (next reply).Heeds rely key has unseen seen
  | .detach _ next => next.Heeds rely key has unseen seen

/--
The program writes the key at most once, with an initial value, whatever it
finds.
-/
def Founds
    (rely : Key → Value → Prop)
    (key : Key)
    (initial : Value → Prop) :
    StoreProgram Key Value Failure Result → Prop
  | .done _ => True
  | .clock next => ∀ now, (next now).Founds rely key initial
  | .get query next =>
      ∀ reply,
        (∀ value, reply = .ok (some value) → rely query value) →
        (next reply).Founds rely key initial
  | .setex query _ value next =>
      rely query value ∧
        (query ≠ key ∧ (∀ reply, (next reply).Founds rely key initial) ∨
          query = key ∧ initial value ∧
            ∀ reply,
              (next reply).Satisfies rely (Elsewhere rely key)
                (fun _ => True))
  | .del _ next => ∀ reply, (next reply).Founds rely key initial
  | .keys _ next => ∀ reply, (next reply).Founds rely key initial
  | .detach _ next => next.Founds rely key initial

/-- A program that writes the key with the property in any case. -/
theorem Satisfies.heeds
    (satisfies :
      program.Satisfies rely (WithProperty rely key has) unseen) :
    program.Heeds rely key has unseen seen := by
  induction program with
  | done outcome => exact satisfies
  | clock next inductionHypothesis =>
      exact fun now => inductionHypothesis now (satisfies now)
  | get query next inductionHypothesis =>
      intro reply relied
      exact Or.inl (inductionHypothesis reply (satisfies reply relied))
  | setex query seconds value next inductionHypothesis =>
      exact ⟨satisfies.1,
        fun reply => inductionHypothesis reply (satisfies.2 reply)⟩
  | del query next inductionHypothesis =>
      exact fun reply => inductionHypothesis reply (satisfies reply)
  | keys accepts next inductionHypothesis =>
      exact fun reply => inductionHypothesis reply (satisfies reply)
  | detach chains next inductionHypothesis =>
      exact inductionHypothesis satisfies

/-- Ensure less of the outcome. -/
theorem Heeds.mono
    {unseenLess seenLess : Except Failure Result → Prop}
    (heeds : program.Heeds rely key has unseen seen)
    (unseenMono : ∀ {outcome}, unseen outcome → unseenLess outcome)
    (seenMono : ∀ {outcome}, seen outcome → seenLess outcome) :
    program.Heeds rely key has unseenLess seenLess := by
  induction program with
  | done outcome => exact unseenMono heeds
  | clock next inductionHypothesis =>
      exact fun now => inductionHypothesis now (heeds now)
  | get query next inductionHypothesis =>
      intro reply relied
      rcases heeds reply relied with heedsNext | ⟨found, satisfies⟩
      · exact Or.inl (inductionHypothesis reply heedsNext)
      · exact Or.inr ⟨found, satisfies.mono id id seenMono⟩
  | setex query seconds value next inductionHypothesis =>
      exact ⟨heeds.1,
        fun reply => inductionHypothesis reply (heeds.2 reply)⟩
  | del query next inductionHypothesis =>
      exact fun reply => inductionHypothesis reply (heeds reply)
  | keys accepts next inductionHypothesis =>
      exact fun reply => inductionHypothesis reply (heeds reply)
  | detach chains next inductionHypothesis =>
      exact inductionHypothesis heeds

/-- Sequencing: the rest has to rely on the property only if it was seen. -/
theorem Heeds.bind
    {rest : Result → StoreProgram Key Value Failure Next}
    {unseenNext seenNext : Except Failure Next → Prop}
    (heeds :
      program.Heeds rely key has
        (fun outcome =>
          match outcome with
          | .ok result =>
              (rest result).Heeds rely key has unseenNext seenNext
          | .error failure => unseenNext (.error failure))
        (fun outcome =>
          match outcome with
          | .ok result =>
              (rest result).Satisfies (WithProperty rely key has)
                (WithProperty rely key has) seenNext
          | .error failure => seenNext (.error failure))) :
    (program >>= rest).Heeds rely key has unseenNext seenNext := by
  induction program with
  | done outcome =>
      cases outcome with
      | ok result => exact heeds
      | error failure => exact heeds
  | clock next inductionHypothesis =>
      exact fun now => inductionHypothesis now (heeds now)
  | get query next inductionHypothesis =>
      intro reply relied
      rcases heeds reply relied with heedsNext | ⟨found, satisfies⟩
      · exact Or.inl (inductionHypothesis reply heedsNext)
      · exact Or.inr ⟨found, satisfies.bind⟩
  | setex query seconds value next inductionHypothesis =>
      exact ⟨heeds.1,
        fun reply => inductionHypothesis reply (heeds.2 reply)⟩
  | del query next inductionHypothesis =>
      exact fun reply => inductionHypothesis reply (heeds reply)
  | keys accepts next inductionHypothesis =>
      exact fun reply => inductionHypothesis reply (heeds reply)
  | detach chains next inductionHypothesis =>
      exact inductionHypothesis heeds

/-- Sequencing: the first part does not write the key. -/
theorem Founds.bind
    {rest : Result → StoreProgram Key Value Failure Next}
    (satisfies :
      program.Satisfies rely (Elsewhere rely key) (fun outcome =>
        match outcome with
        | .ok result => (rest result).Founds rely key initial
        | .error _ => True)) :
    (program >>= rest).Founds rely key initial := by
  induction program with
  | done outcome =>
      cases outcome with
      | ok result => exact satisfies
      | error failure => trivial
  | clock next inductionHypothesis =>
      exact fun now => inductionHypothesis now (satisfies now)
  | get query next inductionHypothesis =>
      intro reply relied
      exact inductionHypothesis reply (satisfies reply relied)
  | setex query seconds value next inductionHypothesis =>
      exact ⟨satisfies.1.1,
        Or.inl ⟨satisfies.1.2,
          fun reply => inductionHypothesis reply (satisfies.2 reply)⟩⟩
  | del query next inductionHypothesis =>
      exact fun reply => inductionHypothesis reply (satisfies reply)
  | keys accepts next inductionHypothesis =>
      exact fun reply => inductionHypothesis reply (satisfies reply)
  | detach chains next inductionHypothesis =>
      exact inductionHypothesis satisfies

/-- A program that never writes the key founds nothing. -/
theorem Satisfies.founds
    {ensures : Except Failure Result → Prop}
    (satisfies : program.Satisfies rely (Elsewhere rely key) ensures) :
    program.Founds rely key initial := by
  induction program with
  | done outcome => trivial
  | clock next inductionHypothesis =>
      exact fun now => inductionHypothesis now (satisfies now)
  | get query next inductionHypothesis =>
      intro reply relied
      exact inductionHypothesis reply (satisfies reply relied)
  | setex query seconds value next inductionHypothesis =>
      exact ⟨satisfies.1.1,
        Or.inl ⟨satisfies.1.2,
          fun reply => inductionHypothesis reply (satisfies.2 reply)⟩⟩
  | del query next inductionHypothesis =>
      exact fun reply => inductionHypothesis reply (satisfies reply)
  | keys accepts next inductionHypothesis =>
      exact fun reply => inductionHypothesis reply (satisfies reply)
  | detach chains next inductionHypothesis =>
      exact inductionHypothesis satisfies

/-- Sequencing: nothing is written after the program. -/
theorem Founds.bind_last
    {rest : Result → StoreProgram Key Value Failure Next}
    (founds : program.Founds rely key initial)
    (last :
      ∀ result,
        (rest result).Satisfies rely (Elsewhere rely key)
          (fun _ => True)) :
    (program >>= rest).Founds rely key initial := by
  induction program with
  | done outcome =>
      cases outcome with
      | ok result => exact (last result).founds
      | error failure => trivial
  | clock next inductionHypothesis =>
      exact fun now => inductionHypothesis now (founds now)
  | get query next inductionHypothesis =>
      intro reply relied
      exact inductionHypothesis reply (founds reply relied)
  | setex query seconds value next inductionHypothesis =>
      refine ⟨founds.1, ?_⟩
      rcases founds.2 with ⟨other, later⟩ | ⟨same, isInitial, later⟩
      · exact Or.inl
          ⟨other, fun reply => inductionHypothesis reply (later reply)⟩
      · refine Or.inr ⟨same, isInitial, ?_⟩
        intro reply
        refine Satisfies.bind ((later reply).mono id id ?_)
        intro outcome _
        cases outcome with
        | ok result => exact last result
        | error failure => trivial
  | del query next inductionHypothesis =>
      exact fun reply => inductionHypothesis reply (founds reply)
  | keys accepts next inductionHypothesis =>
      exact fun reply => inductionHypothesis reply (founds reply)
  | detach chains next inductionHypothesis =>
      exact inductionHypothesis founds

/-- A handler of failures that writes nothing. -/
theorem Founds.tryCatch
    {handler : Failure → StoreProgram Key Value Failure Result}
    (founds : program.Founds rely key initial)
    (last :
      ∀ failure,
        (handler failure).Satisfies rely (Elsewhere rely key)
          (fun _ => True)) :
    (program.tryCatch handler).Founds rely key initial := by
  induction program with
  | done outcome =>
      cases outcome with
      | ok result => trivial
      | error failure => exact (last failure).founds
  | clock next inductionHypothesis =>
      exact fun now => inductionHypothesis now (founds now)
  | get query next inductionHypothesis =>
      intro reply relied
      exact inductionHypothesis reply (founds reply relied)
  | setex query seconds value next inductionHypothesis =>
      refine ⟨founds.1, ?_⟩
      rcases founds.2 with ⟨other, later⟩ | ⟨same, isInitial, later⟩
      · exact Or.inl
          ⟨other, fun reply => inductionHypothesis reply (later reply)⟩
      · refine Or.inr ⟨same, isInitial, ?_⟩
        intro reply
        refine Satisfies.tryCatch ((later reply).mono id id ?_)
        intro outcome _
        cases outcome with
        | ok result => trivial
        | error failure => exact last failure
  | del query next inductionHypothesis =>
      exact fun reply => inductionHypothesis reply (founds reply)
  | keys accepts next inductionHypothesis =>
      exact fun reply => inductionHypothesis reply (founds reply)
  | detach chains next inductionHypothesis =>
      exact inductionHypothesis founds

/-! ## One step -/

variable
  [DecidableEq Key]
  {backend : Backend Key Value}

/-- What a write leaves under the key. -/
theorem setex_lookup_cases
    {query : Key}
    {seconds : Option Int}
    {value : Value}
    {now : Nat}
    {entry : Entry Value}
    (written :
      (backend.setex now query seconds value).1.store.lookup key =
        some entry) :
    backend.store.lookup key = some entry ∨
      query = key ∧ entry.value = value := by
  by_cases same : key = query
  · subst same
    unfold Backend.setex at written
    split at written
    · exact Or.inl written
    · split at written
      · rw [ExpiringStore.lookup_write_same] at written
        obtain rfl := Option.some.inj written
        exact Or.inr ⟨rfl, rfl⟩
      · exact Or.inl written
  · rw [Backend.setex_lookup_other backend same] at written
    exact Or.inl written

/-- After one step a program heeds the property, or has seen it there. -/
theorem Heeds.step
    (heeds : program.Heeds rely key has unseen seen)
    (conforms : backend.store.Conforms rely)
    (now : Nat) :
    (program.step now backend).2.Heeds rely key has unseen seen ∨
      (∃ entry,
        (program.step now backend).1.store.lookup key = some entry ∧
          has entry.value) ∧
        (program.step now backend).2.Satisfies (WithProperty rely key has)
          (WithProperty rely key has) seen := by
  induction program with
  | done outcome => exact Or.inl heeds
  | clock next inductionHypothesis =>
      exact inductionHypothesis now (heeds now)
  | get query next inductionHypothesis =>
      have relied :
          ∀ value,
            Except.ok (backend.store.read now query) =
                (.ok (some value) : Reply (Option Value)) →
              rely query value :=
        fun value found => conforms.read (Except.ok.inj found)
      rcases heeds _ relied with heedsNext | ⟨shown, satisfies⟩
      · exact Or.inl heedsNext
      · obtain ⟨value, rfl, found, hasValue⟩ := shown
        obtain ⟨entry, lookup, -, rfl⟩ :=
          ExpiringStore.read_eq_some.mp (Except.ok.inj found)
        exact Or.inr ⟨⟨entry, lookup, hasValue⟩, satisfies⟩
  | setex query seconds value next inductionHypothesis =>
      exact Or.inl (heeds.2 _)
  | del query next inductionHypothesis => exact Or.inl (heeds _)
  | keys accepts next inductionHypothesis => exact Or.inl (heeds _)
  | detach chains next inductionHypothesis => exact Or.inl heeds

/-- It writes only values of the form. -/
theorem Heeds.step_conforms
    (heeds : program.Heeds rely key has unseen seen)
    (conforms : backend.store.Conforms rely)
    (now : Nat) :
    (program.step now backend).1.store.Conforms rely := by
  induction program with
  | clock next inductionHypothesis =>
      exact inductionHypothesis now (heeds now)
  | setex query seconds value next inductionHypothesis =>
      exact conforms.setex heeds.1.1 now seconds
  | del query next inductionHypothesis => exact conforms.remove query
  | _ => exact conforms

/-- It leaves the entry of the key, or writes it with the property. -/
theorem Heeds.step_lookup
    (heeds : program.Heeds rely key has unseen seen)
    {now : Nat}
    {entry : Entry Value}
    (found : (program.step now backend).1.store.lookup key = some entry) :
    backend.store.lookup key = some entry ∨ has entry.value := by
  induction program with
  | clock next inductionHypothesis =>
      exact inductionHypothesis now (heeds now) found
  | setex query seconds value next inductionHypothesis =>
      rcases setex_lookup_cases found with old | ⟨same, isValue⟩
      · exact Or.inl old
      · rw [isValue]
        exact Or.inr (heeds.1.2 same)
  | del query next inductionHypothesis =>
      exact Or.inl (ExpiringStore.lookup_of_lookup_remove found)
  | _ => exact Or.inl found

/--
While nothing is stored under the key, one step of a founder either leaves it
so, or was the founding and the last write to the key.
-/
theorem Founds.step
    (founds : program.Founds rely key initial)
    (conforms : backend.store.Conforms (Elsewhere rely key))
    (now : Nat) :
    (program.step now backend).1.store.Conforms (Elsewhere rely key) ∧
        (program.step now backend).2.Founds rely key initial ∨
      (program.step now backend).1.store.Conforms rely ∧
        (program.step now backend).1.store.Shows key initial ∧
        (program.step now backend).2.Satisfies rely (Elsewhere rely key)
          (fun _ => True) := by
  induction program with
  | done outcome => exact Or.inl ⟨conforms, founds⟩
  | clock next inductionHypothesis =>
      exact inductionHypothesis now (founds now)
  | get query next inductionHypothesis =>
      refine Or.inl ⟨conforms, founds _ ?_⟩
      intro value found
      exact (conforms.read (Except.ok.inj found)).1
  | setex query seconds value next inductionHypothesis =>
      rcases founds.2 with ⟨other, later⟩ | ⟨same, isInitial, later⟩
      · exact Or.inl
          ⟨conforms.setex ⟨founds.1, other⟩ now seconds, later _⟩
      · obtain ⟨conformsRely, absent⟩ :=
          ExpiringStore.conforms_elsewhere_iff.mp conforms
        refine Or.inr ⟨conformsRely.setex founds.1 now seconds, ?_, later _⟩
        intro entry found
        rcases setex_lookup_cases found with old | ⟨-, isValue⟩
        · rw [absent] at old
          cases old
        · rw [isValue]
          exact isInitial
  | del query next inductionHypothesis =>
      exact Or.inl ⟨conforms.remove query, founds _⟩
  | keys accepts next inductionHypothesis =>
      exact Or.inl ⟨conforms, founds _⟩
  | detach chains next inductionHypothesis =>
      exact Or.inl ⟨conforms, founds⟩

/-! ## Calls before and after the founding -/

/-- A call that is no founder, while nothing is stored under the key. -/
structure Awaits
    (rely : Key → Value → Prop)
    (key : Key)
    (has : Value → Prop)
    (program : StoreProgram Key Value Failure Result) : Prop where
  heeds : program.Heeds rely key has (fun _ => True) (fun _ => True)
  spares :
    program.Satisfies (Elsewhere rely key) (Elsewhere rely key)
      (fun _ => True)

/-- A call once the key may have been founded. -/
def Knows
    (rely : Key → Value → Prop)
    (has : Value → Prop)
    (key : Key)
    (store : ExpiringStore Key Value)
    (program : StoreProgram Key Value Failure Result) : Prop :=
  program.Heeds rely key has (fun _ => True) (fun _ => True) ∨
    store.Shows key has ∧
      program.Satisfies (WithProperty rely key has)
        (WithProperty rely key has) (fun _ => True)

/-- A call keeps off the key until something is stored there. -/
theorem Awaits.step
    (awaits : program.Awaits rely key has)
    (conforms : backend.store.Conforms (Elsewhere rely key))
    (now : Nat) :
    (program.step now backend).1.store.Conforms (Elsewhere rely key) ∧
      (program.step now backend).2.Awaits rely key has := by
  have kept := awaits.spares.step_conforms id conforms now
  refine ⟨kept, ?_, awaits.spares.step conforms now⟩
  obtain ⟨conformsRely, -⟩ :=
    ExpiringStore.conforms_elsewhere_iff.mp conforms
  obtain ⟨-, absent⟩ := ExpiringStore.conforms_elsewhere_iff.mp kept
  rcases awaits.heeds.step conformsRely now with heeds | ⟨shown, -⟩
  · exact heeds
  · obtain ⟨entry, found, -⟩ := shown
    rw [absent] at found
    cases found

/-- What a call knows it knows after its next step. -/
theorem Knows.step
    (knows : program.Knows rely has key backend.store)
    (conforms : backend.store.Conforms rely)
    (now : Nat) :
    (program.step now backend).1.store.Conforms rely ∧
      (program.step now backend).2.Knows rely has key
        (program.step now backend).1.store ∧
      ∀ entry,
        (program.step now backend).1.store.lookup key = some entry →
          backend.store.lookup key = some entry ∨ has entry.value := by
  rcases knows with heeds | ⟨shown, satisfies⟩
  · refine ⟨heeds.step_conforms conforms now, ?_,
      fun entry found => heeds.step_lookup found⟩
    rcases heeds.step conforms now with heedsNext | ⟨shown, satisfies⟩
    · exact Or.inl heedsNext
    · obtain ⟨entry, found, hasValue⟩ := shown
      refine Or.inr ⟨?_, satisfies⟩
      intro other otherFound
      obtain rfl := Option.some.inj (found.symm.trans otherFound)
      exact hasValue
  · have withProperty :=
      ExpiringStore.conforms_withProperty_iff.mpr ⟨conforms, shown⟩
    obtain ⟨conformsNext, shownNext⟩ :=
      ExpiringStore.conforms_withProperty_iff.mp
        (satisfies.step_conforms id withProperty now)
    exact ⟨conformsNext,
      Or.inr ⟨shownNext, satisfies.step withProperty now⟩,
      fun entry found => Or.inr (shownNext entry found)⟩

end StoreProgram

/-! ## Whole worlds -/

namespace World

variable
  {Operation Key Value Failure Result : Type}
  [DecidableEq Key]

/-- Nothing is stored under the key yet. -/
structure Unfounded
    (rely : Key → Value → Prop)
    (key : Key)
    (initial has : Value → Prop)
    (founder : Operation → Bool)
    (world : World Operation Key Value Failure Result) : Prop where
  store : world.backend.store.Conforms (Elsewhere rely key)
  threads :
    ∀ thread ∈ world.threads,
      if founder thread.operation then
        thread.program.Founds rely key initial
      else
        thread.program.Awaits rely key has

/-- The founding, if there is one, is over. -/
structure Founded
    (rely : Key → Value → Prop)
    (key : Key)
    (initial has : Value → Prop)
    (world : World Operation Key Value Failure Result) : Prop where
  store : world.backend.store.Conforms rely
  entry :
    world.backend.store.Shows key (fun value => initial value ∨ has value)
  threads :
    ∀ thread ∈ world.threads,
      thread.program.Knows rely has key world.backend.store

variable
  {behaviour : Operation → StoreProgram Key Value Failure Result}
  {rely : Key → Value → Prop}
  {key : Key}
  {initial has : Value → Prop}
  {founder : Operation → Bool}
  {world next : World Operation Key Value Failure Result}
  {action : Action Operation}

/-- The operations of the calls so far and of those that are still to come. -/
def ledger
    (world : World Operation Key Value Failure Result)
    (actions : List (Action Operation)) : List Operation :=
  world.threads.map Thread.operation ++ calls actions

/-- At most one of the operations is a founder. -/
abbrev OneFounder
    (founder : Operation → Bool)
    (operations : List Operation) : Prop :=
  operations.Pairwise fun first second =>
    founder first = true → founder second = false

/-- An action takes an operation from those to come to those that are there. -/
theorem StepCase.ledger
    (stepCase : StepCase behaviour world action next)
    (rest : List (Action Operation)) :
    next.ledger rest = world.ledger (action :: rest) := by
  unfold World.ledger
  cases stepCase with
  | tick milliseconds => rfl
  | invoke operation => simp [calls]
  | @advance index thread found =>
      have kept :
          (world.threads.set index
              (thread.advance world.now world.backend)).map
              Thread.operation =
            world.threads.map Thread.operation := by
        obtain ⟨inside, rfl⟩ := List.getElem?_eq_some_iff.mp found
        refine List.ext_getElem (by simp) ?_
        intro place placeInside _
        by_cases same : index = place
        · subst same
          simp [Thread.advance]
        · simp [same]
      rw [kept]
      rfl
  | drain found => rfl

/-- After the founding every action keeps what the calls know. -/
theorem Founded.step
    (founded : world.Founded rely key initial has)
    (invoked :
      ∀ operation,
        action = .invoke operation →
        (behaviour operation).Awaits rely key has)
    (stepCase : StepCase behaviour world action next) :
    next.Founded rely key initial has := by
  cases stepCase with
  | tick milliseconds => exact ⟨founded.store, founded.entry, founded.threads⟩
  | invoke operation =>
      refine ⟨founded.store, founded.entry, ?_⟩
      intro thread member
      rcases List.mem_append.mp member with old | isNew
      · exact founded.threads thread old
      · rw [List.mem_singleton.mp isNew]
        exact Or.inl (invoked operation rfl).heeds
  | @advance index thread found =>
      obtain ⟨conforms, knows, entries⟩ :=
        (founded.threads thread (List.mem_of_getElem? found)).step
          founded.store world.now
      refine ⟨conforms, ?_, ?_⟩
      · intro entry entryFound
        rcases entries entry entryFound with old | hasValue
        · exact founded.entry entry old
        · exact Or.inr hasValue
      · intro other member
        rcases mem_set_cases member with isAdvanced | old
        · rw [isAdvanced]
          exact knows
        · rcases founded.threads other old with heeds | ⟨shown, satisfies⟩
          · exact Or.inl heeds
          · refine Or.inr ⟨?_, satisfies⟩
            intro entry entryFound
            rcases entries entry entryFound with before | hasValue
            · exact shown entry before
            · exact hasValue
  | @drain index removed rest found =>
      refine ⟨founded.store.remove removed, ?_, ?_⟩
      · intro entry entryFound
        exact founded.entry entry
          (ExpiringStore.lookup_of_lookup_remove entryFound)
      · intro thread member
        rcases founded.threads thread member with heeds | ⟨shown, satisfies⟩
        · exact Or.inl heeds
        · refine Or.inr ⟨?_, satisfies⟩
          intro entry entryFound
          exact shown entry
            (ExpiringStore.lookup_of_lookup_remove entryFound)

omit [DecidableEq Key] in
/-- A founder is the only one among the calls that are there. -/
theorem OneFounder.other
    {threads : List (Thread Operation Key Value Failure Result)}
    (one : OneFounder founder (threads.map Thread.operation))
    {index other : Nat}
    {thread otherThread : Thread Operation Key Value Failure Result}
    (found : threads[index]? = some thread)
    (isFounder : founder thread.operation = true)
    (otherFound : threads[other]? = some otherThread)
    (different : other ≠ index) :
    founder otherThread.operation = false := by
  obtain ⟨inside, rfl⟩ := List.getElem?_eq_some_iff.mp found
  obtain ⟨otherInside, rfl⟩ := List.getElem?_eq_some_iff.mp otherFound
  have pairs := List.pairwise_iff_getElem.mp (List.pairwise_map.mp one)
  rcases Nat.lt_or_gt_of_ne different with before | after
  · cases otherFounder : founder threads[other].operation with
    | false => rfl
    | true =>
        have not := pairs _ _ otherInside inside before otherFounder
        rw [not] at isFounder
        cases isFounder
  · exact pairs _ _ inside otherInside after isFounder

/-- Before the founding every action leaves it so, or founds the key. -/
theorem Unfounded.step
    (unfounded : world.Unfounded rely key initial has founder)
    (one : OneFounder founder (world.threads.map Thread.operation))
    (invoked :
      ∀ operation,
        action = .invoke operation →
        if founder operation then
          (behaviour operation).Founds rely key initial
        else
          (behaviour operation).Awaits rely key has)
    (stepCase : StepCase behaviour world action next) :
    next.Unfounded rely key initial has founder ∨
      next.Founded rely key initial has ∧
        ∃ thread ∈ world.threads, founder thread.operation = true := by
  cases stepCase with
  | tick milliseconds =>
      exact Or.inl ⟨unfounded.store, unfounded.threads⟩
  | invoke operation =>
      refine Or.inl ⟨unfounded.store, ?_⟩
      intro thread member
      rcases List.mem_append.mp member with old | isNew
      · exact unfounded.threads thread old
      · rw [List.mem_singleton.mp isNew]
        exact invoked operation rfl
  | @advance index thread found =>
      have inside := List.mem_of_getElem? found
      have program := unfounded.threads thread inside
      cases isFounder : founder thread.operation with
      | false =>
          simp only [isFounder, Bool.false_eq_true, ↓reduceIte] at program
          obtain ⟨store, awaits⟩ := program.step unfounded.store world.now
          refine Or.inl ⟨store, ?_⟩
          intro other member
          rcases mem_set_cases member with isAdvanced | old
          · rw [isAdvanced]
            simpa [Thread.advance, isFounder] using awaits
          · exact unfounded.threads other old
      | true =>
          simp only [isFounder, ↓reduceIte] at program
          rcases program.step unfounded.store world.now with
            ⟨store, founds⟩ | ⟨store, shown, later⟩
          · refine Or.inl ⟨store, ?_⟩
            intro other member
            rcases mem_set_cases member with isAdvanced | old
            · rw [isAdvanced]
              simpa [Thread.advance, isFounder] using founds
            · exact unfounded.threads other old
          · refine Or.inr ⟨⟨store, ?_, ?_⟩, thread, inside, isFounder⟩
            · exact fun entry entryFound =>
                Or.inl (shown entry entryFound)
            · intro other member
              obtain ⟨place, placeFound⟩ := List.mem_iff_getElem?.mp member
              by_cases same : index = place
              · subst same
                rw [List.getElem?_set_self
                  (List.getElem?_eq_some_iff.mp found).1] at placeFound
                obtain rfl := Option.some.inj placeFound
                refine Or.inl (StoreProgram.Satisfies.heeds ?_)
                refine later.mono id ?_ id
                rintro query value ⟨relied, otherKey⟩
                exact ⟨relied, fun isKey => absurd isKey otherKey⟩
              · rw [List.getElem?_set_ne same] at placeFound
                have notFounder :=
                  one.other found isFounder placeFound (Ne.symm same)
                have awaits :=
                  unfounded.threads other (List.mem_of_getElem? placeFound)
                rw [notFounder] at awaits
                exact Or.inl awaits.heeds
  | @drain index removed rest found =>
      exact Or.inl ⟨unfounded.store.remove removed, unfounded.threads⟩

/-- After the founding every schedule keeps what the calls know. -/
theorem Founded.run
    {actions : List (Action Operation)}
    (founded : world.Founded rely key initial has)
    (invoked :
      ∀ operation,
        .invoke operation ∈ actions →
        (behaviour operation).Awaits rely key has)
    (ran : world.run? behaviour actions = some next) :
    next.Founded rely key initial has := by
  refine run?_induction ?_ ran founded
  intro current later action member holds stepCase
  refine holds.step ?_ stepCase
  rintro operation rfl
  exact invoked operation member

/-- Once the property is there it stays. -/
theorem Founded.shows
    {actions : List (Action Operation)}
    (founded : world.Founded rely key initial has)
    (shown : world.backend.store.Shows key has)
    (invoked :
      ∀ operation,
        .invoke operation ∈ actions →
        (behaviour operation).Awaits rely key has)
    (ran : world.run? behaviour actions = some next) :
    next.backend.store.Shows key has := by
  have started : world.Founded rely key has has :=
    ⟨founded.store, fun entry found => Or.inl (shown entry found),
      founded.threads⟩
  intro entry found
  rcases (started.run invoked ran).entry entry found with holds | holds
  · exact holds
  · exact holds

/--
In every schedule with at most one founder the key is unfounded, or the founder
was among the calls.
-/
theorem Unfounded.run
    {actions : List (Action Operation)}
    (unfounded : world.Unfounded rely key initial has founder)
    (one : OneFounder founder (world.ledger actions))
    (invoked :
      ∀ operation,
        .invoke operation ∈ actions →
        if founder operation then
          (behaviour operation).Founds rely key initial
        else
          (behaviour operation).Awaits rely key has)
    (ran : world.run? behaviour actions = some next) :
    next.Unfounded rely key initial has founder ∨
      next.Founded rely key initial has ∧
        ∃ operation ∈ world.ledger actions, founder operation = true := by
  induction actions generalizing world with
  | nil =>
      obtain rfl := Option.some.inj ran
      exact Or.inl unfounded
  | cons action rest inductionHypothesis =>
      obtain ⟨middle, stepped, ranRest⟩ := run?_cons.mp ran
      have stepCase := step_cases stepped
      have here := (List.pairwise_append.mp one).1
      have oneRest : OneFounder founder (middle.ledger rest) := by
        rw [stepCase.ledger]
        exact one
      have invokedRest :
          ∀ operation,
            .invoke operation ∈ rest →
            if founder operation then
              (behaviour operation).Founds rely key initial
            else
              (behaviour operation).Awaits rely key has :=
        fun operation member =>
          invoked operation (List.mem_cons_of_mem _ member)
      have invokedNow :
          ∀ operation,
            action = .invoke operation →
            if founder operation then
              (behaviour operation).Founds rely key initial
            else
              (behaviour operation).Awaits rely key has := by
        rintro operation rfl
        exact invoked operation List.mem_cons_self
      rcases unfounded.step here invokedNow stepCase with
        still | ⟨founded, thread, member, isFounder⟩
      · rw [← stepCase.ledger]
        exact inductionHypothesis still oneRest invokedRest ranRest
      · refine Or.inr ⟨founded.run ?_ ranRest, thread.operation,
          List.mem_append_left _ (List.mem_map_of_mem member), isFounder⟩
        intro operation inRest
        have called : operation ∈ calls (action :: rest) :=
          List.mem_filterMap.mpr
            ⟨_, List.mem_cons_of_mem _ inRest, rfl⟩
        have notFounder :=
          (List.pairwise_append.mp one).2.2 _
            (List.mem_map_of_mem member) operation called isFounder
        have awaits := invokedRest operation inRest
        rw [notFounder] at awaits
        exact awaits

end World

end NestBackend
