import NestBackend.ProgramPool

namespace NestBackend

/-!
# One party among the calls of a pool

The keys are divided into a territory and the rest, and the calls into those of
one party and the others.  When the programs of the party stay on the territory
and the others change nothing there, the party cannot tell whether the others
were there at all: a schedule without their calls gives the party the same
answers and leaves the same entries on its territory.

The chains of detached deletions are numbered across all parties, so that two
worlds have the same chains of the party in the same order, but not at the same
positions.  The same holds of the calls.
-/

/-! ## Members of one kind, in their order -/

section Kinds

variable
  {Item : Type}
  {kind : Item → Bool}
  {own full : List Item}
  {index : Nat}
  {item new : Item}

/-- Replacing a member of another kind by one of another kind. -/
theorem filter_set_of_other
    (found : full[index]? = some item)
    (other : kind item = false)
    (newOther : kind new = false) :
    (full.set index new).filter kind = full.filter kind := by
  induction full generalizing index with
  | nil => rfl
  | cons head rest inductionHypothesis =>
      cases index with
      | zero =>
          obtain rfl := Option.some.inj found
          simp [other, newOther]
      | succ later =>
          rw [List.set_cons_succ, List.filter_cons, List.filter_cons,
            inductionHypothesis found]

/--
A member of the kind is somewhere among the same members of the kind, and can
be replaced there as well.
-/
theorem exists_set_of_kind
    (same : own.filter kind = full.filter kind)
    (found : full[index]? = some item)
    (isKind : kind item = true) :
    ∃ place,
      own[place]? = some item ∧
        ∀ new,
          (own.set place new).filter kind =
            (full.set index new).filter kind := by
  obtain ⟨bound, rfl⟩ := List.getElem?_eq_some_iff.mp found
  have split :
      full = full.take index ++ full[index] :: full.drop (index + 1) := by
    simp
  rw [split, List.filter_append, List.filter_cons_of_pos isKind,
    List.filter_eq_append_iff] at same
  obtain ⟨before, others, rfl, sameBefore, sameOthers⟩ := same
  obtain ⟨skipped, after, rfl, noneSkipped, -, sameAfter⟩ :=
    List.filter_eq_cons_iff.mp sameOthers
  refine ⟨(before ++ skipped).length, ?_, ?_⟩
  · rw [← List.append_assoc, List.getElem?_append_right (Nat.le_refl _),
      Nat.sub_self]
    rfl
  · intro new
    have noneBefore : skipped.filter kind = [] := by
      simpa using noneSkipped
    rw [← List.append_assoc, List.set_append_right _ _ (Nat.le_refl _),
      Nat.sub_self, List.set_cons_zero,
      List.set_eq_take_append_cons_drop, if_pos bound]
    simp only [List.filter_append, List.filter_cons, noneBefore,
      List.append_nil, sameBefore, sameAfter]

end Kinds

/-! ## The territory of a store -/

namespace ExpiringStore

variable
  {Key Value : Type}
  [DecidableEq Key]
  {mine : Key → Prop}
  [DecidablePred mine]

omit [DecidableEq Key] in
/-- A key elsewhere is not among those of the territory. -/
theorem notMem_keys_only
    {entries : List (Sigma fun _ : Key => Entry Value)}
    {key : Key}
    (other : ¬ mine key) :
    key ∉ (entries.filter (fun entry => mine entry.1)).keys := by
  intro listed
  obtain ⟨entry, member, sameKey⟩ := List.mem_map.mp listed
  have entryMine : mine entry.1 := by
    simpa using (List.mem_filter.mp member).2
  rw [sameKey] at entryMine
  exact other entryMine

/-- Removing a key and leaving out other keys, in either order. -/
theorem filter_kerase
    (key : Key)
    (entries : List (Sigma fun _ : Key => Entry Value)) :
    (entries.kerase key).filter (fun entry => mine entry.1) =
      (entries.filter (fun entry => mine entry.1)).kerase key := by
  induction entries with
  | nil => rfl
  | cons head rest inductionHypothesis =>
      by_cases same : key = head.1
      · rw [List.kerase_cons_eq same]
        by_cases isMine : mine head.1
        · rw [List.filter_cons_of_pos (by simpa using isMine),
            List.kerase_cons_eq same]
        · rw [List.filter_cons_of_neg (by simpa using isMine),
            List.kerase_of_notMem_keys]
          rw [← same] at isMine
          exact notMem_keys_only isMine
      · rw [List.kerase_cons_ne same]
        by_cases isMine : mine head.1
        · rw [List.filter_cons_of_pos (by simpa using isMine),
            List.filter_cons_of_pos (by simpa using isMine),
            List.kerase_cons_ne same, inductionHypothesis]
        · rw [List.filter_cons_of_neg (by simpa using isMine),
            List.filter_cons_of_neg (by simpa using isMine),
            inductionHypothesis]

/-- The entries on a territory, in their order. -/
def only
    (mine : Key → Prop)
    [DecidablePred mine]
    (store : ExpiringStore Key Value) : ExpiringStore Key Value where
  entries := store.entries.filter (fun entry => mine entry.1)
  nodupKeys := store.nodupKeys.sublist (List.filter_sublist ..)

/-- On the territory nothing is missing. -/
theorem lookup_only
    (store : ExpiringStore Key Value)
    {key : Key}
    (isMine : mine key) :
    (store.only mine).lookup key = store.lookup key := by
  apply Option.ext
  intro entry
  rw [← Option.mem_def, ← Option.mem_def, AList.mem_lookup_iff,
    AList.mem_lookup_iff]
  exact List.mem_filter.trans (and_iff_left (by simpa using isMine))

/-- A territory reads as it does in the whole store. -/
theorem read_only
    (store : ExpiringStore Key Value)
    {key : Key}
    (isMine : mine key)
    (now : Nat) :
    (store.only mine).read now key = store.read now key :=
  read_congr (lookup_only store isMine) now

/-- A scan of the territory finds the same keys in the same order. -/
theorem scan_only
    (store : ExpiringStore Key Value)
    {accepts : Key → Bool}
    (within : ∀ key, accepts key = true → mine key)
    (now : Nat) :
    (store.only mine).scan now accepts = store.scan now accepts := by
  have keys : (store.only mine).keys = store.keys.filter (mine ·) := by
    unfold AList.keys List.keys only
    rw [List.filter_map]
    rfl
  unfold scan
  rw [keys, List.filter_filter]
  apply List.filter_congr
  intro key _
  cases accepted : accepts key with
  | false => simp
  | true =>
      have isMine := within key accepted
      rw [read_only store isMine]
      simp [isMine]

/-- A write on the territory. -/
theorem only_write
    (store : ExpiringStore Key Value)
    {key : Key}
    (isMine : mine key)
    (now lifetime : Nat)
    (value : Value) :
    (store.write now key lifetime value).only mine =
      (store.only mine).write now key lifetime value := by
  apply AList.ext
  have kept :
      (store.entries.kerase key).filter (fun entry => mine entry.1) =
        (store.entries.filter (fun entry => mine entry.1)).kerase key :=
    filter_kerase key store.entries
  simpa [only, write, AList.insert, List.kinsert_def, isMine] using kept

/-- A write elsewhere. -/
theorem only_write_other
    (store : ExpiringStore Key Value)
    {key : Key}
    (other : ¬ mine key)
    (now lifetime : Nat)
    (value : Value) :
    (store.write now key lifetime value).only mine = store.only mine := by
  apply AList.ext
  have kept :
      (store.entries.kerase key).filter (fun entry => mine entry.1) =
        (store.entries.filter (fun entry => mine entry.1)).kerase key :=
    filter_kerase key store.entries
  rw [List.kerase_of_notMem_keys (notMem_keys_only other)] at kept
  simpa [only, write, AList.insert, List.kinsert_def, other] using kept

/-- A deletion, wherever it is. -/
theorem only_remove
    (store : ExpiringStore Key Value)
    (key : Key) :
    (store.remove key).only mine = (store.only mine).remove key := by
  apply AList.ext
  exact filter_kerase key store.entries

/-- A deletion elsewhere. -/
theorem only_remove_other
    (store : ExpiringStore Key Value)
    {key : Key}
    (other : ¬ mine key) :
    (store.remove key).only mine = store.only mine := by
  rw [only_remove]
  apply AList.ext
  exact List.kerase_of_notMem_keys (notMem_keys_only other)

end ExpiringStore

namespace Backend

variable
  {Key Value : Type}
  [DecidableEq Key]
  {mine : Key → Prop}
  [DecidablePred mine]

/-- A write with a lifetime on the territory. -/
theorem setex_only
    (backend : Backend Key Value)
    {key : Key}
    (isMine : mine key)
    (now : Nat)
    (seconds : Option Int)
    (value : Value)
    (chains : List (List Key)) :
    (⟨backend.store.only mine, chains⟩ : Backend Key Value).setex now key
        seconds value =
      (⟨(backend.setex now key seconds value).1.store.only mine, chains⟩,
        (backend.setex now key seconds value).2) := by
  unfold setex
  cases seconds with
  | none => rfl
  | some count =>
      by_cases positive : 0 < count
      · simp only [positive, ↓reduceIte]
        rw [ExpiringStore.only_write backend.store isMine]
      · simp only [positive, ↓reduceIte]

/-- A write with a lifetime elsewhere. -/
theorem setex_elsewhere
    (backend : Backend Key Value)
    {key : Key}
    (other : ¬ mine key)
    (now : Nat)
    (seconds : Option Int)
    (value : Value) :
    (backend.setex now key seconds value).1.store.only mine =
      backend.store.only mine := by
  unfold setex
  cases seconds with
  | none => rfl
  | some count =>
      by_cases positive : 0 < count
      · simp only [positive, ↓reduceIte]
        exact ExpiringStore.only_write_other backend.store other ..
      · simp only [positive, ↓reduceIte]

end Backend

/-! ## Programs that stay where they belong -/

namespace StoreProgram

variable {Key Value Failure Result Next : Type}

/--
The program reads keys that `reads` admits and changes keys that `changes`
admits, whatever the replies to its commands are.
-/
def ConfinedTo
    (reads changes : Key → Prop)
    (ensures : Except Failure Result → Prop) :
    StoreProgram Key Value Failure Result → Prop
  | .done outcome => ensures outcome
  | .clock next => ∀ now, (next now).ConfinedTo reads changes ensures
  | .get key next =>
      reads key ∧
        ∀ reply, (next reply).ConfinedTo reads changes ensures
  | .setex key _ _ next =>
      changes key ∧
        ∀ reply, (next reply).ConfinedTo reads changes ensures
  | .del key next =>
      changes key ∧
        ∀ reply, (next reply).ConfinedTo reads changes ensures
  | .keys accepts next =>
      (∀ key, accepts key = true → reads key) ∧
        ∀ reply,
          (∀ keys, reply = .ok keys → ∀ key ∈ keys, accepts key = true) →
          (next reply).ConfinedTo reads changes ensures
  | .detach chains next =>
      (∀ chain ∈ chains, ∀ key ∈ chain, changes key) ∧
        next.ConfinedTo reads changes ensures

/-- The chains that the next step detaches. -/
def detached (now : Nat) :
    StoreProgram Key Value Failure Result → List (List Key)
  | .clock next => detached now (next now)
  | .detach chains _ => chains
  | _ => []

namespace ConfinedTo

variable
  {reads changes : Key → Prop}
  {ensures : Except Failure Result → Prop}
  {program : StoreProgram Key Value Failure Result}

/-- Sequencing: the rest has to be confined after every result. -/
theorem bind
    {rest : Result → StoreProgram Key Value Failure Next}
    {eventually : Except Failure Next → Prop}
    (confined :
      program.ConfinedTo reads changes (fun outcome =>
        match outcome with
        | .ok result => (rest result).ConfinedTo reads changes eventually
        | .error failure => eventually (.error failure))) :
    (program >>= rest).ConfinedTo reads changes eventually := by
  induction program with
  | done outcome =>
      cases outcome with
      | ok result => exact confined
      | error failure => exact confined
  | clock next inductionHypothesis =>
      exact fun now => inductionHypothesis now (confined now)
  | get key next inductionHypothesis =>
      exact ⟨confined.1,
        fun reply => inductionHypothesis reply (confined.2 reply)⟩
  | setex key seconds value next inductionHypothesis =>
      exact ⟨confined.1,
        fun reply => inductionHypothesis reply (confined.2 reply)⟩
  | del key next inductionHypothesis =>
      exact ⟨confined.1,
        fun reply => inductionHypothesis reply (confined.2 reply)⟩
  | keys accepts next inductionHypothesis =>
      exact ⟨confined.1,
        fun reply listed =>
          inductionHypothesis reply (confined.2 reply listed)⟩
  | detach chains next inductionHypothesis =>
      exact ⟨confined.1, inductionHypothesis confined.2⟩

variable
  [DecidableEq Key]
  {backend : Backend Key Value}
  {now : Nat}

/-- After its next step the program is confined as before. -/
theorem step
    (confined : program.ConfinedTo reads changes ensures)
    (now : Nat)
    (backend : Backend Key Value) :
    (program.step now backend).2.ConfinedTo reads changes ensures := by
  induction program with
  | done outcome => exact confined
  | clock next inductionHypothesis =>
      exact inductionHypothesis now (confined now)
  | get key next inductionHypothesis => exact confined.2 _
  | setex key seconds value next inductionHypothesis =>
      exact confined.2 _
  | del key next inductionHypothesis => exact confined.2 _
  | keys accepts next inductionHypothesis =>
      apply confined.2
      intro keys listed key member
      rw [← Except.ok.inj listed] at member
      exact (ExpiringStore.mem_scan.mp member).2
  | detach chains next inductionHypothesis => exact confined.2

omit [DecidableEq Key] in
/-- It detaches only deletions that it might do itself. -/
theorem detached
    (confined : program.ConfinedTo reads changes ensures)
    (now : Nat) :
    ∀ chain ∈ program.detached now, ∀ key ∈ chain, changes key := by
  induction program with
  | clock next inductionHypothesis =>
      exact inductionHypothesis now (confined now)
  | detach chains next inductionHypothesis => exact confined.1
  | _ => exact fun chain member => absurd member List.not_mem_nil

end ConfinedTo

section Step

variable
  [DecidableEq Key]
  {mine : Key → Prop}
  [DecidablePred mine]
  {reads : Key → Prop}
  {ensures : Except Failure Result → Prop}
  {program : StoreProgram Key Value Failure Result}

omit [DecidablePred mine] in
/-- The chains after a step. -/
theorem step_chains
    (program : StoreProgram Key Value Failure Result)
    (now : Nat)
    (backend : Backend Key Value) :
    (program.step now backend).1.chains =
      backend.chains ++ program.detached now := by
  induction program with
  | clock next inductionHypothesis => exact inductionHypothesis now
  | setex key seconds value next inductionHypothesis =>
      simp [step, detached]
  | detach chains next inductionHypothesis => rfl
  | _ => simp [step, detached]

/--
A program that stays on a territory does the same there when there is nothing
else.
-/
theorem step_only
    (confined : program.ConfinedTo mine mine ensures)
    (now : Nat)
    (backend : Backend Key Value)
    (chains : List (List Key)) :
    program.step now ⟨backend.store.only mine, chains⟩ =
      (⟨(program.step now backend).1.store.only mine,
          chains ++ program.detached now⟩,
        (program.step now backend).2) := by
  induction program with
  | done outcome => simp [step, detached]
  | clock next inductionHypothesis =>
      exact inductionHypothesis now (confined now)
  | get key next inductionHypothesis =>
      simp [step, detached,
        ExpiringStore.read_only backend.store confined.1]
  | setex key seconds value next inductionHypothesis =>
      simp [step, detached,
        Backend.setex_only backend confined.1 now seconds value chains]
  | del key next inductionHypothesis =>
      simp [step, detached, Backend.del,
        ExpiringStore.only_remove,
        ExpiringStore.read_only backend.store confined.1]
  | keys accepts next inductionHypothesis =>
      simp [step, detached,
        ExpiringStore.scan_only backend.store confined.1]
  | detach given next inductionHypothesis =>
      simp [step, detached, Backend.detach]

/-- A program that changes nothing on a territory leaves it as it was. -/
theorem step_elsewhere
    (confined : program.ConfinedTo reads (fun key => ¬ mine key) ensures)
    (now : Nat)
    (backend : Backend Key Value) :
    (program.step now backend).1.store.only mine =
      backend.store.only mine := by
  induction program with
  | clock next inductionHypothesis =>
      exact inductionHypothesis now (confined now)
  | setex key seconds value next inductionHypothesis =>
      exact Backend.setex_elsewhere backend confined.1 now seconds value
  | del key next inductionHypothesis =>
      exact ExpiringStore.only_remove_other backend.store confined.1
  | _ => rfl

end Step

end StoreProgram

/-! ## Worlds with and without the others -/

/--
A program of the party stays on the territory; another one changes nothing
there.
-/
def StoreProgram.KeepsTo
    {Key Value Failure Result : Type}
    (mine : Key → Prop)
    (own : Bool)
    (program : StoreProgram Key Value Failure Result) : Prop :=
  if own then
    program.ConfinedTo mine mine (fun _ => True)
  else
    program.ConfinedTo (fun _ => True) (fun key => ¬ mine key)
      (fun _ => True)

/-- What a program does later, it keeps to as well. -/
theorem StoreProgram.KeepsTo.step
    {Key Value Failure Result : Type}
    [DecidableEq Key]
    {mine : Key → Prop}
    {own : Bool}
    {program : StoreProgram Key Value Failure Result}
    (keepsTo : program.KeepsTo mine own)
    (now : Nat)
    (backend : Backend Key Value) :
    (program.step now backend).2.KeepsTo mine own := by
  cases own with
  | true => exact ConfinedTo.step keepsTo now backend
  | false => exact ConfinedTo.step keepsTo now backend

namespace World

variable
  {Operation Key Value Failure Result : Type}
  [DecidableEq Key]

/-- The calls that a schedule makes, in their order. -/
def calls (actions : List (Action Operation)) : List Operation :=
  actions.filterMap fun action =>
    match action with
    | .invoke operation => some operation
    | _ => none

/-- The next deletion of the chain is on the territory. -/
def onTerritory
    (mine : Key → Prop)
    [DecidablePred mine]
    (chain : List Key) : Bool :=
  chain.head?.any (mine ·)

/-- Every call keeps to its part, and so does every chain of deletions. -/
structure Parted
    (mine : Key → Prop)
    (party : Operation → Bool)
    (world : World Operation Key Value Failure Result) : Prop where
  threads :
    ∀ thread ∈ world.threads,
      thread.program.KeepsTo mine (party thread.operation)
  chains :
    ∀ chain ∈ world.backend.chains,
      (∀ key ∈ chain, mine key) ∨ ∀ key ∈ chain, ¬ mine key

/-- What is there of a world when the others are left out of it. -/
structure Mirrors
    (mine : Key → Prop)
    [DecidablePred mine]
    (party : Operation → Bool)
    (full own : World Operation Key Value Failure Result) : Prop where
  now : own.now = full.now
  store : own.backend.store = full.backend.store.only mine
  threads :
    own.threads =
      full.threads.filter (fun thread => party thread.operation)
  chains :
    own.backend.chains.filter (onTerritory mine) =
      full.backend.chains.filter (onTerritory mine)

variable
  {behaviour : Operation → StoreProgram Key Value Failure Result}
  {mine : Key → Prop}
  {party : Operation → Bool}
  {full own next : World Operation Key Value Failure Result}
  {action : Action Operation}

/-- Every action leaves the parts as they are. -/
theorem Parted.step
    (parted : full.Parted mine party)
    (invoked :
      ∀ operation,
        action = .invoke operation →
        (behaviour operation).KeepsTo mine (party operation))
    (stepCase : StepCase behaviour full action next) :
    next.Parted mine party := by
  cases stepCase with
  | tick milliseconds => exact ⟨parted.threads, parted.chains⟩
  | invoke operation =>
      refine ⟨?_, parted.chains⟩
      intro thread member
      rcases List.mem_append.mp member with old | isNew
      · exact parted.threads thread old
      · rw [List.mem_singleton.mp isNew]
        exact invoked operation rfl
  | @advance index thread found =>
      have keepsTo :=
        parted.threads thread (List.mem_of_getElem? found)
      refine ⟨?_, ?_⟩
      · intro other member
        rcases mem_set_cases member with isAdvanced | old
        · rw [isAdvanced]
          exact keepsTo.step full.now full.backend
        · exact parted.threads other old
      · intro chain member
        rw [StoreProgram.step_chains] at member
        rcases List.mem_append.mp member with old | isNew
        · exact parted.chains chain old
        · cases isOwn : party thread.operation with
          | true =>
              rw [isOwn] at keepsTo
              exact Or.inl
                (StoreProgram.ConfinedTo.detached keepsTo _ chain isNew)
          | false =>
              rw [isOwn] at keepsTo
              exact Or.inr
                (StoreProgram.ConfinedTo.detached keepsTo _ chain isNew)
  | @drain index key rest found =>
      refine ⟨parted.threads, ?_⟩
      intro chain member
      rcases mem_set_cases member with isRest | old
      · rw [isRest]
        rcases parted.chains _ (List.mem_of_getElem? found) with
          inside | outside
        · exact Or.inl
            (fun query inRest => inside query (List.mem_cons_of_mem _ inRest))
        · exact Or.inr
            (fun query inRest =>
              outside query (List.mem_cons_of_mem _ inRest))
      · exact parted.chains chain old

variable [DecidablePred mine]

/-- A call of the party goes on in both worlds. -/
theorem Mirrors.advance_own
    (mirrors : Mirrors mine party full own)
    {index : Nat}
    {thread : Thread Operation Key Value Failure Result}
    (found : full.threads[index]? = some thread)
    (isOwn : party thread.operation = true)
    (keepsTo : thread.program.ConfinedTo mine mine (fun _ => True)) :
    ∃ place ownNext,
      own.step behaviour (.advance place) = some ownNext ∧
        Mirrors mine party
          { full with
            backend := (thread.program.step full.now full.backend).1
            threads :=
              full.threads.set index
                (thread.advance full.now full.backend) }
          ownNext := by
  let kind := fun other : Thread Operation Key Value Failure Result =>
    party other.operation
  have ownKinds : ∀ other ∈ own.threads, kind other = true := by
    rw [mirrors.threads]
    exact fun other member => (List.mem_filter.mp member).2
  have same : own.threads.filter kind = full.threads.filter kind := by
    rw [List.filter_eq_self.mpr ownKinds]
    exact mirrors.threads
  obtain ⟨place, ownFound, replaced⟩ :=
    exists_set_of_kind same found isOwn
  have ownStep :
      thread.program.step own.now own.backend =
        (⟨(thread.program.step full.now full.backend).1.store.only mine,
            own.backend.chains ++ thread.program.detached full.now⟩,
          (thread.program.step full.now full.backend).2) := by
    rw [← StoreProgram.step_only keepsTo, ← mirrors.store, mirrors.now]
  have ownAdvance :
      thread.advance own.now own.backend =
        thread.advance full.now full.backend := by
    unfold Thread.advance
    rw [ownStep, mirrors.now]
  refine ⟨place, _, by simp only [step, ownFound]; rfl, ?_⟩
  refine ⟨mirrors.now, ?_, ?_, ?_⟩
  · rw [ownStep]
  · rw [ownAdvance, ← replaced, List.filter_eq_self.mpr]
    intro other member
    rcases mem_set_cases member with isAdvanced | old
    · rw [isAdvanced]
      exact isOwn
    · exact ownKinds other old
  · rw [ownStep, StoreProgram.step_chains, List.filter_append,
      List.filter_append, mirrors.chains]

/-- A call of the others goes on, and the party sees nothing of it. -/
theorem Mirrors.advance_other
    (mirrors : Mirrors mine party full own)
    {index : Nat}
    {thread : Thread Operation Key Value Failure Result}
    (found : full.threads[index]? = some thread)
    (other : party thread.operation = false)
    (keepsTo :
      thread.program.ConfinedTo (fun _ => True) (fun key => ¬ mine key)
        (fun _ => True)) :
    Mirrors mine party
      { full with
        backend := (thread.program.step full.now full.backend).1
        threads :=
          full.threads.set index
            (thread.advance full.now full.backend) }
      own := by
  refine ⟨mirrors.now, ?_, ?_, ?_⟩
  · rw [StoreProgram.step_elsewhere keepsTo]
    exact mirrors.store
  · rw [filter_set_of_other found other other]
    exact mirrors.threads
  · have outside :
        (thread.program.detached full.now).filter (onTerritory mine) =
          [] := by
      rw [List.filter_eq_nil_iff]
      intro chain member
      cases chain with
      | nil => simp [onTerritory]
      | cons key rest =>
          have notMine :=
            keepsTo.detached full.now _ member key List.mem_cons_self
          simpa [onTerritory] using notMine
    rw [StoreProgram.step_chains, List.filter_append, outside,
      List.append_nil]
    exact mirrors.chains

/-- A deletion on the territory happens in both worlds. -/
theorem Mirrors.drain_own
    (mirrors : Mirrors mine party full own)
    {index : Nat}
    {key : Key}
    {rest : List Key}
    (found : full.backend.chains[index]? = some (key :: rest))
    (isMine : mine key) :
    ∃ place ownNext,
      own.step behaviour (.drain place) = some ownNext ∧
        Mirrors mine party
          { full with
            backend :=
              { store := full.backend.store.remove key
                chains := full.backend.chains.set index rest } }
          ownNext := by
  obtain ⟨place, ownFound, replaced⟩ :=
    exists_set_of_kind mirrors.chains found
      (by simpa [onTerritory] using isMine)
  refine ⟨place, _, by simp only [step, ownFound]; rfl, ?_⟩
  refine ⟨mirrors.now, ?_, mirrors.threads, replaced rest⟩
  rw [ExpiringStore.only_remove, ← mirrors.store]

/-- A deletion elsewhere is nothing to the party. -/
theorem Mirrors.drain_other
    (mirrors : Mirrors mine party full own)
    {index : Nat}
    {key : Key}
    {rest : List Key}
    (found : full.backend.chains[index]? = some (key :: rest))
    (outside : ∀ query ∈ key :: rest, ¬ mine query) :
    Mirrors mine party
      { full with
        backend :=
          { store := full.backend.store.remove key
            chains := full.backend.chains.set index rest } }
      own := by
  have notMine := outside key List.mem_cons_self
  refine ⟨mirrors.now, ?_, mirrors.threads, ?_⟩
  · rw [ExpiringStore.only_remove_other _ notMine]
    exact mirrors.store
  · rw [filter_set_of_other found]
    · exact mirrors.chains
    · simpa [onTerritory] using notMine
    · cases rest with
      | nil => rfl
      | cons later others =>
          have laterOutside :=
            outside later (List.mem_cons_of_mem _ List.mem_cons_self)
          simpa [onTerritory] using laterOutside

/-- Each action is one action of the party's own world, or nothing there. -/
theorem Mirrors.step
    (mirrors : Mirrors mine party full own)
    (parted : full.Parted mine party)
    (stepCase : StepCase behaviour full action next) :
    ∃ ownActions ownNext,
      own.run? behaviour ownActions = some ownNext ∧
        calls ownActions = (calls [action]).filter party ∧
        Mirrors mine party next ownNext := by
  have alone :
      ∀ {ownAction ownNext},
        own.step behaviour ownAction = some ownNext →
          own.run? behaviour [ownAction] = some ownNext :=
    fun stepped => run?_cons.mpr ⟨_, stepped, rfl⟩
  cases stepCase with
  | tick milliseconds =>
      refine ⟨[.tick milliseconds], _, alone rfl, rfl, ?_⟩
      exact ⟨congrArg (· + milliseconds) mirrors.now, mirrors.store,
        mirrors.threads, mirrors.chains⟩
  | invoke operation =>
      cases isOwn : party operation with
      | true =>
          refine ⟨[.invoke operation], _, alone rfl, ?_, ?_⟩
          · simp [calls, isOwn]
          · refine ⟨mirrors.now, mirrors.store, ?_, mirrors.chains⟩
            simp [mirrors.threads, isOwn]
      | false =>
          refine ⟨[], own, rfl, ?_, ?_⟩
          · simp [calls, isOwn]
          · refine ⟨mirrors.now, mirrors.store, ?_, mirrors.chains⟩
            simp [mirrors.threads, isOwn]
  | @advance index thread found =>
      have keepsTo :=
        parted.threads thread (List.mem_of_getElem? found)
      cases isOwn : party thread.operation with
      | true =>
          rw [isOwn] at keepsTo
          obtain ⟨place, ownNext, stepped, later⟩ :=
            mirrors.advance_own found isOwn keepsTo
          exact ⟨[.advance place], ownNext, alone stepped, rfl, later⟩
      | false =>
          rw [isOwn] at keepsTo
          exact ⟨[], own, rfl, rfl,
            mirrors.advance_other found isOwn keepsTo⟩
  | @drain index key rest found =>
      rcases parted.chains _ (List.mem_of_getElem? found) with
        inside | outside
      · obtain ⟨place, ownNext, stepped, later⟩ :=
          mirrors.drain_own found (inside key List.mem_cons_self)
        exact ⟨[.drain place], ownNext, alone stepped, rfl, later⟩
      · exact ⟨[], own, rfl, rfl, mirrors.drain_other found outside⟩

/--
Erasing the calls of the others from a schedule leaves a schedule of the calls
of the party, in their order, that ends the same for the party.
-/
theorem Mirrors.run
    {actions : List (Action Operation)}
    (mirrors : Mirrors mine party full own)
    (parted : full.Parted mine party)
    (invoked :
      ∀ operation,
        .invoke operation ∈ actions →
        (behaviour operation).KeepsTo mine (party operation))
    (ran : full.run? behaviour actions = some next) :
    ∃ ownActions ownNext,
      own.run? behaviour ownActions = some ownNext ∧
        calls ownActions = (calls actions).filter party ∧
        Mirrors mine party next ownNext := by
  induction actions generalizing full own with
  | nil =>
      obtain rfl := Option.some.inj ran
      exact ⟨[], own, rfl, rfl, mirrors⟩
  | cons action rest inductionHypothesis =>
      obtain ⟨middle, stepped, ranRest⟩ := run?_cons.mp ran
      have stepCase := step_cases stepped
      obtain ⟨firstActions, ownMiddle, ranFirst, sameFirst, mirrored⟩ :=
        mirrors.step parted stepCase
      have partedMiddle : middle.Parted mine party := by
        refine parted.step ?_ stepCase
        rintro operation rfl
        exact invoked operation List.mem_cons_self
      obtain ⟨laterActions, ownNext, ranLater, sameLater, final⟩ :=
        inductionHypothesis mirrored partedMiddle
          (fun operation member =>
            invoked operation (List.mem_cons_of_mem _ member))
          ranRest
      refine ⟨firstActions ++ laterActions, ownNext,
        run?_append.mpr ⟨ownMiddle, ranFirst, ranLater⟩, ?_, final⟩
      have split :
          calls (action :: rest) = calls [action] ++ calls rest := by
        rw [← List.singleton_append]
        exact List.filterMap_append ..
      rw [split, List.filter_append, ← sameFirst, ← sameLater]
      exact List.filterMap_append ..

end World

end NestBackend
