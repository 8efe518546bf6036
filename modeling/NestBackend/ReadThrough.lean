import Mathlib.Data.List.Basic
import Mathlib.Logic.Function.Basic

namespace NestBackend

/-!
# Reading through a cache that changes go around

A read is answered with what is cached under its name while that is young, and
otherwise with what the source holds, which is then cached.  A change does not
touch the cache, so an answer is right where the changes since the cached read
come to nothing.
-/

namespace ReadThrough

/-- A cached value and the instant of the read that cached it. -/
structure Cached (Value : Type) where
  value : Value
  cachedAt : Nat
  deriving DecidableEq, Repr

/-- The source, and what is cached under each name. -/
structure State (Name Value Source : Type) where
  source : Source
  cache : Name → Option (Cached Value)

section Read

variable {Name Value Source : Type} [DecidableEq Name]

/-- Answer from the cache, or ask the source and cache its answer. -/
def read
    (name : Name)
    (lifetime now : Nat)
    (query : Source → Value)
    (state : State Name Value Source) : Value × State Name Value Source :=
  match (state.cache name).filter
      (fun cached => now < cached.cachedAt + lifetime) with
  | some cached => (cached.value, state)
  | none =>
      (query state.source,
        { state with
          cache :=
            Function.update state.cache name
              (some ⟨query state.source, now⟩) })

/-- No read changes the source. -/
@[simp] theorem read_source
    (name : Name)
    (lifetime now : Nat)
    (query : Source → Value)
    (state : State Name Value Source) :
    (read name lifetime now query state).2.source = state.source := by
  unfold read
  split <;> rfl

/-- A young answer is given again. -/
theorem read_young
    {name : Name}
    {lifetime now : Nat}
    {query : Source → Value}
    {state : State Name Value Source}
    {cached : Cached Value}
    (found : state.cache name = some cached)
    (young : now < cached.cachedAt + lifetime) :
    read name lifetime now query state = (cached.value, state) := by
  unfold read
  rw [found, Option.filter_some, if_pos (decide_eq_true young)]

/-- Without a young answer the source is asked. -/
theorem read_asks
    {name : Name}
    {lifetime now : Nat}
    {query : Source → Value}
    {state : State Name Value Source}
    (notYoung :
      ∀ cached,
        state.cache name = some cached →
          ¬ now < cached.cachedAt + lifetime) :
    read name lifetime now query state =
      (query state.source,
        { state with
          cache :=
            Function.update state.cache name
              (some ⟨query state.source, now⟩) }) := by
  unfold read
  cases found : state.cache name with
  | none => rfl
  | some cached =>
      rw [Option.filter_some,
        if_neg (by simpa using notYoung cached found)]

/-- Nothing is cached under another name. -/
theorem read_cache_other
    {name other : Name}
    (different : other ≠ name)
    (lifetime now : Nat)
    (query : Source → Value)
    (state : State Name Value Source) :
    (read name lifetime now query state).2.cache other =
      state.cache other := by
  unfold read
  split
  · rfl
  · exact Function.update_of_ne different _ _

end Read

/--
What is read under which name, what a change does to the source, and how long
an answer is young.
-/
structure Setting (Key Name Value Source Change : Type) where
  view : Key → Source → Value
  apply : Source → Change → Source
  name : Key → Name
  name_injective : Function.Injective name
  lifetime : Nat

/-- A read of a key at an instant, or a change. -/
inductive Event (Key Change : Type) where
  | read (key : Key) (now : Nat)
  | change (change : Change)

/--
The latest read of a key that asked the source: when, what the source was, and
the changes made since.
-/
structure Fill (Source Change : Type) where
  filledAt : Nat
  atFill : Source
  changes : List Change

section Runs

variable
  {Key Name Value Source Change : Type}
  [DecidableEq Key]
  [DecidableEq Name]
  (setting : Setting Key Name Value Source Change)

/-- One event. -/
def step
    (state : State Name Value Source) :
    Event Key Change → State Name Value Source
  | .read key now =>
      (read (setting.name key) setting.lifetime now (setting.view key)
        state).2
  | .change change =>
      { state with source := setting.apply state.source change }

/-- The state after some events. -/
def run
    (state : State Name Value Source)
    (events : List (Event Key Change)) : State Name Value Source :=
  events.foldl (step setting) state

/-- A source that nothing has been read from yet. -/
def fresh (source : Source) : State Name Value Source :=
  ⟨source, fun _ => none⟩

/-- The changes among some events. -/
def changes (events : List (Event Key Change)) : List Change :=
  events.filterMap fun event =>
    match event with
    | .read _ _ => none
    | .change change => some change

/-- The source after some events, which only changes touch. -/
def sourceAfter
    (source : Source)
    (events : List (Event Key Change)) : Source :=
  (changes events).foldl setting.apply source

/-- What one event makes of the latest fill of a key. -/
def nextFill
    (key : Key)
    (source : Source)
    (fill : Option (Fill Source Change)) :
    Event Key Change → Option (Fill Source Change)
  | .read other now =>
      if other = key then
        (fill.filter
          (fun fill => now < fill.filledAt + setting.lifetime)).or
          (some ⟨now, source, []⟩)
      else
        fill
  | .change change =>
      fill.map fun fill =>
        { fill with changes := fill.changes ++ [change] }

/-- The latest fill of a key, event by event. -/
def lastFill
    (key : Key)
    (source : Source)
    (fill : Option (Fill Source Change)) :
    List (Event Key Change) → Option (Fill Source Change)
  | [] => fill
  | event :: rest =>
      lastFill key (sourceAfter setting source [event])
        (nextFill setting key source fill event) rest

/-- A fill explains what is cached for a key, and where the source is now. -/
structure Explains
    (key : Key)
    (fill : Option (Fill Source Change))
    (state : State Name Value Source) : Prop where
  cached :
    state.cache (setting.name key) =
      fill.map fun fill =>
        ⟨setting.view key fill.atFill, fill.filledAt⟩
  source :
    ∀ found,
      fill = some found →
        state.source = found.changes.foldl setting.apply found.atFill

variable {setting}

omit [DecidableEq Key] in
/-- An event does to the source what its change does. -/
theorem step_source
    (state : State Name Value Source)
    (event : Event Key Change) :
    (step setting state event).source =
      sourceAfter setting state.source [event] := by
  cases event with
  | read key now => exact read_source ..
  | change change => rfl

omit [DecidableEq Key] in
/-- The source goes through the changes. -/
theorem run_source
    (state : State Name Value Source)
    (events : List (Event Key Change)) :
    (run setting state events).source =
      sourceAfter setting state.source events := by
  induction events generalizing state with
  | nil => rfl
  | cons event rest inductionHypothesis =>
      have later := inductionHypothesis (step setting state event)
      rw [step_source] at later
      refine later.trans ?_
      cases event with
      | read key now => rfl
      | change change => rfl

omit [DecidableEq Name] in
/-- A young fill is kept. -/
theorem nextFill_young
    {key : Key}
    {now : Nat}
    {source : Source}
    {found : Fill Source Change}
    (isYoung : now < found.filledAt + setting.lifetime) :
    nextFill setting key source (some found) (.read key now) =
      some found := by
  simp only [nextFill, ↓reduceIte, Option.filter_some, isYoung,
    decide_true, Option.some_or]

omit [DecidableEq Name] in
/-- Without a young fill, there is a new one. -/
theorem nextFill_asks
    {key : Key}
    {now : Nat}
    {source : Source}
    {fill : Option (Fill Source Change)}
    (notYoung :
      ∀ found,
        fill = some found → ¬ now < found.filledAt + setting.lifetime) :
    nextFill setting key source fill (.read key now) =
      some ⟨now, source, []⟩ := by
  have none :
      fill.filter (fun fill => now < fill.filledAt + setting.lifetime) =
        none := by
    cases fill with
    | none => rfl
    | some found =>
        exact Option.filter_some_neg (decide_eq_false (notYoung found rfl))
  simp only [nextFill, ↓reduceIte, none, Option.none_or]

namespace Explains

variable
  {key : Key}
  {fill : Option (Fill Source Change)}
  {state : State Name Value Source}

/-- A change keeps the explanation. -/
theorem change
    (explains : Explains setting key fill state)
    (change : Change) :
    Explains setting key
      (nextFill setting key state.source fill (.change change))
      (ReadThrough.step setting state (.change change)) := by
  refine ⟨?_, ?_⟩
  · simp only [ReadThrough.step, nextFill, explains.cached, Option.map_map]
    rfl
  · intro found next
    obtain ⟨before, isFill, rfl⟩ := Option.map_eq_some_iff.mp next
    simp only [ReadThrough.step, explains.source before isFill,
      List.foldl_append, List.foldl_cons, List.foldl_nil]

/-- A read of another key keeps it. -/
theorem readOther
    {other : Key}
    (explains : Explains setting key fill state)
    (different : other ≠ key)
    (now : Nat) :
    Explains setting key
      (nextFill setting key state.source fill (.read other now))
      (ReadThrough.step setting state (.read other now)) := by
  have otherName : setting.name key ≠ setting.name other :=
    fun sameName => different (setting.name_injective sameName).symm
  refine ⟨?_, ?_⟩
  · simp only [ReadThrough.step, nextFill, different, ↓reduceIte]
    rw [read_cache_other otherName]
    exact explains.cached
  · simp only [ReadThrough.step, nextFill, different, ↓reduceIte,
      read_source]
    exact explains.source

/-- A read of the key keeps it, whether the answer is cached or asked for. -/
theorem readSame
    (explains : Explains setting key fill state)
    (now : Nat) :
    Explains setting key
      (nextFill setting key state.source fill (.read key now))
      (ReadThrough.step setting state (.read key now)) := by
  by_cases young :
      ∃ found,
        fill = some found ∧ now < found.filledAt + setting.lifetime
  · obtain ⟨found, rfl, isYoung⟩ := young
    have served :
        read (setting.name key) setting.lifetime now (setting.view key)
            state =
          (setting.view key found.atFill, state) :=
      read_young explains.cached isYoung
    rw [nextFill_young isYoung]
    simp only [ReadThrough.step, served]
    exact explains
  · have old :
        ∀ found,
          fill = some found →
            ¬ now < found.filledAt + setting.lifetime :=
      fun found isFill isYoung => young ⟨found, isFill, isYoung⟩
    have asks :
        ∀ cached,
          state.cache (setting.name key) = some cached →
            ¬ now < cached.cachedAt + setting.lifetime := by
      intro cached isCached isYoung
      rw [explains.cached] at isCached
      obtain ⟨found, isFill, rfl⟩ := Option.map_eq_some_iff.mp isCached
      exact old found isFill isYoung
    rw [nextFill_asks old]
    simp only [ReadThrough.step, read_asks asks]
    refine ⟨Function.update_self .., ?_⟩
    intro found isNew
    obtain rfl := Option.some.inj isNew
    rfl

/-- One event keeps it. -/
theorem step
    (explains : Explains setting key fill state)
    (event : Event Key Change) :
    Explains setting key (nextFill setting key state.source fill event)
      (ReadThrough.step setting state event) := by
  cases event with
  | change change => exact explains.change change
  | read other now =>
      by_cases same : other = key
      · subst same
        exact explains.readSame now
      · exact explains.readOther same now

end Explains

/-- A run keeps it. -/
theorem Explains.run
    {key : Key}
    {fill : Option (Fill Source Change)}
    {state : State Name Value Source}
    (explains : Explains setting key fill state)
    (events : List (Event Key Change)) :
    Explains setting key (lastFill setting key state.source fill events)
      (ReadThrough.run setting state events) := by
  induction events generalizing fill state with
  | nil => exact explains
  | cons event rest inductionHypothesis =>
      have later := inductionHypothesis (explains.step event)
      rw [step_source] at later
      exact later

/--
After a run from nothing cached, a read is answered with what the source holds
exactly when it does so anew, or the changes since the fill leave the answer.
-/
theorem read_eq_view_iff
    (source : Source)
    (events : List (Event Key Change))
    (key : Key)
    (now : Nat) :
    (read (setting.name key) setting.lifetime now (setting.view key)
          (run setting (fresh source) events)).1 =
        setting.view key (sourceAfter setting source events) ↔
      ∀ fill,
        lastFill setting key source none events = some fill →
          now < fill.filledAt + setting.lifetime →
            setting.view key (fill.changes.foldl setting.apply fill.atFill) =
              setting.view key fill.atFill := by
  have nothing :
      Explains setting key none (fresh source : State Name Value Source) :=
    ⟨rfl, by simp⟩
  have explains := nothing.run events
  have current :
      (run setting (fresh source) events).source =
        sourceAfter setting source events :=
    run_source _ events
  rw [← current]
  constructor
  · intro same fill isFill young
    have isCached :
        (run setting (fresh source) events).cache (setting.name key) =
          some ⟨setting.view key fill.atFill, fill.filledAt⟩ := by
      rw [explains.cached]
      exact congrArg _ isFill
    rw [read_young isCached young, explains.source fill isFill] at same
    exact same.symm
  · intro unchanged
    by_cases young :
        ∃ cached,
          (run setting (fresh source) events).cache (setting.name key) =
              some cached ∧
            now < cached.cachedAt + setting.lifetime
    · obtain ⟨cached, isCached, isYoung⟩ := young
      rw [read_young isCached isYoung]
      rw [explains.cached] at isCached
      obtain ⟨fill, isFill, rfl⟩ := Option.map_eq_some_iff.mp isCached
      rw [explains.source fill isFill]
      exact (unchanged fill isFill isYoung).symm
    · rw [read_asks]
      intro cached isCached isYoung
      exact young ⟨cached, isCached, isYoung⟩

end Runs

end ReadThrough

end NestBackend
