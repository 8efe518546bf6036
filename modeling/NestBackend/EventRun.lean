import Mathlib.Data.List.Basic

namespace NestBackend

/-!
# Runs of events

A step function says what an event makes of a state, or that it cannot happen
there.  A run is a list of events that can happen one after the other.
-/

namespace EventRun

variable
  {State Event : Type}
  {step : State → Event → Option State}
  {start final : State}
  {events : List Event}

/-- The state after some events, if they can happen one after the other. -/
def run?
    (step : State → Event → Option State)
    (start : State)
    (events : List Event) : Option State :=
  events.foldlM step start

/-- The first event and the others. -/
theorem run?_cons
    {event : Event}
    {rest : List Event} :
    run? step start (event :: rest) = some final ↔
      ∃ next,
        step start event = some next ∧ run? step next rest = some final :=
  Option.bind_eq_some_iff

/-- A run in two parts. -/
theorem run?_append
    (before rest : List Event) :
    run? step start (before ++ rest) =
      (run? step start before).bind (fun middle => run? step middle rest) :=
  List.foldlM_append ..

/-- What holds at first and is kept by every event holds at the end. -/
theorem keeps
    {Keeps : State → Prop}
    (kept :
      ∀ {state next : State} {event : Event},
        event ∈ events →
          Keeps state →
          step state event = some next →
          Keeps next)
    (ran : run? step start events = some final)
    (initially : Keeps start) :
    Keeps final := by
  induction events generalizing start with
  | nil =>
      obtain rfl := Option.some.inj ran
      exact initially
  | cons event rest inductionHypothesis =>
      obtain ⟨next, stepped, ranRest⟩ := run?_cons.mp ran
      refine inductionHypothesis ?_ ranRest ?_
      · intro state next event member
        exact kept (List.mem_cons_of_mem _ member)
      · exact kept List.mem_cons_self initially stepped

/-- A run is no longer than a rank that every event lowers. -/
theorem length_le
    {rank : State → Nat}
    (lowers :
      ∀ {state next : State} {event : Event},
        step state event = some next → rank next < rank state)
    (ran : run? step start events = some final) :
    events.length ≤ rank start := by
  induction events generalizing start with
  | nil => exact Nat.zero_le _
  | cons event rest inductionHypothesis =>
      obtain ⟨next, stepped, ranRest⟩ := run?_cons.mp ran
      have lowered := lowers stepped
      have restShort := inductionHypothesis ranRest
      rw [List.length_cons]
      omega

/-- No event of a run is a hazard where it happens. -/
def Avoids
    (step : State → Event → Option State)
    (Hazard : State → Event → Prop) : State → List Event → Prop
  | _, [] => True
  | state, event :: rest =>
      ¬ Hazard state event ∧
        ∀ next, step state event = some next → Avoids step Hazard next rest

/-- What holds at first and is kept without hazards holds at the end. -/
theorem keeps_of_avoids
    {Hazard : State → Event → Prop}
    {Keeps : State → Prop}
    (kept :
      ∀ {state next : State} {event : Event},
        Keeps state →
          ¬ Hazard state event →
          step state event = some next →
          Keeps next)
    (ran : run? step start events = some final)
    (avoids : Avoids step Hazard start events)
    (initially : Keeps start) :
    Keeps final := by
  induction events generalizing start with
  | nil =>
      obtain rfl := Option.some.inj ran
      exact initially
  | cons event rest inductionHypothesis =>
      obtain ⟨next, stepped, ranRest⟩ := run?_cons.mp ran
      obtain ⟨harmless, avoidsRest⟩ := avoids
      exact
        inductionHypothesis ranRest (avoidsRest next stepped)
          (kept initially harmless stepped)

end EventRun

end NestBackend
