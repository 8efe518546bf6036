import NestBackend.WorkflowMessages

namespace NestBackend

open JavaScript

/-!
# Deliveries that nobody heard

A receiver has its credits before the consumer listens to `source`, so that the
broker can deliver messages which nobody takes up.  Such a delivery stays as it
is for as long as its receiver is open.  All the others are under way until they
are settled, so that every message is accounted for.
-/

namespace WorkflowEvent

/-- The consumer begins to listen. -/
def isHear : WorkflowEvent → Bool
  | .other .hear => true
  | _ => false

/-- The broker delivers a message. -/
def isDelivery : WorkflowEvent → Bool
  | .deliver _ => true
  | _ => false

/-- The number of deliveries before the consumer listens. -/
def unheard (events : List WorkflowEvent) : Nat :=
  (events.takeWhile fun event => !event.isHear).countP isDelivery

/-- The first event, and those after it. -/
theorem unheard_cons
    (event : WorkflowEvent)
    (rest : List WorkflowEvent) :
    unheard (event :: rest) =
      if event.isHear then 0 else event.isDelivery.toNat + unheard rest := by
  unfold unheard
  cases hears : event.isHear with
  | true => simp [hears]
  | false =>
      cases delivers : event.isDelivery with
      | true => simp [hears, delivers, Nat.add_comm]
      | false => simp [hears, delivers]

end WorkflowEvent

/-! ## What was delivered unheard -/

namespace Subscription

variable
  {concurrentLimit : Nat}
  {maxRedeliverCount : Int}
  {subscription next : Subscription}
  {event : SubscriptionEvent}
  {count : Nat}

/-- Listening once is enough. -/
theorem step_heard
    (stepped :
      subscription.step concurrentLimit maxRedeliverCount event =
        some next) :
    next.heard = true ↔ subscription.heard = true ∨ event = .hear := by
  have unchanged :
      ∀ calls : List DeliveryCall, ∀ index : Nat, ∀ other : Subscription,
        (other.performAll index calls).heard = other.heard := by
    intro calls index other
    obtain ⟨credit, deliveries, same⟩ := performAll_eq other index calls
    rw [same]
  cases step_cases stepped with
  | hear => simp
  | start => simp
  | deliver => simp
  | close => simp
  | receiverClose =>
      unfold createReceiver
      split <;> simp
  | connectionOpen =>
      unfold createReceiver
      split <;> simp
  | process =>
      unfold dispose
      rw [unchanged]
      simp [record]
  | @call index delivery function =>
      cases function with
      | accept => simp [call, perform, record]
      | release => simp [call, record]
      | reject => simp [call, unchanged]
      | addCredit =>
          simp only [call]
          split <;> simp [perform, giveCredit, record]
  | releaseTimer =>
      unfold timeout
      rw [unchanged]
      simp [record]

/-- Nothing happens to a delivery that nobody heard. -/
theorem Evolves.eq_of_unheard
    {latest index : Nat}
    {delivery after : Delivery}
    (evolved : Evolves latest index delivery event after)
    (unheard : delivery.stage = .unheard)
    (noTimer : delivery.timers = 0) :
    after = delivery := by
  cases evolved with
  | same => rfl
  | processed waiting =>
      rw [unheard] at waiting
      cases waiting
  | called emitted => simp [Delivery.emitted, unheard] at emitted
  | timedOut running => omega

/-- A delivery that was heard stays so. -/
theorem Evolves.heard
    {latest index : Nat}
    {delivery after : Delivery}
    (evolved : Evolves latest index delivery event after)
    (heard : delivery.stage ≠ .unheard) :
    after.stage ≠ .unheard := by
  by_cases waiting : delivery.stage = .waiting
  · cases evolved with
    | same => exact heard
    | processed =>
        rw [foldl_performed_stage]
        simp
    | called emitted => simp [Delivery.emitted, waiting] at emitted
    | timedOut => exact heard
  · rw [evolved.stage waiting]
    exact heard

/-- The first deliveries came unheard, and nothing has happened to them. -/
structure Parted (count : Nat) (subscription : Subscription) : Prop where
  atMost : count ≤ subscription.deliveries.length
  silent :
    subscription.heard = false → count = subscription.deliveries.length
  unheard :
    ∀ (index : Nat) (delivery : Delivery),
      subscription.deliveries[index]? = some delivery →
        if index < count then
          delivery.stage = .unheard ∧ delivery.settlements = [] ∧
            delivery.timers = 0
        else
          delivery.stage ≠ .unheard

/-- An event that is no delivery leaves it so. -/
theorem Parted.step
    (parted : Parted count subscription)
    (stepped :
      subscription.step concurrentLimit maxRedeliverCount event =
        some next)
    (notDeliver :
      ∀ message first_acquirer, event ≠ .deliver message first_acquirer) :
    Parted count next := by
  have sameLength := step_length stepped notDeliver
  refine ⟨?_, ?_, ?_⟩
  · rw [sameLength]
    exact parted.atMost
  · intro silent
    rw [sameLength]
    apply parted.silent
    rw [Bool.eq_false_iff]
    intro heard
    rw [(step_heard stepped).mpr (.inl heard)] at silent
    cases silent
  · intro index after found
    obtain ⟨delivery, wasFound, evolved⟩ :=
      step_before stepped notDeliver found
    have was := parted.unheard index delivery wasFound
    split at was
    next isEarly =>
      rw [if_pos isEarly, evolved.eq_of_unheard was.1 was.2.2]
      exact was
    next isLate =>
      rw [if_neg isLate]
      exact evolved.heard was

/-- A delivery comes unheard exactly if nobody listens. -/
theorem Parted.deliver
    (parted : Parted count subscription)
    {message : Option AmqpMessage}
    {first_acquirer : Bool}
    (stepped :
      subscription.step concurrentLimit maxRedeliverCount
        (.deliver message first_acquirer) = some next) :
    Parted (count + (!subscription.heard).toNat) next := by
  have sameHeard := step_heard stepped
  have appended :
      next.deliveries =
        subscription.deliveries ++
          [subscription.arrived message first_acquirer] := by
    cases step_cases stepped with
    | deliver => rfl
  have newLength :
      next.deliveries.length = subscription.deliveries.length + 1 := by
    rw [appended, List.length_append, List.length_singleton]
  have atMost := parted.atMost
  have older :
      ∀ {index : Nat} {delivery : Delivery},
        next.deliveries[index]? = some delivery →
          index < subscription.deliveries.length →
            subscription.deliveries[index]? = some delivery := by
    intro index delivery found bound
    rwa [appended, List.getElem?_append_left bound] at found
  have newest :
      ∀ {index : Nat} {delivery : Delivery},
        next.deliveries[index]? = some delivery →
          ¬ index < subscription.deliveries.length →
            index = subscription.deliveries.length ∧
              delivery = subscription.arrived message first_acquirer := by
    intro index delivery found notOlder
    have bound := (List.getElem?_eq_some_iff.mp found).1
    obtain rfl : index = subscription.deliveries.length := by omega
    rw [appended, List.getElem?_concat_length] at found
    exact ⟨rfl, (Option.some.inj found).symm⟩
  cases heard : subscription.heard with
  | true =>
      refine ⟨by simp only [Bool.not_true, Bool.toNat_false]; omega, ?_, ?_⟩
      · intro silent
        rw [sameHeard.mpr (.inl heard)] at silent
        cases silent
      · intro index delivery found
        by_cases bound : index < subscription.deliveries.length
        · exact parted.unheard index delivery (older found bound)
        · obtain ⟨rfl, rfl⟩ := newest found bound
          rw [if_neg (by simp only [Bool.not_true, Bool.toNat_false]; omega)]
          simp [arrived, heard]
  | false =>
      have all := parted.silent heard
      subst all
      rw [Bool.not_false, Bool.toNat_true]
      refine ⟨newLength.ge, fun _ => newLength.symm, ?_⟩
      intro index delivery found
      by_cases bound : index < subscription.deliveries.length
      · have was := parted.unheard index delivery (older found bound)
        rw [if_pos bound] at was
        rw [if_pos (Nat.lt_add_right _ bound)]
        exact was
      · obtain ⟨rfl, rfl⟩ := newest found bound
        rw [if_pos (Nat.lt_add_one _)]
        simp [arrived, heard]

end Subscription

namespace Workflow

section Unheard

variable
  {concurrentLimit : Nat}
  {maxRedeliverCount : Int}
  {eagerAcceptMessage : Bool}
  {workflow next : Workflow}
  {count : Nat}

/-- What an event of the workflow is for the subscription and the broker. -/
inductive StepCase
    (concurrentLimit : Nat)
    (maxRedeliverCount : Int)
    (workflow : Workflow) :
    WorkflowEvent → Workflow → Prop where
  | quiet
      {event : WorkflowEvent}
      {next : Workflow}
      (sameSubscription : next.subscription = workflow.subscription)
      (sameCustody : next.custody = workflow.custody)
      (notHear : event.isHear = false)
      (notDelivery : event.isDelivery = false) :
      StepCase concurrentLimit maxRedeliverCount workflow event next
  | delivered
      {number : Nat}
      {message : AmqpMessage}
      {redelivered : Bool}
      {next : Workflow}
      (isReady : workflow.custody number = .ready redelivered)
      (isStep :
        workflow.subscription.step concurrentLimit maxRedeliverCount
            (.deliver (some message) (!redelivered)) =
          some next.subscription)
      (custody :
        next.custody =
          Function.update workflow.custody number
            (.unsettled workflow.subscription.deliveries.length)) :
      StepCase concurrentLimit maxRedeliverCount workflow (.deliver number)
        next
  | happened
      {event : WorkflowEvent}
      {next : Workflow}
      {happened : SubscriptionEvent}
      (isStep :
        workflow.subscription.step concurrentLimit maxRedeliverCount
            happened =
          some next.subscription)
      (custody :
        next.custody =
          fun number => observe next.subscription (workflow.custody number))
      (hears : event.isHear = true ↔ happened = .hear)
      (closes : happened = .close → event = .other .close)
      (notDelivery : event.isDelivery = false)
      (notDeliver :
        ∀ message first_acquirer,
          happened ≠ .deliver message first_acquirer) :
      StepCase concurrentLimit maxRedeliverCount workflow event next

/-- A call of the loop happens to the subscription. -/
theorem stepCase_of_call
    {event : WorkflowEvent}
    {index : Nat}
    {function : EventCall}
    {phase : LoopPhase}
    (called :
      (workflow.happen concurrentLimit maxRedeliverCount
        (.call index function)).map (enter index phase) = some next)
    (notHear : event.isHear = false)
    (notDelivery : event.isDelivery = false) :
    StepCase concurrentLimit maxRedeliverCount workflow event next := by
  obtain ⟨middle, happened, rfl⟩ := Option.map_eq_some_iff.mp called
  obtain ⟨subscription, isStep, rfl⟩ := happen_cases happened
  exact
    .happened isStep rfl (by simp [notHear]) (by simp) notDelivery (by simp)

/-- Every event is one of the cases. -/
theorem step_cases
    {event : WorkflowEvent}
    (stepped :
      workflow.step concurrentLimit maxRedeliverCount eagerAcceptMessage
        event = some next) :
    StepCase concurrentLimit maxRedeliverCount workflow event next := by
  cases event with
  | publish message =>
      obtain rfl := Option.some.inj stepped
      exact .quiet rfl rfl rfl rfl
  | deliver number =>
      simp only [Workflow.step] at stepped
      split at stepped
      next message redelivered _ isReady =>
        obtain ⟨subscription, isStep, rfl⟩ :=
          Option.map_eq_some_iff.mp stepped
        exact .delivered isReady isStep rfl
      next => cases stepped
  | begin index =>
      simp only [Workflow.step] at stepped
      split at stepped
      next =>
        split at stepped
        next =>
          split at stepped
          next => exact stepCase_of_call stepped rfl rfl
          next =>
            obtain rfl := Option.some.inj stepped
            exact .quiet rfl rfl rfl rfl
        next => cases stepped
      next => cases stepped
  | resolve index handling =>
      simp only [Workflow.step] at stepped
      split at stepped
      next =>
        obtain rfl := Option.some.inj stepped
        exact .quiet rfl rfl rfl rfl
      next => cases stepped
  | proceed index =>
      simp only [Workflow.step] at stepped
      split at stepped
      next => exact stepCase_of_call stepped rfl rfl
      next => cases stepped
  | other happened =>
      simp only [Workflow.step] at stepped
      split at stepped
      next isOther =>
        obtain ⟨subscription, isStep, rfl⟩ := happen_cases stepped
        refine .happened isStep rfl ?_ ?_ rfl ?_
        · cases happened <;> simp [WorkflowEvent.isHear]
        · rintro rfl
          rfl
        · rintro message first_acquirer rfl
          cases isOther
      next => cases stepped

/-- The consumer listens, and so many deliveries came before that. -/
structure Listening (count : Nat) (workflow : Workflow) : Prop where
  heard : workflow.subscription.heard = true
  parted : workflow.subscription.Parted count

/-- Once the consumer listens, no more deliveries come unheard. -/
theorem Listening.step
    {event : WorkflowEvent}
    (listening : workflow.Listening count)
    (stepped :
      workflow.step concurrentLimit maxRedeliverCount eagerAcceptMessage
        event = some next) :
    next.Listening count := by
  obtain ⟨heard, parted⟩ := listening
  cases step_cases stepped with
  | quiet same =>
      rw [← same] at heard parted
      exact ⟨heard, parted⟩
  | delivered _ isStep =>
      have arrived := parted.deliver isStep
      rw [heard, Bool.not_true, Bool.toNat_false, Nat.add_zero] at arrived
      exact ⟨(Subscription.step_heard isStep).mpr (.inl heard), arrived⟩
  | happened isStep _ _ _ _ notDeliver =>
      exact
        ⟨(Subscription.step_heard isStep).mpr (.inl heard),
          parted.step isStep notDeliver⟩

/-- The deliveries before the consumer listens come unheard. -/
theorem run_parted
    {start : Workflow}
    {events : List WorkflowEvent}
    (ran :
      start.run? concurrentLimit maxRedeliverCount eagerAcceptMessage events =
        some workflow)
    (silent : start.subscription.heard = false)
    (parted : start.subscription.Parted count) :
    workflow.subscription.Parted (count + WorkflowEvent.unheard events) := by
  induction events generalizing start count with
  | nil =>
      obtain rfl := Option.some.inj ran
      exact parted
  | cons event rest inductionHypothesis =>
      obtain ⟨next, stepped, ranRest⟩ := EventRun.run?_cons.mp ran
      rw [WorkflowEvent.unheard_cons]
      cases step_cases stepped with
      | quiet same _ notHear notDelivery =>
          rw [notHear, notDelivery, if_neg (by simp), Bool.toNat_false,
            Nat.zero_add]
          exact inductionHypothesis ranRest (same ▸ silent) (same ▸ parted)
      | delivered _ isStep =>
          have heard := Subscription.step_heard isStep
          have stillSilent : next.subscription.heard = false := by
            rw [Bool.eq_false_iff, ne_eq, heard, silent]
            simp
          have arrived := parted.deliver isStep
          rw [silent] at arrived
          rw [if_neg (by simp [WorkflowEvent.isHear]), ← Nat.add_assoc]
          exact inductionHypothesis ranRest stillSilent arrived
      | happened isStep _ hears _ notDelivery notDeliver =>
          have heard := Subscription.step_heard isStep
          rw [silent, Bool.false_eq_true, false_or, ← hears] at heard
          have partedNext := parted.step isStep notDeliver
          cases isHear : event.isHear with
          | true =>
              -- from here on the consumer listens
              have listening : workflow.Listening count :=
                EventRun.keeps (fun _ kept stepped => kept.step stepped)
                  ranRest ⟨heard.mpr isHear, partedNext⟩
              rw [if_pos rfl, Nat.add_zero]
              exact listening.parted
          | false =>
              have stillSilent : next.subscription.heard = false := by
                rw [Bool.eq_false_iff, ne_eq, heard, isHear]
                simp
              rw [if_neg (by simp), notDelivery, Bool.toNat_false,
                Nat.zero_add]
              exact inductionHypothesis ranRest stillSilent partedNext

/-! ## How long they stay -/

/-- The broker waits for a delivery that nobody heard. -/
structure Stranded
    (number index : Nat)
    (workflow : Workflow) : Prop where
  custody : workflow.custody number = .unsettled index
  isOpen : workflow.subscription.closed = false
  unheard :
    ∃ delivery,
      workflow.subscription.deliveries[index]? = some delivery ∧
        delivery.stage = .unheard ∧ delivery.settlements = [] ∧
        delivery.timers = 0

variable {number index : Nat}

/-- Every event but the end of a receiver keeps it waiting. -/
theorem Stranded.step
    {event : WorkflowEvent}
    (stranded : workflow.Stranded number index)
    (stepped :
      workflow.step concurrentLimit maxRedeliverCount eagerAcceptMessage
        event = some next)
    (notClose : event ≠ .other .close) :
    next.Stranded number index := by
  obtain ⟨custody, isOpen, delivery, found, unheard, unsettled, noTimer⟩ :=
    stranded
  cases step_cases stepped with
  | quiet same sameCustody =>
      rw [← same] at isOpen found
      exact
        ⟨sameCustody ▸ custody, isOpen, delivery, found, unheard, unsettled,
          noTimer⟩
  | @delivered other _ _ _ isReady isStep isCustody =>
      have different : number ≠ other := by
        rintro rfl
        rw [custody] at isReady
        cases isReady
      obtain ⟨after, afterFound, evolved⟩ :=
        Subscription.step_evolves isStep found
      obtain rfl := evolved.eq_of_unheard unheard noTimer
      refine
        ⟨?_, Subscription.step_open isStep (by simp) isOpen, after,
          afterFound, unheard, unsettled, noTimer⟩
      rw [isCustody, Function.update_of_ne different, custody]
  | happened isStep isCustody _ closes =>
      obtain ⟨after, afterFound, evolved⟩ :=
        Subscription.step_evolves isStep found
      obtain rfl := evolved.eq_of_unheard unheard noTimer
      have stillOpen :=
        Subscription.step_open isStep (fun isClose => notClose (closes isClose))
          isOpen
      refine ⟨?_, stillOpen, after, afterFound, unheard, unsettled, noTimer⟩
      rw [isCustody]
      simp only
      rw [custody, observe_unsettled afterFound, unsettled, stillOpen]
      rfl

/-- The broker waits for deliveries on open receivers only. -/
def WaitsOpen (workflow : Workflow) : Prop :=
  ∀ number index,
    workflow.custody number = .unsettled index →
      workflow.subscription.closed = false

/-- The broker sees a delivery unsettled only while its receiver is open. -/
theorem closed_of_observe
    {subscription : Subscription}
    {custody : Custody}
    (unsettled : observe subscription custody = .unsettled index) :
    subscription.closed = false := by
  cases custody with
  | unsettled position =>
      unfold observe at unsettled
      simp only at unsettled
      split at unsettled
      next settlement _ => cases settlement <;> cases unsettled
      next =>
        split at unsettled
        next => cases unsettled
        next isOpen => exact Bool.eq_false_iff.mpr isOpen
  | ready redelivered => cases unsettled
  | accepted => cases unsettled
  | deadLettered => cases unsettled

/-- Every event leaves it so. -/
theorem WaitsOpen.step
    {event : WorkflowEvent}
    (waitsOpen : workflow.WaitsOpen)
    (stepped :
      workflow.step concurrentLimit maxRedeliverCount eagerAcceptMessage
        event = some next) :
    next.WaitsOpen := by
  intro number index unsettled
  cases step_cases stepped with
  | quiet same sameCustody =>
      rw [same]
      exact waitsOpen number index (sameCustody ▸ unsettled)
  | delivered _ isStep =>
      simp only [Subscription.step] at isStep
      split at isStep
      next enabled =>
        rw [← Option.some.inj isStep]
        exact enabled.1
      next => cases isStep
  | happened _ isCustody =>
      rw [isCustody] at unsettled
      exact closed_of_observe unsettled

/-! ## All messages -/

/-- The broker waits for a delivery until a receiver closes. -/
def StaysUnsettled
    (concurrentLimit : Nat)
    (maxRedeliverCount : Int)
    (eagerAcceptMessage : Bool)
    (workflow : Workflow)
    (number index : Nat) : Prop :=
  ∀ (more : List WorkflowEvent) (later : Workflow),
    .other .close ∉ more →
      workflow.run? concurrentLimit maxRedeliverCount eagerAcceptMessage
          more =
        some later →
        later.custody number = .unsettled index

/-- A stranded delivery stays unsettled. -/
theorem Stranded.stays
    (stranded : workflow.Stranded number index) :
    workflow.StaysUnsettled concurrentLimit maxRedeliverCount
      eagerAcceptMessage number index := by
  intro more later stayOpen ran
  have kept : later.Stranded number index := by
    refine EventRun.keeps ?_ ran stranded
    intro state after event member isStranded stepped
    refine isStranded.step stepped ?_
    rintro rfl
    exact stayOpen member
  exact kept.custody

variable
  {redis : String → Redis.Slot}
  {events : List WorkflowEvent}

/-- A delivery that the broker waits for is under way, or nobody heard it. -/
theorem accounted_unsettled
    (ran :
      (opened concurrentLimit redis).run? concurrentLimit
        maxRedeliverCount eagerAcceptMessage events = some workflow)
    (unsettled : workflow.custody number = .unsettled index) :
    ∃ delivery,
      workflow.Carries number index delivery ∧
        if index < WorkflowEvent.unheard events then
          delivery.stage = .unheard ∧
            workflow.StaysUnsettled concurrentLimit maxRedeliverCount
              eagerAcceptMessage number index
        else
          UnderWay delivery (workflow.loops index) := by
  have atFirst : (opened concurrentLimit redis).subscription.Parted 0 := by
    refine ⟨Nat.zero_le _, fun _ => rfl, ?_⟩
    intro position delivery found
    cases found
  have waitsOpen : workflow.WaitsOpen := by
    refine
      EventRun.keeps (fun _ kept stepped => WaitsOpen.step kept stepped) ran ?_
    intro other position isUnsettled
    cases isUnsettled
  have parted := run_parted ran rfl atFirst
  rw [Nat.zero_add] at parted
  obtain ⟨delivery, carried, underWay⟩ := (run_kept ran).underWay unsettled
  have stage := parted.unheard index delivery carried.1
  refine ⟨delivery, carried, ?_⟩
  split at stage
  next isEarly =>
    have stranded : workflow.Stranded number index :=
      ⟨unsettled, waitsOpen number index unsettled, delivery, carried.1, stage⟩
    rw [if_pos isEarly]
    exact ⟨stage.1, stranded.stays⟩
  next isLate =>
    rw [if_neg isLate]
    exact underWay stage

/--
Every message is accounted for.  A delivery that the broker waits for is under
way, unless it came before the consumer listened; then it stays unsettled until
a receiver closes.  What the broker has let go was accepted by a handler that
has resolved, or has begun where messages are accepted eagerly, and the rest was
given up by `receiveMessage`.
-/
theorem messages_accounted
    (ran :
      (opened concurrentLimit redis).run? concurrentLimit
        maxRedeliverCount eagerAcceptMessage events = some workflow)
    (number : Nat) :
    match workflow.custody number with
    | .ready _ => True
    | .unsettled index =>
        ∃ delivery,
          workflow.Carries number index delivery ∧
            if index < WorkflowEvent.unheard events then
              delivery.stage = .unheard ∧
                workflow.StaysUnsettled concurrentLimit maxRedeliverCount
                  eagerAcceptMessage number index
            else
              UnderWay delivery (workflow.loops index)
    | .accepted =>
        ∃ index delivery,
          workflow.Carries number index delivery ∧
            Handled eagerAcceptMessage (workflow.loops index)
    | .deadLettered =>
        ∃ index delivery,
          workflow.Carries number index delivery ∧ GivenUp delivery := by
  have explained := (run_kept ran).custody number
  cases here : workflow.custody number with
  | ready redelivered => trivial
  | unsettled index => exact accounted_unsettled ran here
  | accepted =>
      rw [here] at explained
      exact explained
  | deadLettered =>
      rw [here] at explained
      exact explained

/--
A message comes before the consumer listens.  Of two that come later, one is
handled, and the other one is not yet.
-/
def lateListener : List WorkflowEvent :=
  [.publish Subscription.questionMessage,
    .publish Subscription.questionMessage,
    .publish Subscription.questionMessage, .deliver 0, .other .hear,
    .other .start, .deliver 1, .other (.process 0), .begin 1,
    .resolve 1 ⟨some (.str "answer"), true⟩, .proceed 1, .proceed 1,
    .deliver 2, .other (.process 1), .begin 2]

/-- The first message is left, the second one handled, the third one begun. -/
theorem messages_accounted_late :
    ∃ workflow,
      (opened 2 (fun _ => none)).run? 2 5 false lateListener =
          some workflow ∧
        workflow.StaysUnsettled 2 5 false 0 0 ∧
        workflow.custody 1 = .accepted ∧
        (∃ index delivery,
          workflow.Carries 1 index delivery ∧
            Handled false (workflow.loops index)) ∧
        workflow.custody 2 = .unsettled 2 ∧
        ∃ delivery,
          workflow.Carries 2 2 delivery ∧
            UnderWay delivery (workflow.loops 2) := by
  have outcome :
      ((opened 2 (fun _ => none)).run? 2 5 false lateListener).map
          (fun workflow =>
            (workflow.custody 0, workflow.custody 1, workflow.custody 2)) =
        some (.unsettled 0, .accepted, .unsettled 2) := by
    decide +kernel
  obtain ⟨workflow, ran, custodies⟩ := Option.map_eq_some_iff.mp outcome
  obtain ⟨first, second, third⟩ :
      workflow.custody 0 = .unsettled 0 ∧
        workflow.custody 1 = .accepted ∧
        workflow.custody 2 = .unsettled 2 := by
    simpa only [Prod.mk.injEq] using custodies
  have firstAccounted := messages_accounted ran 0
  have secondAccounted := messages_accounted ran 1
  have thirdAccounted := messages_accounted ran 2
  rw [first] at firstAccounted
  rw [second] at secondAccounted
  rw [third] at thirdAccounted
  obtain ⟨-, -, -, left⟩ := firstAccounted
  exact ⟨workflow, ran, left, second, secondAccounted, third, thirdAccounted⟩

end Unheard

end Workflow

end NestBackend
