import NestBackend.AmqpConsumer

namespace NestBackend

open JavaScript

/-!
# What becomes of the messages of a workflow

A queue of the broker, the subscription of a workflow, and one consumer loop
for each message event.  The broker keeps a message until the first settlement
of a delivery of it, and takes it back when the receiver closes before that.

A message leaves the queue only if its handler has resolved, or has begun where
messages are accepted eagerly, or if `receiveMessage` has given it up.  What the
broker waits for is under way, or came before anybody listened.
-/

/-- How far the consumer loop has come with a message event. -/
inductive LoopPhase where
  | fresh
  /-- `onMessage` has been called. -/
  | handling
  /-- The calls that are still to be made. -/
  | calling (handling : Handling) (rest : List EventCall)

/-- Where a message is. -/
inductive Custody where
  | ready (redelivered : Bool)
  | unsettled (delivery : Nat)
  | accepted
  | deadLettered
  deriving DecidableEq, Repr

/--
A workflow with its queue.  Messages are numbered as they are published, and
each delivery is of one message.
-/
structure Workflow where
  subscription : Subscription
  loops : Nat → LoopPhase
  sent : List AmqpMessage
  origins : List Nat
  custody : Nat → Custody

/-- What can happen next. -/
inductive WorkflowEvent where
  | publish (message : AmqpMessage)
  /-- The broker delivers a message. -/
  | deliver (number : Nat)
  /-- The consumer is called for a message event. -/
  | begin (delivery : Nat)
  /-- `onMessage` and the sending of the reply turn out so. -/
  | resolve (delivery : Nat) (handling : Handling)
  /-- The loop goes on to its next call. -/
  | proceed (delivery : Nat)
  /-- Anything else that happens to the subscription. -/
  | other (event : SubscriptionEvent)

namespace SubscriptionEvent

/-- Not a delivery, and not done by the consumer loop. -/
def isOther : SubscriptionEvent → Bool
  | .deliver _ _ => false
  | .call _ _ => false
  | _ => true

end SubscriptionEvent

namespace Workflow

/-- What the broker makes of the first settlement of a delivery. -/
def settled : Settlement → Custody
  | .accept => .accepted
  | .release => .ready true
  | .reject => .deadLettered

/-- What the broker sees of the deliveries. -/
def observe (subscription : Subscription) : Custody → Custody
  | .unsettled index =>
      match
        (subscription.deliveries[index]?).bind
          (fun delivery => delivery.settlements.getLast?) with
      | some settlement => settled settlement
      | none =>
          if subscription.closed then .ready true else .unsettled index
  | custody => custody

section Steps

variable
  (concurrentLimit : Nat)
  (maxRedeliverCount : Int)
  (eagerAcceptMessage : Bool)

/-- Something happens to the subscription. -/
def happen
    (workflow : Workflow)
    (event : SubscriptionEvent) : Option Workflow :=
  (workflow.subscription.step concurrentLimit maxRedeliverCount event).map
    fun next =>
      { workflow with
        subscription := next
        custody := fun number => observe next (workflow.custody number) }

/-- The loop of a message event comes to a phase. -/
def enter
    (index : Nat)
    (phase : LoopPhase)
    (workflow : Workflow) : Workflow :=
  { workflow with loops := Function.update workflow.loops index phase }

/-- One event; `none` when it cannot happen. -/
def step (workflow : Workflow) : WorkflowEvent → Option Workflow
  | .publish message =>
      some { workflow with sent := workflow.sent ++ [message] }
  | .deliver number =>
      match workflow.sent[number]?, workflow.custody number with
      | some message, .ready redelivered =>
          (workflow.subscription.step concurrentLimit maxRedeliverCount
            (.deliver (some message) (!redelivered))).map fun next =>
              { workflow with
                subscription := next
                origins := workflow.origins ++ [number]
                custody :=
                  Function.update workflow.custody number
                    (.unsettled workflow.subscription.deliveries.length) }
      | _, _ => none
  | .begin index =>
      match workflow.loops index, workflow.subscription.deliveries[index]? with
      | .fresh, some delivery =>
          if delivery.emitted then
            if eagerAcceptMessage then
              (workflow.happen concurrentLimit maxRedeliverCount
                (.call index .accept)).map (enter index .handling)
            else
              some (workflow.enter index .handling)
          else
            none
      | _, _ => none
  | .resolve index handling =>
      match workflow.loops index,
          (workflow.subscription.deliveries[index]?).bind
            Delivery.message with
      | .handling, some msg =>
          some (workflow.enter index
            (.calling handling
              ((Consumer.calls eagerAcceptMessage msg handling).drop
                (if eagerAcceptMessage then 1 else 0))))
      | _, _ => none
  | .proceed index =>
      match workflow.loops index with
      | .calling handling (function :: rest) =>
          (workflow.happen concurrentLimit maxRedeliverCount
            (.call index function)).map (enter index (.calling handling rest))
      | _ => none
  | .other event =>
      if event.isOther then
        workflow.happen concurrentLimit maxRedeliverCount event
      else
        none

end Steps

/-- Nothing has been published, and the subscription has been opened. -/
def opened
    (concurrentLimit : Nat)
    (redis : String → Redis.Slot) : Workflow where
  subscription := Subscription.opened concurrentLimit redis
  loops := fun _ => .fresh
  sent := []
  origins := []
  custody := fun _ => .ready false

/-- A run of events. -/
abbrev run?
    (concurrentLimit : Nat)
    (maxRedeliverCount : Int)
    (eagerAcceptMessage : Bool) :
    Workflow → List WorkflowEvent → Option Workflow :=
  EventRun.run? (step concurrentLimit maxRedeliverCount eagerAcceptMessage)

/-! ## What is true of every message -/

/-- The delivery is of the message. -/
def Carries
    (workflow : Workflow)
    (number index : Nat)
    (delivery : Delivery) : Prop :=
  workflow.subscription.deliveries[index]? = some delivery ∧
    workflow.origins[index]? = some number ∧
    delivery.message = workflow.sent[number]?

/-- The handler of the delivery has come far enough to accept the message. -/
def Handled
    (eagerAcceptMessage : Bool) : LoopPhase → Prop
  | .fresh => False
  | .handling => eagerAcceptMessage = true
  | .calling handling _ =>
      eagerAcceptMessage = true ∨ handling.onMessage.isSome = true

/-- `receiveMessage` has given the delivery up. -/
def GivenUp (delivery : Delivery) : Prop :=
  ∃ disposal : Disposal,
    delivery.stage = .disposed disposal ∧ .reject ∈ disposal.calls ∧
      ∀ msg,
        delivery.message = some msg →
          msg.readable = true → delivery.first_acquirer = false

/-- The consumer is not through with the delivery. -/
def UnderWay (delivery : Delivery) (phase : LoopPhase) : Prop :=
  delivery.stage = .waiting ∨
    delivery.emitted = true ∧
      ((∀ handling, phase ≠ .calling handling []) ∨ 0 < delivery.timers)

end Workflow

/-! ## What an event leaves of a delivery -/

namespace Subscription

variable
  {concurrentLimit : Nat}
  {maxRedeliverCount : Int}
  {subscription next : Subscription}
  {event : SubscriptionEvent}
  {index : Nat}
  {delivery after : Delivery}

/-- `receiveMessage` gives up what it cannot read, or what is redelivered. -/
theorem receive_reject
    {now : Nat}
    {message : Option AmqpMessage}
    {first_acquirer : Bool}
    {redis : String → Redis.Slot}
    {msg : AmqpMessage}
    (rejects :
      .reject ∈
        (AmqpService.receive maxRedeliverCount now message first_acquirer
          redis).2.calls)
    (isMessage : message = some msg)
    (readable : msg.readable = true) :
    first_acquirer = false := by
  subst isMessage
  cases first_acquirer with
  | false => rfl
  | true => simp [AmqpService.receive, readable, Disposal.calls] at rejects

/-- What is done about a delivery changes deliveries and credits only. -/
theorem performAll_eq
    (subscription : Subscription)
    (index : Nat)
    (calls : List DeliveryCall) :
    ∃ credit deliveries,
      subscription.performAll index calls =
        { subscription with credit := credit, deliveries := deliveries } := by
  unfold performAll
  induction calls generalizing subscription with
  | nil => exact ⟨_, _, rfl⟩
  | cons call rest inductionHypothesis =>
      obtain ⟨credit, deliveries, same⟩ :=
        inductionHypothesis (subscription.perform index call)
      rw [List.foldl_cons, same]
      refine ⟨credit, deliveries, ?_⟩
      cases call with
      | addCredit target =>
          cases target with
          | latest => rfl
          | delivering =>
              simp only [perform]
              cases subscription.deliveries[index]? <;> rfl
      | _ => rfl

/-- What is done about a delivery closes no receiver. -/
theorem performAll_closed
    (subscription : Subscription)
    (index : Nat)
    (calls : List DeliveryCall) :
    (subscription.performAll index calls).closed = subscription.closed := by
  obtain ⟨credit, deliveries, same⟩ := performAll_eq subscription index calls
  rw [same]

/-- What an event makes of a delivery that is there. -/
inductive Evolves
    (latest : Nat)
    (index : Nat)
    (delivery : Delivery) :
    SubscriptionEvent → Delivery → Prop where
  | same (event : SubscriptionEvent) :
      Evolves latest index delivery event delivery
  | processed
      {now : Nat}
      {disposal : Disposal}
      (waiting : delivery.stage = .waiting)
      (ignored : disposal = .ignored → delivery.message = none)
      (rejects :
        .reject ∈ disposal.calls →
          ∀ msg,
            delivery.message = some msg →
              msg.readable = true → delivery.first_acquirer = false) :
      Evolves latest index delivery (.process now)
        (disposal.calls.foldl (performed latest)
          { delivery with stage := .disposed disposal })
  | called
      (emitted : delivery.emitted = true)
      (function : EventCall) :
      Evolves latest index delivery (.call index function)
        (called latest function delivery)
  | timedOut
      (running : 0 < delivery.timers) :
      Evolves latest index delivery (.releaseTimer index)
        (timedOut latest delivery)

/-- A delivery after an event. -/
theorem step_evolves
    (stepped :
      subscription.step concurrentLimit maxRedeliverCount event =
        some next)
    (found : subscription.deliveries[index]? = some delivery) :
    ∃ after,
      next.deliveries[index]? = some after ∧
        Evolves subscription.latest index delivery event after := by
  have elsewhere :
      ∀ {position : Nat} {change : Delivery → Delivery},
        next.deliveries = subscription.deliveries.modify position change →
          position ≠ index →
            next.deliveries[index]? = some delivery := by
    intro position change changed different
    rw [changed, List.getElem?_modify_ne _ _ different, found]
  have here :
      ∀ {change : Delivery → Delivery},
        next.deliveries = subscription.deliveries.modify index change →
          next.deliveries[index]? = some (change delivery) := by
    intro change changed
    rw [changed, List.getElem?_modify_eq, found]
    rfl
  by_cases isProcess : ∃ now, event = .process now
  · obtain ⟨now, rfl⟩ := isProcess
    obtain ⟨position, firstWaiting, rest⟩ :=
      Option.bind_eq_some_iff.mp stepped
    obtain ⟨taken, isTaken, disposed⟩ := Option.bind_eq_some_iff.mp rest
    obtain rfl := Option.some.inj disposed
    have changed :=
      dispose_deliveries subscription position
        (AmqpService.receive maxRedeliverCount now taken.message
          taken.first_acquirer subscription.redis).1
        (AmqpService.receive maxRedeliverCount now taken.message
          taken.first_acquirer subscription.redis).2
    by_cases isHere : position = index
    · subst isHere
      obtain rfl := Option.some.inj (found.symm.trans isTaken)
      obtain ⟨bound, waits, -⟩ :=
        List.findIdx?_eq_some_iff_getElem.mp firstWaiting
      have isWaiting : delivery.stage = .waiting := by
        rw [List.getElem?_eq_getElem bound] at found
        rw [← Option.some.inj found]
        simpa [Delivery.waits] using waits
      refine ⟨_, here changed, .processed isWaiting ?_ ?_⟩
      · intro ignored
        cases isMessage : delivery.message with
        | none => rfl
        | some msg =>
            rw [isMessage] at ignored
            simp only [AmqpService.receive] at ignored
            split at ignored
            · split at ignored
              · cases ignored
              · split at ignored <;> cases ignored
            · cases ignored
      · exact fun rejects msg => receive_reject rejects
    · exact ⟨delivery, elsewhere changed isHere, .same _⟩
  · rcases step_deliveries stepped with
      ⟨same, -⟩ | ⟨message, first_acquirer, rfl, appended⟩ |
        ⟨now, position, taken, disposal, rfl, -⟩ |
        ⟨position, taken, function, rfl, isTaken, emitted, changed⟩ |
        ⟨position, taken, rfl, isTaken, running, changed⟩
    · exact ⟨delivery, by rw [same, found], .same _⟩
    · have bound : index < subscription.deliveries.length :=
        (List.getElem?_eq_some_iff.mp found).1
      exact ⟨delivery,
        by rw [appended, List.getElem?_append_left bound, found], .same _⟩
    · exact absurd ⟨now, rfl⟩ isProcess
    · by_cases isHere : position = index
      · subst isHere
        obtain rfl := Option.some.inj (found.symm.trans isTaken)
        exact ⟨_, here changed, .called emitted function⟩
      · exact ⟨delivery, elsewhere changed isHere, .same _⟩
    · by_cases isHere : position = index
      · subst isHere
        obtain rfl := Option.some.inj (found.symm.trans isTaken)
        exact ⟨_, here changed, .timedOut running⟩
      · exact ⟨delivery, elsewhere changed isHere, .same _⟩

/-- Only a delivery adds one. -/
theorem step_length
    (stepped :
      subscription.step concurrentLimit maxRedeliverCount event =
        some next)
    (notDeliver :
      ∀ message first_acquirer, event ≠ .deliver message first_acquirer) :
    next.deliveries.length = subscription.deliveries.length := by
  rcases step_deliveries stepped with
    ⟨same, -⟩ | ⟨message, first_acquirer, isDeliver, -⟩ |
      ⟨_, _, _, _, -, -, -, changed⟩ | ⟨_, _, _, -, -, -, changed⟩ |
      ⟨_, _, -, -, -, changed⟩
  · rw [same]
  · exact absurd isDeliver (notDeliver message first_acquirer)
  · rw [changed, List.length_modify]
  · rw [changed, List.length_modify]
  · rw [changed, List.length_modify]

/-- A delivery before an event. -/
theorem step_before
    (stepped :
      subscription.step concurrentLimit maxRedeliverCount event =
        some next)
    (notDeliver :
      ∀ message first_acquirer, event ≠ .deliver message first_acquirer)
    (found : next.deliveries[index]? = some after) :
    ∃ delivery,
      subscription.deliveries[index]? = some delivery ∧
        Evolves subscription.latest index delivery event after := by
  have bound : index < subscription.deliveries.length := by
    rw [← step_length stepped notDeliver]
    exact (List.getElem?_eq_some_iff.mp found).1
  obtain ⟨other, otherFound, evolved⟩ :=
    step_evolves stepped (List.getElem?_eq_getElem bound)
  obtain rfl := Option.some.inj (found.symm.trans otherFound)
  exact ⟨_, List.getElem?_eq_getElem bound, evolved⟩

/-- Only `close` closes a receiver. -/
theorem step_open
    (stepped :
      subscription.step concurrentLimit maxRedeliverCount event =
        some next)
    (notClose : event ≠ .close)
    (isOpen : subscription.closed = false) :
    next.closed = false := by
  cases step_cases stepped with
  | hear => exact isOpen
  | start => exact isOpen
  | deliver => exact isOpen
  | close => exact absurd rfl notClose
  | receiverClose => simp [createReceiver, isOpen]
  | connectionOpen => simp [createReceiver, isOpen]
  | process => exact (performAll_closed _ _ _).trans isOpen
  | @call index delivery function =>
      cases function with
      | accept => exact isOpen
      | release => exact isOpen
      | reject => exact (performAll_closed _ _ _).trans isOpen
      | addCredit =>
          simp only [call]
          split <;> exact isOpen
  | releaseTimer => exact (performAll_closed _ _ _).trans isOpen

namespace Evolves

variable {latest : Nat}

/-- What is done about a delivery leaves its message. -/
theorem foldl_performed_message
    (latest : Nat)
    (calls : List DeliveryCall)
    (delivery : Delivery) :
    (calls.foldl (performed latest) delivery).message = delivery.message ∧
      (calls.foldl (performed latest) delivery).first_acquirer =
        delivery.first_acquirer := by
  induction calls generalizing delivery with
  | nil => exact ⟨rfl, rfl⟩
  | cons call rest inductionHypothesis =>
      rw [List.foldl_cons]
      obtain ⟨message, first⟩ :=
        inductionHypothesis (performed latest delivery call)
      rw [message, first]
      cases call with
      | addCredit target => cases target <;> exact ⟨rfl, rfl⟩
      | _ => exact ⟨rfl, rfl⟩

/-- A delivery stays one of its message. -/
theorem message
    (evolves : Evolves latest index delivery event after) :
    after.message = delivery.message ∧
      after.first_acquirer = delivery.first_acquirer := by
  cases evolves with
  | same => exact ⟨rfl, rfl⟩
  | processed => exact foldl_performed_message _ _ _
  | called emitted function =>
      cases function with
      | addCredit =>
          unfold Subscription.called
          cases delivery.creditPending <;> exact ⟨rfl, rfl⟩
      | _ => exact ⟨rfl, rfl⟩
  | timedOut => exact ⟨rfl, rfl⟩

/-- Once a delivery is disposed of, it stays so. -/
theorem stage
    (evolves : Evolves latest index delivery event after)
    (notWaiting : delivery.stage ≠ .waiting) :
    after.stage = delivery.stage := by
  cases evolves with
  | same => rfl
  | processed waiting => exact absurd waiting notWaiting
  | called emitted function => exact called_stage _ _ _
  | timedOut => rfl

/-- An emitted delivery stays emitted. -/
theorem emitted
    (evolves : Evolves latest index delivery event after)
    (isEmitted : delivery.emitted = true) :
    after.emitted = true := by
  have stage : delivery.stage = .disposed .emitted := by
    simpa [Delivery.emitted] using isEmitted
  have kept := evolves.stage (by rw [stage]; simp)
  simp [Delivery.emitted, kept, stage]

/-- Settlements are never taken back. -/
theorem settlements
    (evolves : Evolves latest index delivery event after) :
    ∃ more, after.settlements = more ++ delivery.settlements := by
  cases evolves with
  | same => exact ⟨[], rfl⟩
  | @processed now disposal =>
      cases disposal with
      | ignored => exact ⟨[], rfl⟩
      | failed => exact ⟨[.reject], rfl⟩
      | exceeded => exact ⟨[.reject], rfl⟩
      | emitted => exact ⟨[], rfl⟩
  | called emitted function =>
      cases function with
      | accept => exact ⟨[.accept], rfl⟩
      | addCredit =>
          unfold Subscription.called
          cases delivery.creditPending <;> exact ⟨[], rfl⟩
      | release => exact ⟨[], rfl⟩
      | reject => exact ⟨[.reject], rfl⟩
  | timedOut => exact ⟨[.release], rfl⟩

/-- What may be the first settlement of a delivery. -/
theorem first_settlement
    (evolves : Evolves latest index delivery event after)
    (unsettled : delivery.settlements = []) :
    after.settlements = [] ∨
      (after.settlements = [.release] ∧ 0 < delivery.timers) ∨
      (after.settlements = [.accept] ∧ event = .call index .accept) ∨
      after.settlements = [.reject] ∧
        (Workflow.GivenUp after ∨ event = .call index .reject) := by
  cases evolves with
  | same => exact .inl unsettled
  | @processed now disposal waiting ignored rejects =>
      have givenUp :
          .reject ∈ disposal.calls →
            Workflow.GivenUp
              (disposal.calls.foldl (performed latest)
                { delivery with stage := .disposed disposal }) := by
        intro isReject
        obtain ⟨message, first⟩ :=
          foldl_performed_message latest disposal.calls
            { delivery with stage := .disposed disposal }
        refine ⟨disposal, foldl_performed_stage _ _ _, isReject, ?_⟩
        rw [message, first]
        exact rejects isReject
      have settled :
          disposal.calls = [] ∨
            .reject ∈ disposal.calls ∧
              (disposal.calls.foldl (performed latest)
                { delivery with
                  stage := .disposed disposal }).settlements =
                    [.reject] := by
        cases disposal with
        | ignored => exact .inl rfl
        | emitted => exact .inl rfl
        | failed =>
            refine .inr ⟨by simp [Disposal.calls], ?_⟩
            simp [Disposal.calls, performed, Delivery.settle,
              Delivery.credited, unsettled]
        | exceeded =>
            refine .inr ⟨by simp [Disposal.calls], ?_⟩
            simp [Disposal.calls, performed, Delivery.settle,
              Delivery.credited, unsettled]
      rcases settled with nothing | ⟨isReject, rejected⟩
      · rw [nothing]
        exact .inl unsettled
      · exact .inr (.inr (.inr ⟨rejected, .inl (givenUp isReject)⟩))
  | called emitted function =>
      cases function with
      | accept =>
          refine .inr (.inr (.inl ⟨?_, rfl⟩))
          simp [Subscription.called, Delivery.settle, unsettled]
      | addCredit =>
          unfold Subscription.called
          cases delivery.creditPending <;> exact .inl unsettled
      | release => exact .inl unsettled
      | reject =>
          refine .inr (.inr (.inr ⟨?_, .inr rfl⟩))
          simp [Subscription.called, Delivery.settle, Delivery.credited,
            unsettled]
  | timedOut running =>
      refine .inr (.inl ⟨?_, running⟩)
      simp [Subscription.timedOut, Delivery.settle, Delivery.credited,
        unsettled]

end Evolves

/-- The message of a delivery stays what it is. -/
theorem step_message
    (stepped :
      subscription.step concurrentLimit maxRedeliverCount event =
        some next)
    (notDeliver :
      ∀ message first_acquirer, event ≠ .deliver message first_acquirer)
    (index : Nat) :
    (next.deliveries[index]?).bind Delivery.message =
      (subscription.deliveries[index]?).bind Delivery.message := by
  cases found : subscription.deliveries[index]? with
  | none =>
      have sameLength := step_length stepped notDeliver
      have beyond := List.getElem?_eq_none_iff.mp found
      rw [List.getElem?_eq_none_iff.mpr (by omega)]
  | some delivery =>
      obtain ⟨after, afterFound, evolved⟩ := step_evolves stepped found
      rw [afterFound]
      exact evolved.message.1

end Subscription

/-- A delivery that was disposed of in another way is settled. -/
def Delivery.Disposed (delivery : Delivery) : Prop :=
  ∀ disposal,
    delivery.stage = .disposed disposal →
      disposal = .emitted ∨
        disposal = .ignored ∧ delivery.message = none ∨
        delivery.settlements ≠ []

/-- Every event leaves it so. -/
theorem Subscription.Evolves.disposed
    {latest index : Nat}
    {delivery after : Delivery}
    {event : SubscriptionEvent}
    (evolves : Evolves latest index delivery event after)
    (disposed : delivery.Disposed) :
    after.Disposed := by
  by_cases waiting : delivery.stage = .waiting
  · cases evolves with
    | same => exact disposed
    | @processed now disposal _ ignored rejects =>
        intro other isOther
        rw [foldl_performed_stage] at isOther
        obtain rfl := DeliveryStage.disposed.inj isOther
        cases disposal with
        | ignored => exact .inr (.inl ⟨rfl, ignored rfl⟩)
        | failed => exact .inr (.inr (by simp [Disposal.calls, performed,
            Delivery.settle, Delivery.credited]))
        | exceeded => exact .inr (.inr (by simp [Disposal.calls, performed,
            Delivery.settle, Delivery.credited]))
        | emitted => exact .inl rfl
    | called emitted function =>
        simp [Delivery.emitted, waiting] at emitted
    | timedOut running =>
        intro other isOther
        have stillWaiting :
            (Subscription.timedOut latest delivery).stage =
              delivery.stage := rfl
        rw [stillWaiting, waiting] at isOther
        cases isOther
  · intro other isOther
    rw [evolves.stage waiting] at isOther
    rw [evolves.message.1]
    obtain ⟨more, settlements⟩ := evolves.settlements
    rcases disposed other isOther with emitted | ignored | settled
    · exact .inl emitted
    · exact .inr (.inl ignored)
    · exact .inr (.inr (by simp [settlements, settled]))

/-! ## What every event keeps -/

namespace Workflow

/-- How far the loop has come with its calls. -/
def LoopAt
    (eagerAcceptMessage : Bool)
    (message : Option AmqpMessage)
    (made : List EventCall) : LoopPhase → Prop
  | .fresh => made = []
  | .handling => made = if eagerAcceptMessage then [.accept] else []
  | .calling handling rest =>
      ∃ msg,
        message = some msg ∧
          made ++ rest = Consumer.calls eagerAcceptMessage msg handling

/-- Where a message is, with the delivery that explains it. -/
def Explained
    (eagerAcceptMessage : Bool)
    (workflow : Workflow)
    (number : Nat) : Custody → Prop
  | .ready _ => True
  | .unsettled index =>
      ∃ delivery,
        workflow.Carries number index delivery ∧ delivery.settlements = []
  | .accepted =>
      ∃ index delivery,
        workflow.Carries number index delivery ∧
          Handled eagerAcceptMessage (workflow.loops index)
  | .deadLettered =>
      ∃ index delivery,
        workflow.Carries number index delivery ∧ GivenUp delivery

/-- What explains where a message is may change with the rest. -/
theorem Explained.mono
    {eagerAcceptMessage : Bool}
    {workflow other : Workflow}
    {number : Nat}
    {custody : Custody}
    (explained : Explained eagerAcceptMessage workflow number custody)
    (carries :
      ∀ {index : Nat} {delivery : Delivery},
        workflow.Carries number index delivery →
          other.Carries number index delivery)
    (handled :
      ∀ {index : Nat},
        Handled eagerAcceptMessage (workflow.loops index) →
          Handled eagerAcceptMessage (other.loops index)) :
    Explained eagerAcceptMessage other number custody := by
  cases custody with
  | ready redelivered => trivial
  | unsettled index =>
      obtain ⟨delivery, carried, unsettled⟩ := explained
      exact ⟨delivery, carries carried, unsettled⟩
  | accepted =>
      obtain ⟨index, delivery, carried, isHandled⟩ := explained
      exact ⟨index, delivery, carries carried, handled isHandled⟩
  | deadLettered =>
      obtain ⟨index, delivery, carried, givenUp⟩ := explained
      exact ⟨index, delivery, carries carried, givenUp⟩

/-- The invariant. -/
structure Kept
    (eagerAcceptMessage : Bool)
    (workflow : Workflow) : Prop where
  lengths :
    workflow.origins.length = workflow.subscription.deliveries.length
  origins :
    ∀ (index number : Nat) (delivery : Delivery),
      workflow.origins[index]? = some number →
        workflow.subscription.deliveries[index]? = some delivery →
          number < workflow.sent.length ∧
            delivery.message = workflow.sent[number]?
  disposed :
    ∀ delivery ∈ workflow.subscription.deliveries, delivery.Disposed
  loops :
    ∀ index,
      ∃ made,
        workflow.subscription.Tracked index made ∧
          LoopAt eagerAcceptMessage
            ((workflow.subscription.deliveries[index]?).bind
              Delivery.message)
            made (workflow.loops index)
  custody :
    ∀ number,
      Explained eagerAcceptMessage workflow number
        (workflow.custody number)

/-- The loop accepts only what it has handled, and it never rejects. -/
theorem call_of_loopAt
    {eagerAcceptMessage : Bool}
    {message : Option AmqpMessage}
    {made : List EventCall}
    {handling : Handling}
    {function : EventCall}
    {rest : List EventCall}
    (loopAt :
      LoopAt eagerAcceptMessage message made
        (.calling handling (function :: rest))) :
    function ≠ .reject ∧
      (function = .accept →
        eagerAcceptMessage = true ∨ handling.onMessage.isSome = true) := by
  obtain ⟨msg, -, split⟩ := loopAt
  have member :
      function ∈ Consumer.calls eagerAcceptMessage msg handling := by
    rw [← split]
    exact List.mem_append_right _ List.mem_cons_self
  rw [Consumer.calls_eq] at member
  cases eagerAcceptMessage with
  | true =>
      refine ⟨?_, fun _ => .inl rfl⟩
      rintro rfl
      cases outcome : handling.onMessage with
      | none => simp [outcome] at member
      | some replyData =>
          simp only [outcome] at member
          split at member <;> simp at member
  | false =>
      cases outcome : handling.onMessage with
      | none =>
          simp only [outcome, Bool.false_eq_true, ↓reduceIte,
            List.nil_append, List.mem_singleton] at member
          subst member
          exact ⟨by simp, by simp⟩
      | some replyData =>
          refine ⟨?_, fun _ => .inr rfl⟩
          rintro rfl
          simp only [outcome] at member
          split at member <;> simp at member

/-- Every outcome of the loop settles the delivery, at once or later. -/
theorem calls_settle
    (eagerAcceptMessage : Bool)
    (msg : AmqpMessage)
    (handling : Handling) :
    0 <
      (Consumer.calls eagerAcceptMessage msg handling).countP
        EventCall.settles := by
  rw [List.countP_pos_iff, Consumer.calls_eq]
  cases outcome : handling.onMessage with
  | none => exact ⟨.release, by simp, rfl⟩
  | some replyData =>
      refine ⟨.accept, ?_, rfl⟩
      cases eagerAcceptMessage <;> simp

section Happen

variable
  {concurrentLimit : Nat}
  {maxRedeliverCount : Int}
  {eagerAcceptMessage : Bool}
  {workflow next : Workflow}
  {event : SubscriptionEvent}

/-- What happens to the subscription, and what the broker sees of it. -/
theorem happen_cases
    (happened :
      workflow.happen concurrentLimit maxRedeliverCount event =
        some next) :
    ∃ subscription,
      workflow.subscription.step concurrentLimit maxRedeliverCount event =
          some subscription ∧
        next =
          { workflow with
            subscription := subscription
            custody :=
              fun number =>
                observe subscription (workflow.custody number) } := by
  obtain ⟨subscription, stepped, rfl⟩ := Option.map_eq_some_iff.mp happened
  exact ⟨subscription, stepped, rfl⟩

/-- What the broker sees of a delivery that it waits for. -/
theorem observe_unsettled
    {subscription : Subscription}
    {index : Nat}
    {delivery : Delivery}
    (found : subscription.deliveries[index]? = some delivery) :
    observe subscription (.unsettled index) =
      match delivery.settlements.getLast? with
      | some settlement => settled settlement
      | none =>
          if subscription.closed then .ready true else .unsettled index := by
  simp only [observe, found, Option.bind_some]

/-- A delivery of a message is still one of it after an event. -/
theorem Carries.step
    {number index : Nat}
    {delivery : Delivery}
    (carries : workflow.Carries number index delivery)
    (sameOrigins : next.origins = workflow.origins)
    (sameSent : next.sent = workflow.sent)
    (stepped :
      workflow.subscription.step concurrentLimit maxRedeliverCount event =
        some next.subscription) :
    ∃ after,
      next.Carries number index after ∧
        Subscription.Evolves workflow.subscription.latest index delivery
          event after := by
  obtain ⟨found, origin, message⟩ := carries
  obtain ⟨after, afterFound, evolved⟩ :=
    Subscription.step_evolves stepped found
  refine ⟨after, ⟨afterFound, sameOrigins ▸ origin, ?_⟩, evolved⟩
  rw [sameSent]
  exact evolved.message.1.trans message

/-- A delivery that has been given up stays so. -/
theorem GivenUp.step
    {latest index : Nat}
    {delivery after : Delivery}
    (givenUp : GivenUp delivery)
    (evolved :
      Subscription.Evolves latest index delivery event after) :
    GivenUp after := by
  obtain ⟨disposal, stage, rejects, why⟩ := givenUp
  refine ⟨disposal, ?_, rejects, ?_⟩
  · rw [evolved.stage (by rw [stage]; simp), stage]
  · rw [evolved.message.1, evolved.message.2]
    exact why

/-- What becomes of a delivery that the broker waits for. -/
theorem Explained.observed
    {number index : Nat}
    {delivery after : Delivery}
    (carried : next.Carries number index after)
    (unsettled : delivery.settlements = [])
    (evolved :
      Subscription.Evolves workflow.subscription.latest index delivery
        event after)
    (allowed :
      ∀ function,
        event = .call index function →
          function ≠ .reject ∧
            (function = .accept →
              Handled eagerAcceptMessage (next.loops index))) :
    Explained eagerAcceptMessage next number
      (observe next.subscription (.unsettled index)) := by
  rw [observe_unsettled carried.1]
  rcases evolved.first_settlement unsettled with
    none | ⟨released, -⟩ | ⟨accepted, isCall⟩ | ⟨rejected, why⟩
  · rw [none]
    cases isClosed : next.subscription.closed with
    | true => trivial
    | false => exact ⟨after, carried, none⟩
  · rw [released]
    trivial
  · rw [accepted]
    exact ⟨index, after, carried, (allowed .accept isCall).2 rfl⟩
  · rw [rejected]
    rcases why with givenUp | isCall
    · exact ⟨index, after, carried, givenUp⟩
    · exact absurd rfl (allowed .reject isCall).1

/-- What explains where a message is explains what the broker sees next. -/
theorem Explained.step
    {number : Nat}
    {custody : Custody}
    (explained : Explained eagerAcceptMessage workflow number custody)
    (sameOrigins : next.origins = workflow.origins)
    (sameSent : next.sent = workflow.sent)
    (stepped :
      workflow.subscription.step concurrentLimit maxRedeliverCount event =
        some next.subscription)
    (stillHandled :
      ∀ index,
        Handled eagerAcceptMessage (workflow.loops index) →
          Handled eagerAcceptMessage (next.loops index))
    (allowed :
      ∀ index function,
        event = .call index function →
          function ≠ .reject ∧
            (function = .accept →
              Handled eagerAcceptMessage (next.loops index))) :
    Explained eagerAcceptMessage next number
      (observe next.subscription custody) := by
  cases custody with
  | ready redelivered => trivial
  | accepted =>
      obtain ⟨index, delivery, carried, handled⟩ := explained
      obtain ⟨after, carriedAfter, -⟩ :=
        carried.step sameOrigins sameSent stepped
      exact ⟨index, after, carriedAfter, stillHandled index handled⟩
  | deadLettered =>
      obtain ⟨index, delivery, carried, givenUp⟩ := explained
      obtain ⟨after, carriedAfter, evolved⟩ :=
        carried.step sameOrigins sameSent stepped
      exact ⟨index, after, carriedAfter, givenUp.step evolved⟩
  | unsettled index =>
      obtain ⟨delivery, carried, unsettled⟩ := explained
      obtain ⟨after, carriedAfter, evolved⟩ :=
        carried.step sameOrigins sameSent stepped
      exact Explained.observed carriedAfter unsettled evolved (allowed index)

/-- Evidence about the messages is still there after an event. -/
theorem Kept.happen
    (kept : Kept eagerAcceptMessage workflow)
    (happened :
      workflow.happen concurrentLimit maxRedeliverCount event = some next)
    (notDeliver :
      ∀ message first_acquirer, event ≠ .deliver message first_acquirer)
    {loops : Nat → LoopPhase}
    (stillHandled :
      ∀ index,
        Handled eagerAcceptMessage (workflow.loops index) →
          Handled eagerAcceptMessage (loops index))
    (allowed :
      ∀ index function,
        event = .call index function →
          function ≠ .reject ∧
            (function = .accept →
              Handled eagerAcceptMessage (loops index)))
    (goesOn :
      ∀ index message made,
        LoopAt eagerAcceptMessage message made (workflow.loops index) →
          LoopAt eagerAcceptMessage message
            (made ++ callsOn index [event]) (loops index)) :
    Kept eagerAcceptMessage { next with loops := loops } := by
  obtain ⟨subscription, stepped, rfl⟩ := happen_cases happened
  refine ⟨?_, ?_, ?_, ?_, ?_⟩
  · exact
      kept.lengths.trans (Subscription.step_length stepped notDeliver).symm
  · intro index number after origin found
    obtain ⟨delivery, wasFound, evolved⟩ :=
      Subscription.step_before stepped notDeliver found
    obtain ⟨bound, message⟩ :=
      kept.origins index number delivery origin wasFound
    exact ⟨bound, evolved.message.1.trans message⟩
  · intro after member
    obtain ⟨index, found⟩ := List.mem_iff_getElem?.mp member
    obtain ⟨delivery, wasFound, evolved⟩ :=
      Subscription.step_before stepped notDeliver found
    exact evolved.disposed
      (kept.disposed delivery (List.mem_of_getElem? wasFound))
  · intro index
    obtain ⟨made, tracked, loopAt⟩ := kept.loops index
    refine ⟨made ++ callsOn index [event], tracked.step stepped, ?_⟩
    rw [Subscription.step_message stepped notDeliver index]
    exact goesOn index _ made loopAt
  · intro number
    exact
      (kept.custody number).step rfl rfl stepped stillHandled allowed

/-- A loop comes to another phase. -/
theorem Kept.enter
    (kept : Kept eagerAcceptMessage workflow)
    {index : Nat}
    {phase : LoopPhase}
    (stillHandled :
      Handled eagerAcceptMessage (workflow.loops index) →
        Handled eagerAcceptMessage phase)
    (goesOn :
      ∀ made,
        LoopAt eagerAcceptMessage
            ((workflow.subscription.deliveries[index]?).bind
              Delivery.message)
            made (workflow.loops index) →
          LoopAt eagerAcceptMessage
            ((workflow.subscription.deliveries[index]?).bind
              Delivery.message)
            made phase) :
    Kept eagerAcceptMessage (workflow.enter index phase) := by
  refine ⟨kept.lengths, kept.origins, kept.disposed, ?_, ?_⟩
  · intro other
    obtain ⟨made, tracked, loopAt⟩ := kept.loops other
    refine ⟨made, tracked, ?_⟩
    by_cases isIndex : other = index
    · subst isIndex
      simpa [Workflow.enter] using goesOn made loopAt
    · simpa [Workflow.enter, isIndex] using loopAt
  · intro number
    refine (kept.custody number).mono id ?_
    intro position handled
    by_cases isIndex : position = index
    · subst isIndex
      simpa [Workflow.enter] using stillHandled handled
    · simpa [Workflow.enter, isIndex] using handled

/-- A message is published. -/
theorem Kept.publish
    (kept : Kept eagerAcceptMessage workflow)
    (message : AmqpMessage) :
    Kept eagerAcceptMessage
      { workflow with sent := workflow.sent ++ [message] } := by
  have carries :
      ∀ {number index : Nat} {delivery : Delivery},
        workflow.Carries number index delivery →
          Carries { workflow with sent := workflow.sent ++ [message] }
            number index delivery := by
    rintro number index delivery ⟨found, origin, isMessage⟩
    have bound := (kept.origins index number delivery origin found).1
    exact ⟨found, origin,
      isMessage.trans (List.getElem?_append_left bound).symm⟩
  refine ⟨kept.lengths, ?_, kept.disposed, kept.loops, ?_⟩
  · intro index number delivery origin found
    obtain ⟨bound, isMessage⟩ :=
      kept.origins index number delivery origin found
    refine ⟨?_, isMessage.trans (List.getElem?_append_left bound).symm⟩
    simp only [List.length_append, List.length_singleton]
    omega
  · exact fun number => (kept.custody number).mono carries id

/-- A delivery carries its message when more is delivered. -/
theorem Carries.deliver
    {number other index : Nat}
    {delivery arrived : Delivery}
    {subscription : Subscription}
    {custody : Nat → Custody}
    (carried : workflow.Carries other index delivery)
    (appended :
      subscription.deliveries =
        workflow.subscription.deliveries ++ [arrived]) :
    Carries
      { workflow with
        subscription := subscription
        origins := workflow.origins ++ [number]
        custody := custody } other index delivery := by
  obtain ⟨found, origin, sameMessage⟩ := carried
  refine ⟨?_, ?_, sameMessage⟩
  · have bound := (List.getElem?_eq_some_iff.mp found).1
    rw [appended, List.getElem?_append_left bound, found]
  · have bound := (List.getElem?_eq_some_iff.mp origin).1
    rw [List.getElem?_append_left bound, origin]

/-- A loop without a message is where it would be with one. -/
theorem LoopAt.of_none
    {message : Option AmqpMessage}
    {made : List EventCall}
    {phase : LoopPhase}
    (loopAt : LoopAt eagerAcceptMessage none made phase) :
    LoopAt eagerAcceptMessage message made phase := by
  cases phase with
  | fresh => exact loopAt
  | handling => exact loopAt
  | calling handling rest =>
      obtain ⟨msg, isNone, -⟩ := loopAt
      cases isNone

/-- A message is delivered. -/
theorem Kept.deliver
    (kept : Kept eagerAcceptMessage workflow)
    {number : Nat}
    {message : AmqpMessage}
    {first_acquirer : Bool}
    {subscription : Subscription}
    (isMessage : workflow.sent[number]? = some message)
    (appended :
      subscription.deliveries =
        workflow.subscription.deliveries ++
          [workflow.subscription.arrived (some message) first_acquirer]) :
    Kept eagerAcceptMessage
      { workflow with
        subscription := subscription
        origins := workflow.origins ++ [number]
        custody :=
          Function.update workflow.custody number
            (.unsettled workflow.subscription.deliveries.length) } := by
  have older :
      ∀ {index : Nat},
        index < workflow.subscription.deliveries.length →
          subscription.deliveries[index]? =
              workflow.subscription.deliveries[index]? ∧
            (workflow.origins ++ [number])[index]? =
              workflow.origins[index]? := by
    intro index bound
    rw [appended]
    exact ⟨List.getElem?_append_left bound,
      List.getElem?_append_left (kept.lengths ▸ bound)⟩
  have newest :
      subscription.deliveries[workflow.subscription.deliveries.length]? =
          some
            (workflow.subscription.arrived (some message)
              first_acquirer) ∧
        (workflow.origins ++
          [number])[workflow.subscription.deliveries.length]? =
            some number := by
    rw [appended, ← kept.lengths]
    exact ⟨by rw [kept.lengths]; exact List.getElem?_concat_length,
      List.getElem?_concat_length⟩
  refine ⟨?_, ?_, ?_, ?_, ?_⟩
  · simp [appended, kept.lengths]
  · intro index other delivery origin found
    rcases Nat.lt_trichotomy index
        workflow.subscription.deliveries.length with
      bound | rfl | beyond
    · obtain ⟨sameDelivery, sameOrigin⟩ := older bound
      exact kept.origins index other delivery (sameOrigin ▸ origin)
        (sameDelivery ▸ found)
    · obtain rfl := Option.some.inj (newest.2.symm.trans origin)
      obtain rfl := Option.some.inj (newest.1.symm.trans found)
      exact ⟨(List.getElem?_eq_some_iff.mp isMessage).1, isMessage.symm⟩
    · have inside := (List.getElem?_eq_some_iff.mp found).1
      rw [appended, List.length_append, List.length_singleton] at inside
      omega
  · intro delivery member
    rw [appended] at member
    rcases List.mem_append.mp member with old | new
    · exact kept.disposed delivery old
    · obtain rfl := List.mem_singleton.mp new
      intro disposal stage
      simp only [Subscription.arrived] at stage
      split at stage <;> cases stage
  · intro index
    obtain ⟨made, tracked, loopAt⟩ := kept.loops index
    refine ⟨made, tracked.deliver appended, ?_⟩
    by_cases bound : index < workflow.subscription.deliveries.length
    · rw [(older bound).1]
      exact loopAt
    · have absent : workflow.subscription.deliveries[index]? = none :=
        List.getElem?_eq_none_iff.mpr (Nat.le_of_not_lt bound)
      rw [absent] at loopAt
      exact LoopAt.of_none loopAt
  · intro other
    by_cases isNumber : other = number
    · subst isNumber
      simp only [Function.update_self]
      exact ⟨_, ⟨newest.1, newest.2, isMessage.symm⟩, rfl⟩
    · simp only [ne_eq, isNumber, not_false_eq_true,
        Function.update_of_ne]
      exact
        (kept.custody other).mono (fun carried => carried.deliver appended) id

end Happen

section Runs

variable
  {concurrentLimit : Nat}
  {maxRedeliverCount : Int}
  {eagerAcceptMessage : Bool}
  {workflow next : Workflow}

/-- A call of the loop goes with its next phase. -/
theorem Kept.call
    (kept : Kept eagerAcceptMessage workflow)
    {index : Nat}
    {function : EventCall}
    {phase : LoopPhase}
    (called :
      (workflow.happen concurrentLimit maxRedeliverCount
        (.call index function)).map (Workflow.enter index phase) =
          some next)
    (stillHandled :
      Handled eagerAcceptMessage (workflow.loops index) →
        Handled eagerAcceptMessage phase)
    (notReject : function ≠ .reject)
    (accepts : function = .accept → Handled eagerAcceptMessage phase)
    (goesOn :
      ∀ message made,
        LoopAt eagerAcceptMessage message made (workflow.loops index) →
          LoopAt eagerAcceptMessage message (made ++ [function]) phase) :
    Kept eagerAcceptMessage next := by
  obtain ⟨middle, happened, rfl⟩ := Option.map_eq_some_iff.mp called
  have sameLoops : middle.loops = workflow.loops := by
    obtain ⟨subscription, -, rfl⟩ := happen_cases happened
    rfl
  unfold Workflow.enter
  rw [sameLoops]
  refine kept.happen happened (fun _ _ isDeliver => by cases isDeliver)
    ?_ ?_ ?_
  · intro other handled
    by_cases isIndex : other = index
    · subst isIndex
      simpa using stillHandled handled
    · simpa [isIndex] using handled
  · intro other made isCall
    obtain ⟨rfl, rfl⟩ := SubscriptionEvent.call.inj isCall
    exact ⟨notReject, by simpa using accepts⟩
  · intro other message made loopAt
    by_cases isIndex : other = index
    · subst isIndex
      simpa [callsOn] using goesOn message made loopAt
    · simpa [callsOn, isIndex, Ne.symm isIndex] using loopAt

/-- Every event of a workflow keeps the invariant. -/
theorem Kept.step
    (kept : Kept eagerAcceptMessage workflow)
    {event : WorkflowEvent}
    (stepped :
      workflow.step concurrentLimit maxRedeliverCount eagerAcceptMessage
        event = some next) :
    Kept eagerAcceptMessage next := by
  cases event with
  | publish message =>
      obtain rfl := Option.some.inj stepped
      exact kept.publish message
  | deliver number =>
      simp only [Workflow.step] at stepped
      split at stepped
      next message redelivered isMessage _ =>
        obtain ⟨subscription, delivered, rfl⟩ :=
          Option.map_eq_some_iff.mp stepped
        have appended :
            subscription.deliveries =
              workflow.subscription.deliveries ++
                [workflow.subscription.arrived (some message)
                  (!redelivered)] := by
          cases Subscription.step_cases delivered with
          | deliver => rfl
        exact kept.deliver isMessage appended
      next => cases stepped
  | begin index =>
      simp only [Workflow.step] at stepped
      split at stepped
      next delivery phase found =>
        split at stepped
        next emitted =>
          cases eagerAcceptMessage with
          | true =>
              refine kept.call stepped (fun _ => rfl) (by simp)
                (fun _ => rfl) ?_
              intro message made loopAt
              rw [phase] at loopAt
              obtain rfl : made = [] := loopAt
              rfl
          | false =>
              obtain rfl := Option.some.inj stepped
              refine kept.enter ?_ ?_
              · rw [phase]
                exact False.elim
              · intro made loopAt
                rw [phase] at loopAt
                exact loopAt
        next => cases stepped
      next => cases stepped
  | resolve index handling =>
      simp only [Workflow.step] at stepped
      split at stepped
      next msg phase isMessage =>
        obtain rfl := Option.some.inj stepped
        refine kept.enter ?_ ?_
        · rw [phase]
          exact Or.inl
        · intro made loopAt
          rw [phase] at loopAt
          obtain rfl : made = _ := loopAt
          refine ⟨msg, isMessage, ?_⟩
          rw [Consumer.calls_eq]
          cases eagerAcceptMessage <;> rfl
      next => cases stepped
  | proceed index =>
      simp only [Workflow.step] at stepped
      split at stepped
      next handling function rest phase =>
        obtain ⟨made, -, loopAt⟩ := kept.loops index
        rw [phase] at loopAt
        obtain ⟨notReject, accepts⟩ := call_of_loopAt loopAt
        refine kept.call stepped ?_ notReject accepts ?_
        · rw [phase]
          exact id
        · rintro message before loopBefore
          rw [phase] at loopBefore
          obtain ⟨msg, isMessage, split⟩ := loopBefore
          exact ⟨msg, isMessage, by rw [List.append_assoc]; exact split⟩
      next => cases stepped
  | other event =>
      simp only [Workflow.step] at stepped
      split at stepped
      next isOther =>
        have unchanged :
            { next with loops := workflow.loops } = next := by
          obtain ⟨subscription, -, rfl⟩ := happen_cases stepped
          rfl
        rw [← unchanged]
        refine kept.happen stepped ?_ (fun _ => id) ?_ ?_
        · rintro message first_acquirer rfl
          cases isOther
        · rintro index function rfl
          cases isOther
        · intro index message made loopAt
          have noCall : callsOn index [event] = [] := by
            cases event with
            | call other function => cases isOther
            | _ => rfl
          rw [noCall, List.append_nil]
          exact loopAt
      next => cases stepped

/-- It holds of a workflow that has just been opened. -/
theorem opened_kept
    (concurrentLimit : Nat)
    (redis : String → Redis.Slot)
    (eagerAcceptMessage : Bool) :
    Kept eagerAcceptMessage (opened concurrentLimit redis) where
  lengths := rfl
  origins := by
    intro index number delivery origin
    simp [opened] at origin
  disposed := by
    intro delivery member
    simp [opened, Subscription.opened] at member
  loops := by
    intro index
    exact ⟨[],
      Subscription.opened_tracked concurrentLimit redis index, rfl⟩
  custody := fun _ => trivial

/-- It holds whenever a workflow has run for a while. -/
theorem run_kept
    {redis : String → Redis.Slot}
    {events : List WorkflowEvent}
    (ran :
      (opened concurrentLimit redis).run? concurrentLimit
        maxRedeliverCount eagerAcceptMessage events = some workflow) :
    Kept eagerAcceptMessage workflow :=
  EventRun.keeps (fun _ kept stepped => kept.step stepped) ran
    (opened_kept concurrentLimit redis eagerAcceptMessage)

/-- What the broker waits for is under way, if somebody has heard of it. -/
theorem Kept.underWay
    (kept : Kept eagerAcceptMessage workflow)
    {number index : Nat}
    (unsettled : workflow.custody number = .unsettled index) :
    ∃ delivery,
      workflow.Carries number index delivery ∧
        (delivery.stage ≠ .unheard →
          UnderWay delivery (workflow.loops index)) := by
  have explained := kept.custody number
  rw [unsettled] at explained
  obtain ⟨delivery, carried, nothing⟩ := explained
  obtain ⟨found, origin, isMessage⟩ := carried
  refine ⟨delivery, ⟨found, origin, isMessage⟩, ?_⟩
  intro heard
  have bound := (kept.origins index number delivery origin found).1
  cases stage : delivery.stage with
  | unheard => exact absurd stage heard
  | waiting => exact .inl stage
  | disposed disposal =>
      have disposed :=
        kept.disposed delivery (List.mem_of_getElem? found) disposal stage
      rcases disposed with rfl | ⟨rfl, noMessage⟩ | settled
      · have emitted : delivery.emitted = true := by
          simp [Delivery.emitted, stage]
        refine .inr ⟨emitted, ?_⟩
        by_cases through :
            ∃ handling, workflow.loops index = .calling handling []
        · obtain ⟨handling, phase⟩ := through
          obtain ⟨made, tracked, loopAt⟩ := kept.loops index
          rw [phase] at loopAt
          obtain ⟨msg, -, complete⟩ := loopAt
          have accounted :=
            (tracked.accounted delivery found (by
              intro other isOther
              rw [stage] at isOther
              exact (DeliveryStage.disposed.inj isOther).symm)).settled
          have settles := calls_settle eagerAcceptMessage msg handling
          rw [← complete, List.append_nil, ← accounted, nothing] at settles
          simp only [List.length_nil] at settles
          exact .inr (by omega)
        · exact .inl (fun handling phase => through ⟨handling, phase⟩)
      · rw [noMessage, eq_comm, List.getElem?_eq_none_iff] at isMessage
        omega
      · exact absurd nothing settled

end Runs

end Workflow

end NestBackend
