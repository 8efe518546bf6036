import NestBackend.AmqpReceiving

namespace NestBackend

/-!
# A subscription of `AmqpService.receiveMessage`

What goes on between the broker, the receivers that `receiveMessage` opens one
after another, the pipeline behind `source`, and whoever consumes its events.
A receiver has no credit of its own: a credit comes from `add_credit` only, and
every delivery takes one away.  Each delivery is recorded with what was done
about it, so that nothing of what happened is lost from the state.
-/

/-- What a delivery is settled with. -/
inductive Settlement where
  | accept
  | release
  | reject
  deriving DecidableEq, Repr

/-- How far a message event has come. -/
inductive DeliveryStage where
  /-- Nobody listened to `source` when the message came. -/
  | unheard
  /-- The event waits for the events before it. -/
  | waiting
  /-- `receiveMessage` is through with it. -/
  | disposed (disposal : Disposal)
  deriving DecidableEq, Repr

/-- One delivery, with what was done about it, the latest first. -/
structure Delivery where
  message : Option AmqpMessage
  first_acquirer : Bool
  receiver : Nat
  stage : DeliveryStage
  settlements : List Settlement
  credits : List Nat
  creditPending : Bool
  timers : Nat

/-- The functions of an `IMessageEvent`. -/
inductive EventCall where
  | accept
  | addCredit
  | release
  | reject
  deriving DecidableEq, Repr

/--
The state of a subscription.  Receivers are numbered as they are opened; all
but the latest are closed.
-/
structure Subscription where
  credit : Nat → Nat
  latest : Nat
  closed : Bool
  heard : Bool
  started : Bool
  deliveries : List Delivery
  redis : String → Redis.Slot

/-- What can happen next. -/
inductive SubscriptionEvent where
  /-- The consumer subscribes to `source`. -/
  | hear
  /-- The consumer calls `start`. -/
  | start
  /-- The broker delivers a message on the latest receiver. -/
  | deliver (message : Option AmqpMessage) (first_acquirer : Bool)
  /-- The latest receiver becomes closed. -/
  | close
  /-- `receiver_close` is emitted. -/
  | receiverClose
  /-- `connection_open` is emitted. -/
  | connectionOpen
  /-- The message event that has waited longest is taken up. -/
  | process (now : Nat)
  /-- The consumer calls a function of a message event. -/
  | call (index : Nat) (function : EventCall)
  /-- A second has passed since the event was released. -/
  | releaseTimer (index : Nat)

namespace Delivery

/-- The delivery was settled. -/
def settle (settlement : Settlement) (delivery : Delivery) : Delivery :=
  { delivery with settlements := settlement :: delivery.settlements }

/-- A credit was given to a receiver on account of the delivery. -/
def credited (receiver : Nat) (delivery : Delivery) : Delivery :=
  { delivery with credits := receiver :: delivery.credits }

/-- The credit that the delivery took has not been returned. -/
def unreturned (delivery : Delivery) : Bool :=
  delivery.credits.isEmpty

/-- The event waits for the events before it. -/
def waits (delivery : Delivery) : Bool :=
  delivery.stage = .waiting

/-- The event has been passed on to the consumer. -/
def emitted (delivery : Delivery) : Bool :=
  delivery.stage = .disposed .emitted

end Delivery

namespace Subscription

/-- Change what is recorded about one delivery. -/
def record
    (index : Nat)
    (change : Delivery → Delivery)
    (subscription : Subscription) : Subscription :=
  { subscription with
    deliveries := subscription.deliveries.modify index change }

/-- `add_credit(1)` on a receiver, on account of a delivery. -/
def giveCredit
    (index receiver : Nat)
    (subscription : Subscription) : Subscription :=
  { subscription.record index (.credited receiver) with
    credit :=
      Function.update subscription.credit receiver
        (subscription.credit receiver + 1) }

/-- Do something about a delivery. -/
def perform
    (index : Nat)
    (subscription : Subscription) : DeliveryCall → Subscription
  | .accept => subscription.record index (.settle .accept)
  | .release => subscription.record index (.settle .release)
  | .reject => subscription.record index (.settle .reject)
  | .addCredit .latest => subscription.giveCredit index subscription.latest
  | .addCredit .delivering =>
      match subscription.deliveries[index]? with
      | some delivery => subscription.giveCredit index delivery.receiver
      | none => subscription

/-- Do several things about a delivery. -/
def performAll
    (index : Nat)
    (calls : List DeliveryCall)
    (subscription : Subscription) : Subscription :=
  calls.foldl (perform index) subscription

/-- `createReceiver`, once there is a receiver. -/
def createReceiver
    (concurrentLimit : Nat)
    (subscription : Subscription) : Subscription :=
  if subscription.closed then
    { subscription with
      latest := subscription.latest + 1
      closed := false
      credit :=
        Function.update subscription.credit (subscription.latest + 1)
          concurrentLimit }
  else
    subscription

/--
The subscription as `receiveMessage` returns it: the first receiver is open and
has been given its credits.
-/
def opened
    (concurrentLimit : Nat)
    (redis : String → Redis.Slot) : Subscription where
  credit := Function.update (fun _ => 0) 0 concurrentLimit
  latest := 0
  closed := false
  heard := false
  started := false
  deliveries := []
  redis := redis

/-- `receiveMessage` is through with a message event. -/
def dispose
    (index : Nat)
    (redis : String → Redis.Slot)
    (disposal : Disposal)
    (subscription : Subscription) : Subscription :=
  performAll index disposal.calls
    { subscription.record index
        (fun delivery => { delivery with stage := .disposed disposal })
        with redis := redis }

/-- The pipeline takes up the message event that has waited longest. -/
def process
    (maxRedeliverCount : Int)
    (now : Nat)
    (subscription : Subscription) : Option Subscription := do
  let index ← subscription.deliveries.findIdx? Delivery.waits
  let delivery ← subscription.deliveries[index]?
  let received :=
    AmqpService.receive maxRedeliverCount now delivery.message
      delivery.first_acquirer subscription.redis
  return subscription.dispose index received.1 received.2

/-- A function of a message event is called. -/
def call
    (index : Nat)
    (delivery : Delivery)
    (subscription : Subscription) : EventCall → Subscription
  | .accept => subscription.perform index .accept
  | .addCredit =>
      let credited :=
        if delivery.creditPending then
          subscription.perform index (.addCredit .latest)
        else
          subscription
      credited.record index
        (fun delivery => { delivery with creditPending := false })
  | .release =>
      subscription.record index
        (fun delivery => { delivery with timers := delivery.timers + 1 })
  | .reject =>
      performAll index [.reject, .addCredit .delivering] subscription

/-- The timer that `release` has set runs out. -/
def timeout (index : Nat) (subscription : Subscription) : Subscription :=
  performAll index [.release, .addCredit .latest]
    (subscription.record index
      (fun delivery => { delivery with timers := delivery.timers - 1 }))

/-- One event; `none` when it cannot happen. -/
def step
    (concurrentLimit : Nat)
    (maxRedeliverCount : Int)
    (subscription : Subscription) :
    SubscriptionEvent → Option Subscription
  | .hear => some { subscription with heard := true }
  | .start =>
      some
        { subscription with
          started := true
          credit :=
            Function.update subscription.credit subscription.latest
              (subscription.credit subscription.latest + concurrentLimit) }
  | .deliver message first_acquirer =>
      if
          subscription.closed = false ∧
            0 < subscription.credit subscription.latest then
        some
          { subscription with
            credit :=
              Function.update subscription.credit subscription.latest
                (subscription.credit subscription.latest - 1)
            deliveries :=
              subscription.deliveries ++
                [{ message := message
                   first_acquirer := first_acquirer
                   receiver := subscription.latest
                   stage := if subscription.heard then .waiting else .unheard
                   settlements := []
                   credits := []
                   creditPending := true
                   timers := 0 }] }
      else
        none
  | .close => some { subscription with closed := true }
  | .receiverClose => some (subscription.createReceiver concurrentLimit)
  | .connectionOpen => some (subscription.createReceiver concurrentLimit)
  | .process now => subscription.process maxRedeliverCount now
  | .call index function =>
      match subscription.deliveries[index]? with
      | some delivery =>
          if delivery.emitted then
            some (subscription.call index delivery function)
          else
            none
      | none => none
  | .releaseTimer index =>
      match subscription.deliveries[index]? with
      | some delivery =>
          if 0 < delivery.timers then
            some (subscription.timeout index)
          else
            none
      | none => none

/-- A run of events. -/
def run?
    (concurrentLimit : Nat)
    (maxRedeliverCount : Int) :
    Subscription → List SubscriptionEvent → Option Subscription
  | subscription, [] => some subscription
  | subscription, event :: rest =>
      (subscription.step concurrentLimit maxRedeliverCount event).bind
        (fun next => run? concurrentLimit maxRedeliverCount next rest)

/-! ## What an event leaves of the deliveries -/

/-- What `perform` makes of a delivery while `latest` is the latest receiver. -/
def performed
    (latest : Nat)
    (delivery : Delivery) : DeliveryCall → Delivery
  | .accept => delivery.settle .accept
  | .release => delivery.settle .release
  | .reject => delivery.settle .reject
  | .addCredit .latest => delivery.credited latest
  | .addCredit .delivering => delivery.credited delivery.receiver

/-- What a function of the event makes of a delivery. -/
def called
    (latest : Nat)
    (function : EventCall)
    (delivery : Delivery) : Delivery :=
  match function with
  | .accept => delivery.settle .accept
  | .addCredit =>
      { (if delivery.creditPending then delivery.credited latest
          else delivery) with creditPending := false }
  | .release => { delivery with timers := delivery.timers + 1 }
  | .reject => (delivery.settle .reject).credited delivery.receiver

/-- What the timer of `release` makes of a delivery. -/
def timedOut (latest : Nat) (delivery : Delivery) : Delivery :=
  (({ delivery with timers := delivery.timers - 1 } : Delivery).settle
    .release).credited latest

/-- A delivery as it arrives. -/
def arrived
    (message : Option AmqpMessage)
    (first_acquirer : Bool)
    (subscription : Subscription) : Delivery where
  message := message
  first_acquirer := first_acquirer
  receiver := subscription.latest
  stage := if subscription.heard then .waiting else .unheard
  settlements := []
  credits := []
  creditPending := true
  timers := 0

/-- The other members of a list do not matter for a change of one. -/
theorem modify_congr
    {Item : Type}
    {items : List Item}
    {index : Nat}
    {first second : Item → Item}
    (same : ∀ item, items[index]? = some item → first item = second item) :
    items.modify index first = items.modify index second := by
  apply List.ext_getElem?
  intro other
  simp only [List.getElem?_modify]
  by_cases isIndex : index = other
  · subst isIndex
    cases found : items[index]? with
    | none => rfl
    | some item => simp [same item found]
  · simp [isIndex]

theorem perform_deliveries
    (subscription : Subscription)
    (index : Nat)
    (call : DeliveryCall) :
    (subscription.perform index call).deliveries =
      subscription.deliveries.modify index
        (fun delivery => performed subscription.latest delivery call) := by
  cases call with
  | accept => rfl
  | release => rfl
  | reject => rfl
  | addCredit target =>
      cases target with
      | latest => rfl
      | delivering =>
          simp only [perform]
          cases found : subscription.deliveries[index]? with
          | none =>
              have beyond : subscription.deliveries.length ≤ index :=
                List.getElem?_eq_none_iff.mp found
              exact (List.modify_eq_self beyond).symm
          | some delivery =>
              apply modify_congr
              intro item same
              rw [found] at same
              rw [← Option.some.inj same]
              rfl

@[simp] theorem perform_latest
    (subscription : Subscription)
    (index : Nat)
    (call : DeliveryCall) :
    (subscription.perform index call).latest = subscription.latest := by
  cases call with
  | addCredit target =>
      cases target with
      | latest => rfl
      | delivering =>
          simp only [perform]
          cases subscription.deliveries[index]? <;> rfl
  | _ => rfl

theorem performAll_deliveries
    (subscription : Subscription)
    (index : Nat)
    (calls : List DeliveryCall) :
    (subscription.performAll index calls).deliveries =
      subscription.deliveries.modify index
        (fun delivery =>
          calls.foldl (performed subscription.latest) delivery) := by
  unfold performAll
  induction calls generalizing subscription with
  | nil =>
      have unchanged :
          subscription.deliveries.modify index (fun delivery => delivery) =
            subscription.deliveries :=
        List.modify_id index subscription.deliveries
      exact unchanged.symm
  | cons call rest inductionHypothesis =>
      rw [List.foldl_cons, inductionHypothesis, perform_latest,
        perform_deliveries, List.modify_modify_eq]
      rfl

theorem dispose_deliveries
    (subscription : Subscription)
    (index : Nat)
    (redis : String → Redis.Slot)
    (disposal : Disposal) :
    (subscription.dispose index redis disposal).deliveries =
      subscription.deliveries.modify index
        (fun delivery =>
          disposal.calls.foldl (performed subscription.latest)
            { delivery with stage := .disposed disposal }) := by
  unfold dispose
  rw [performAll_deliveries]
  exact List.modify_modify_eq _ _ _ _

theorem call_deliveries
    {subscription : Subscription}
    {index : Nat}
    {delivery : Delivery}
    (found : subscription.deliveries[index]? = some delivery)
    (function : EventCall) :
    (subscription.call index delivery function).deliveries =
      subscription.deliveries.modify index
        (called subscription.latest function) := by
  cases function with
  | accept => rfl
  | addCredit =>
      simp only [call]
      cases pending : delivery.creditPending with
      | true =>
          refine (List.modify_modify_eq _ _ _ _).trans ?_
          apply modify_congr
          intro item same
          rw [found] at same
          rw [← Option.some.inj same]
          simp [called, pending]
      | false =>
          simp only [Bool.false_eq_true, ↓reduceIte, record]
          apply modify_congr
          intro item same
          rw [found] at same
          rw [← Option.some.inj same]
          simp [called, pending]
  | release => rfl
  | reject => exact performAll_deliveries _ _ _

theorem timeout_deliveries
    (subscription : Subscription)
    (index : Nat) :
    (subscription.timeout index).deliveries =
      subscription.deliveries.modify index
        (timedOut subscription.latest) := by
  unfold timeout
  rw [performAll_deliveries]
  exact List.modify_modify_eq _ _ _ _

@[simp] theorem createReceiver_deliveries
    (subscription : Subscription)
    (concurrentLimit : Nat) :
    (subscription.createReceiver concurrentLimit).deliveries =
      subscription.deliveries := by
  unfold createReceiver
  split <;> rfl

/-! ## What an event does -/

section Events

variable
  {concurrentLimit : Nat}
  {maxRedeliverCount : Int}
  {subscription next : Subscription}
  {event : SubscriptionEvent}

/-- An event that can happen to a subscription, and what it leaves. -/
inductive StepCase
    (concurrentLimit : Nat)
    (subscription : Subscription) :
    SubscriptionEvent → Subscription → Prop where
  | hear :
      StepCase concurrentLimit subscription .hear
        { subscription with heard := true }
  | start :
      StepCase concurrentLimit subscription .start
        { subscription with
          started := true
          credit :=
            Function.update subscription.credit subscription.latest
              (subscription.credit subscription.latest + concurrentLimit) }
  | deliver
      {message : Option AmqpMessage}
      {first_acquirer : Bool}
      (credited : 0 < subscription.credit subscription.latest) :
      StepCase concurrentLimit subscription (.deliver message first_acquirer)
        { subscription with
          credit :=
            Function.update subscription.credit subscription.latest
              (subscription.credit subscription.latest - 1)
          deliveries :=
            subscription.deliveries ++
              [subscription.arrived message first_acquirer] }
  | close :
      StepCase concurrentLimit subscription .close
        { subscription with closed := true }
  | receiverClose :
      StepCase concurrentLimit subscription .receiverClose
        (subscription.createReceiver concurrentLimit)
  | connectionOpen :
      StepCase concurrentLimit subscription .connectionOpen
        (subscription.createReceiver concurrentLimit)
  | process
      {now index : Nat}
      {delivery : Delivery}
      {redis : String → Redis.Slot}
      {disposal : Disposal}
      (found : subscription.deliveries[index]? = some delivery)
      (waits : delivery.stage = .waiting) :
      StepCase concurrentLimit subscription (.process now)
        (subscription.dispose index redis disposal)
  | call
      {index : Nat}
      {delivery : Delivery}
      {function : EventCall}
      (found : subscription.deliveries[index]? = some delivery)
      (emitted : delivery.emitted = true) :
      StepCase concurrentLimit subscription (.call index function)
        (subscription.call index delivery function)
  | releaseTimer
      {index : Nat}
      {delivery : Delivery}
      (found : subscription.deliveries[index]? = some delivery)
      (running : 0 < delivery.timers) :
      StepCase concurrentLimit subscription (.releaseTimer index)
        (subscription.timeout index)

/-- Every step is one of the cases. -/
theorem step_cases
    (stepped :
      subscription.step concurrentLimit maxRedeliverCount event =
        some next) :
    subscription.StepCase concurrentLimit event next := by
  cases event with
  | hear =>
      obtain rfl := Option.some.inj stepped
      exact .hear
  | start =>
      obtain rfl := Option.some.inj stepped
      exact .start
  | deliver message first_acquirer =>
      simp only [step] at stepped
      split at stepped
      next enabled =>
        obtain rfl := Option.some.inj stepped
        exact .deliver enabled.2
      next => cases stepped
  | close =>
      obtain rfl := Option.some.inj stepped
      exact .close
  | receiverClose =>
      obtain rfl := Option.some.inj stepped
      exact .receiverClose
  | connectionOpen =>
      obtain rfl := Option.some.inj stepped
      exact .connectionOpen
  | process now =>
      obtain ⟨index, firstWaiting, taken⟩ :=
        Option.bind_eq_some_iff.mp stepped
      obtain ⟨delivery, found, disposed⟩ :=
        Option.bind_eq_some_iff.mp taken
      obtain rfl := Option.some.inj disposed
      obtain ⟨bound, waits, -⟩ :=
        List.findIdx?_eq_some_iff_getElem.mp firstWaiting
      have isWaiting : delivery.stage = .waiting := by
        rw [List.getElem?_eq_getElem bound] at found
        rw [← Option.some.inj found]
        simpa [Delivery.waits] using waits
      exact .process found isWaiting
  | call index function =>
      simp only [step] at stepped
      split at stepped
      next delivery found =>
        split at stepped
        next emitted =>
          obtain rfl := Option.some.inj stepped
          exact .call found emitted
        next => cases stepped
      next => cases stepped
  | releaseTimer index =>
      simp only [step] at stepped
      split at stepped
      next delivery found =>
        split at stepped
        next running =>
          obtain rfl := Option.some.inj stepped
          exact .releaseTimer found running
        next => cases stepped
      next => cases stepped

/-- What one event can do to the deliveries. -/
theorem step_deliveries
    (stepped :
      subscription.step concurrentLimit maxRedeliverCount event =
        some next) :
    (next.deliveries = subscription.deliveries ∧
        ∀ index function, event ≠ .call index function) ∨
      (∃ message first_acquirer,
        event = .deliver message first_acquirer ∧
          next.deliveries =
            subscription.deliveries ++
              [subscription.arrived message first_acquirer]) ∨
      (∃ now index delivery, ∃ disposal : Disposal,
        event = .process now ∧
          subscription.deliveries[index]? = some delivery ∧
          delivery.stage = .waiting ∧
          next.deliveries =
            subscription.deliveries.modify index
              (fun delivery =>
                disposal.calls.foldl (performed subscription.latest)
                  { delivery with stage := .disposed disposal })) ∨
      (∃ index delivery function,
        event = .call index function ∧
          subscription.deliveries[index]? = some delivery ∧
          delivery.emitted = true ∧
          next.deliveries =
            subscription.deliveries.modify index
              (called subscription.latest function)) ∨
      ∃ index delivery,
        event = .releaseTimer index ∧
          subscription.deliveries[index]? = some delivery ∧
          0 < delivery.timers ∧
          next.deliveries =
            subscription.deliveries.modify index
              (timedOut subscription.latest) := by
  cases step_cases stepped with
  | hear => exact Or.inl ⟨rfl, by simp⟩
  | start => exact Or.inl ⟨rfl, by simp⟩
  | deliver => exact Or.inr (Or.inl ⟨_, _, rfl, rfl⟩)
  | close => exact Or.inl ⟨rfl, by simp⟩
  | receiverClose =>
      exact Or.inl ⟨createReceiver_deliveries _ _, by simp⟩
  | connectionOpen =>
      exact Or.inl ⟨createReceiver_deliveries _ _, by simp⟩
  | process found waits =>
      exact Or.inr (Or.inr (Or.inl
        ⟨_, _, _, _, rfl, found, waits, dispose_deliveries _ _ _ _⟩))
  | call found emitted =>
      exact Or.inr (Or.inr (Or.inr (Or.inl
        ⟨_, _, _, rfl, found, emitted, call_deliveries found _⟩)))
  | releaseTimer found running =>
      exact Or.inr (Or.inr (Or.inr (Or.inr
        ⟨_, _, rfl, found, running, timeout_deliveries _ _⟩)))

end Events

end Subscription

end NestBackend
