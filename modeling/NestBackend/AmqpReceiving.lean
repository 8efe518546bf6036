import NestBackend.AmqpCacheService

namespace NestBackend

open JavaScript

/-!
# What `AmqpService` sends, and what it does with a message that arrives

`sendMessage` builds the message; `receiveMessage` takes the messages one after
another, looks at the count of earlier deliveries where the message is not
delivered for the first time, and passes it on or settles it itself.

The body of a message stands for what `JSON.parse` makes of its text, and for
nothing where that throws.
-/

/-- `ISendMessage`, as far as the message is made from it. -/
structure SendMessage where
  address : String
  message : Option Json
  traceId : String
  durable : Bool
  replyTo : Option (String × String)
  receiverId : Option String

/-- `IMessageAnnotation`. -/
structure MessageAnnotation where
  senderId : Option String
  receiverId : Option String
  traceId : Option String

/-- The parts of a message that the services set or read. -/
structure AmqpMessage where
  body : Option Json
  message_id : Option String
  correlation_id : Option String
  reply_to : Option String
  durable : Bool
  message_annotations : Option MessageAnnotation

/-- Which receiver a credit is given to. -/
inductive CreditTarget where
  /-- The receiver that delivered the message. -/
  | delivering
  /-- The receiver that is open now. -/
  | latest
  deriving DecidableEq, Repr

/-- What is done about a delivery. -/
inductive DeliveryCall where
  | accept
  | release
  | reject
  | addCredit (target : CreditTarget)
  deriving DecidableEq, Repr

/-- How `receiveMessage` disposes of a message event. -/
inductive Disposal where
  /-- The event carries no message. -/
  | ignored
  /-- The body or the annotations cannot be read, or Redis fails. -/
  | failed
  /-- "Delivery attempt exceeded". -/
  | exceeded
  /-- The message is passed on to the consumer. -/
  | emitted
  deriving DecidableEq, Repr

/-- What `receiveMessage` itself does about the delivery. -/
def Disposal.calls : Disposal → List DeliveryCall
  | .ignored => []
  | .failed => [.reject, .addCredit .latest]
  | .exceeded => [.reject, .addCredit .delivering]
  | .emitted => []

namespace AmqpMessage

/-- The body and the annotations can be read. -/
def readable (msg : AmqpMessage) : Bool :=
  msg.body.isSome && msg.message_annotations.isSome

/-- `msg.message_id + ""`. -/
def idText (msg : AmqpMessage) : String :=
  msg.message_id.getD "undefined"

end AmqpMessage

namespace AmqpService

/-- The message that `sendMessage` sends. -/
def outgoing (e : SendMessage) : AmqpMessage where
  body := e.message
  message_id := none
  correlation_id := some e.traceId
  reply_to := e.replyTo.map Prod.fst
  durable := e.durable
  message_annotations :=
    some
      { senderId := e.replyTo.map Prod.snd
        receiverId := e.receiverId
        traceId := some e.traceId }

/--
The function that `receiveMessage` applies to one message event after another,
up to the point where the event is passed on.
-/
def receive
    (maxRedeliverCount : Int)
    (now : Nat)
    (message : Option AmqpMessage)
    (first_acquirer : Bool)
    (redis : String → Redis.Slot) : (String → Redis.Slot) × Disposal :=
  match message with
  | none => (redis, .ignored)
  | some msg =>
      if msg.readable then
        let increased :=
          AmqpCacheService.increaseDeliveryCount msg.idText now redis
        if first_acquirer then
          (increased, .emitted)
        else
          match
            AmqpCacheService.isValidDeliveryCount msg.idText
              maxRedeliverCount now redis with
          | .ok true => (increased, .emitted)
          | .ok false => (redis, .exceeded)
          | .error _ => (redis, .failed)
      else
        (redis, .failed)

end AmqpService

/-! ## The deliveries of some messages -/

/-- A message is delivered at an instant. -/
structure Arrival (Message : Type) where
  message : Message
  instant : Nat

/--
Deliveries of some messages, the latest first, with what Redis held before the
first of them: nothing under the key of any counter.
-/
structure DeliveryRun (Message : Type) where
  keys : String → Redis.Slot
  uncounted :
    ∀ id, keys (AmqpCacheService.keyDeliveryCount id) = none
  arrivals : List (Arrival Message)
  ordered :
    arrivals.Pairwise (fun later earlier => earlier.instant ≤ later.instant)

/-- An empty Redis holds no counter. -/
theorem DeliveryRun.uncounted_of_empty
    (id : String) :
    (fun _ : String => (none : Redis.Slot))
        (AmqpCacheService.keyDeliveryCount id) =
      none :=
  rfl

section Deliveries

variable
  {Message : Type}
  [DecidableEq Message]
  (content : Message → AmqpMessage)
  (maxRedeliverCount : Int)
  (keys : String → Redis.Slot)

/-- A message is acquired for the first time. -/
def firstAcquirer
    (message : Message)
    (earlier : List (Arrival Message)) : Bool :=
  earlier.all (fun arrival => arrival.message ≠ message)

/-- What Redis holds after some deliveries. -/
def keysAfter : List (Arrival Message) → String → Redis.Slot
  | [] => keys
  | arrival :: earlier =>
      (AmqpService.receive maxRedeliverCount arrival.instant
        (some (content arrival.message))
        (firstAcquirer arrival.message earlier)
        (keysAfter earlier)).1

/-- How a message is disposed of that arrives after some deliveries. -/
def disposal
    (arrival : Arrival Message)
    (earlier : List (Arrival Message)) : Disposal :=
  (AmqpService.receive maxRedeliverCount arrival.instant
    (some (content arrival.message))
    (firstAcquirer arrival.message earlier)
    (keysAfter content maxRedeliverCount keys earlier)).2

/-- When the messages of a kind were passed on, the latest first. -/
def handOvers (chosen : Message → Bool) : List (Arrival Message) → List Nat
  | [] => []
  | arrival :: earlier =>
      if
          chosen arrival.message ∧
            disposal content maxRedeliverCount keys arrival earlier =
              .emitted then
        arrival.instant :: handOvers chosen earlier
      else
        handOvers chosen earlier

variable
  {content : Message → AmqpMessage}
  {maxRedeliverCount : Int}
  {keys : String → Redis.Slot}

/-- What is done with a readable message, by what its counter counts. -/
theorem AmqpService.receive_counter
    {msg : AmqpMessage}
    {redis : String → Redis.Slot}
    {instants : List Nat}
    (readable : msg.readable = true)
    (counted :
      redis (AmqpCacheService.keyDeliveryCount msg.idText) =
        Redis.counter AmqpCacheService.lifetime instants)
    (maxRedeliverCount : Int)
    (now : Nat)
    (first_acquirer : Bool) :
    AmqpService.receive maxRedeliverCount now (some msg) first_acquirer
        redis =
      if
          first_acquirer = true ∨
            AmqpCacheService.Within maxRedeliverCount
              (AmqpCacheService.count now instants) then
        (AmqpCacheService.increaseDeliveryCount msg.idText now redis,
          .emitted)
      else
        (redis, .exceeded) := by
  unfold AmqpService.receive
  simp only [readable, ↓reduceIte]
  rw [AmqpCacheService.isValidDeliveryCount_counter counted]
  cases first_acquirer with
  | true => simp
  | false =>
      by_cases within :
        AmqpCacheService.Within maxRedeliverCount
          (AmqpCacheService.count now instants)
      · simp [within]
      · simp [within]

/-- A message that cannot be read is not counted. -/
theorem AmqpService.receive_unreadable
    {msg : AmqpMessage}
    (unreadable : msg.readable = false)
    (maxRedeliverCount : Int)
    (now : Nat)
    (first_acquirer : Bool)
    (redis : String → Redis.Slot) :
    AmqpService.receive maxRedeliverCount now (some msg) first_acquirer
        redis =
      (redis, .failed) := by
  simp [AmqpService.receive, unreadable]

/-- The messages that have the counter of an id. -/
def countedAs
    (content : Message → AmqpMessage)
    (id : String) : Message → Bool := fun message =>
  (content message).idText = id

omit [DecidableEq Message] in
@[simp] theorem countedAs_iff
    {id : String}
    {message : Message} :
    countedAs content id message = true ↔ (content message).idText = id := by
  simp [countedAs]

/-- The counter of an id counts when messages with that id were passed on. -/
theorem keysAfter_counter
    (uncounted :
      ∀ id, keys (AmqpCacheService.keyDeliveryCount id) = none)
    (arrivals : List (Arrival Message))
    (id : String) :
    keysAfter content maxRedeliverCount keys arrivals
        (AmqpCacheService.keyDeliveryCount id) =
      Redis.counter AmqpCacheService.lifetime
        (handOvers content maxRedeliverCount keys (countedAs content id)
          arrivals) := by
  induction arrivals generalizing id with
  | nil => exact uncounted id
  | cons arrival earlier inductionHypothesis =>
      have own := inductionHypothesis (content arrival.message).idText
      simp only [keysAfter, handOvers, disposal, countedAs_iff]
      cases readable : (content arrival.message).readable with
      | false =>
          rw [AmqpService.receive_unreadable readable]
          simpa using inductionHypothesis id
      | true =>
          rw [AmqpService.receive_counter readable own]
          split
          · by_cases same : (content arrival.message).idText = id
            · subst same
              simp only [and_self, ↓reduceIte]
              exact
                AmqpCacheService.increaseDeliveryCount_counter own
                  arrival.instant
            · have different :
                  AmqpCacheService.keyDeliveryCount id ≠
                    AmqpCacheService.keyDeliveryCount
                      (content arrival.message).idText := by
                intro sameKey
                exact same
                  (AmqpCacheService.keyDeliveryCount_injective
                    sameKey).symm
              simp only [same, false_and, ↓reduceIte]
              rw [AmqpCacheService.increaseDeliveryCount_other different]
              exact inductionHypothesis id
          · simpa using inductionHypothesis id

/-- How a message is disposed of, by when its id was counted before. -/
theorem disposal_eq
    (uncounted :
      ∀ id, keys (AmqpCacheService.keyDeliveryCount id) = none)
    (arrival : Arrival Message)
    (earlier : List (Arrival Message)) :
    disposal content maxRedeliverCount keys arrival earlier =
      if (content arrival.message).readable then
        if
            firstAcquirer arrival.message earlier = true ∨
              AmqpCacheService.Within maxRedeliverCount
                (AmqpCacheService.count arrival.instant
                  (handOvers content maxRedeliverCount keys
                    (countedAs content (content arrival.message).idText)
                    earlier)) then
          .emitted
        else
          .exceeded
      else
        .failed := by
  unfold disposal
  cases readable : (content arrival.message).readable with
  | false =>
      rw [AmqpService.receive_unreadable readable]
      rfl
  | true =>
      rw [AmqpService.receive_counter readable
        (keysAfter_counter uncounted earlier _)]
      simp only [↓reduceIte]
      split <;> rfl

/-! ### Sequences of hand-overs -/

/-- Hand-overs are some of the arrivals. -/
theorem handOvers_sublist_arrivals
    (chosen : Message → Bool)
    (arrivals : List (Arrival Message)) :
    (handOvers content maxRedeliverCount keys chosen arrivals).Sublist
      (arrivals.map Arrival.instant) := by
  induction arrivals with
  | nil => exact List.Sublist.slnil
  | cons arrival earlier inductionHypothesis =>
      simp only [handOvers, List.map_cons]
      split
      · exact inductionHypothesis.cons_cons _
      · exact inductionHypothesis.cons _

/-- Fewer messages have fewer hand-overs. -/
theorem handOvers_sublist
    {fewer chosen : Message → Bool}
    (part : ∀ message, fewer message = true → chosen message = true)
    (arrivals : List (Arrival Message)) :
    (handOvers content maxRedeliverCount keys fewer arrivals).Sublist
      (handOvers content maxRedeliverCount keys chosen arrivals) := by
  induction arrivals with
  | nil => exact List.Sublist.slnil
  | cons arrival earlier inductionHypothesis =>
      simp only [handOvers]
      by_cases emitted :
        disposal content maxRedeliverCount keys arrival earlier = .emitted
      · cases isFewer : fewer arrival.message with
        | true =>
            simpa [emitted, part _ isFewer] using
              inductionHypothesis.cons_cons arrival.instant
        | false =>
            cases isChosen : chosen arrival.message with
            | true =>
                simpa [emitted] using
                  inductionHypothesis.cons arrival.instant
            | false => simpa using inductionHypothesis
      · simpa [emitted] using inductionHypothesis

/-- What is chosen elsewhere does not matter. -/
theorem handOvers_congr
    {first second : Message → Bool}
    {arrivals : List (Arrival Message)}
    (same :
      ∀ arrival ∈ arrivals,
        first arrival.message = second arrival.message) :
    handOvers content maxRedeliverCount keys first arrivals =
      handOvers content maxRedeliverCount keys second arrivals := by
  induction arrivals with
  | nil => rfl
  | cons arrival earlier inductionHypothesis =>
      have ofEarlier :=
        inductionHypothesis
          (fun other member => same other (List.mem_cons_of_mem _ member))
      simp only [handOvers, same arrival List.mem_cons_self, ofEarlier]

/-- Whether a message is new does not depend on other messages. -/
theorem firstAcquirer_filter
    (message : Message)
    (earlier : List (Arrival Message)) :
    firstAcquirer message
        (earlier.filter (fun arrival => arrival.message = message)) =
      firstAcquirer message earlier := by
  induction earlier with
  | nil => rfl
  | cons arrival rest inductionHypothesis =>
      by_cases same : arrival.message = message
      · simp [firstAcquirer, same]
      · simp only [firstAcquirer, List.filter_cons, same, decide_false,
          Bool.false_eq_true, ↓reduceIte] at inductionHypothesis ⊢
        simp [same]

end Deliveries

end NestBackend
