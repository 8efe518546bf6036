import NestBackend.AmqpCredit

namespace NestBackend

open JavaScript

/-!
# The consumer loop of `AbstractMessaging.listen`

`RabbitMQService.onModuleInit` has the same loop.  For one message event it is a
sequence of calls of the functions of the event, which the subscription carries
out among everything else that goes on.
-/

/-- How the handler of a message and the sending of the reply turn out. -/
structure Handling where
  /-- What `onMessage` resolves with; nothing when it throws. -/
  onMessage : Option Json
  /-- Whether `sendMessage` resolves, should it be called. -/
  sendMessage : Bool

/-- A function that calls the functions of one message event and may throw. -/
abbrev ConsumerM := ExceptT Unit (StateM (List EventCall))

namespace Consumer

/-- A property that may be missing, in a test. -/
def truthyText (text : Option String) : Bool :=
  text.getD "" != ""

/-- Call a function of the event. -/
def make (function : EventCall) : ConsumerM Unit :=
  modify (fun calls => calls ++ [function])

/-- `onMessage`. -/
def onMessage (handling : Handling) : ConsumerM Json :=
  match handling.onMessage with
  | some reply => pure reply
  | none => throw ()

/-- `reply`. -/
def reply
    (msg : AmqpMessage)
    (handling : Handling)
    (replyData : Json) : ConsumerM Unit := do
  if truthyText msg.reply_to && !truthyText msg.correlation_id then
    throw ()
  if truthyText msg.reply_to && truthyText msg.correlation_id then
    if replyData.truthy then
      if !handling.sendMessage then
        throw ()

/-- What is done for each event of `source`. -/
def forEach
    (eagerAcceptMessage : Bool)
    (msg : AmqpMessage)
    (handling : Handling) : ConsumerM Unit := do
  try
    if eagerAcceptMessage then
      make .accept
    let replyData ← onMessage handling
    if eagerAcceptMessage then
      make .addCredit
    else
      make .accept
      make .addCredit
    if replyData.truthy then
      reply msg handling replyData
  catch _ =>
    make .release

/-- The calls of the functions of the event, in their order. -/
def calls
    (eagerAcceptMessage : Bool)
    (msg : AmqpMessage)
    (handling : Handling) : List EventCall :=
  (forEach eagerAcceptMessage msg handling []).2

/-- Replying throws. -/
def replyThrows (msg : AmqpMessage) (handling : Handling) : Bool :=
  truthyText msg.reply_to &&
    (!truthyText msg.correlation_id || !handling.sendMessage)

/-- Replying calls no function of the event. -/
theorem reply_eq
    (msg : AmqpMessage)
    (handling : Handling)
    {replyData : Json}
    (given : replyData.truthy = true) :
    reply msg handling replyData = fun calls =>
      (if replyThrows msg handling then .error () else .ok (), calls) := by
  obtain ⟨onMessage, sendMessage⟩ := handling
  unfold reply replyThrows
  rw [given]
  cases truthyText msg.reply_to with
  | false => rfl
  | true =>
      cases truthyText msg.correlation_id with
      | false => rfl
      | true => cases sendMessage <;> rfl

/-- The calls, by how the handler and the reply turn out. -/
theorem calls_eq
    (eagerAcceptMessage : Bool)
    (msg : AmqpMessage)
    (handling : Handling) :
    calls eagerAcceptMessage msg handling =
      (if eagerAcceptMessage then [.accept] else []) ++
        match handling.onMessage with
        | none => [.release]
        | some replyData =>
            (if eagerAcceptMessage then [.addCredit]
              else [.accept, .addCredit]) ++
              if replyData.truthy && replyThrows msg handling then
                [.release]
              else
                [] := by
  cases outcome : handling.onMessage with
  | none =>
      simp only [calls, forEach, onMessage, outcome]
      cases eagerAcceptMessage <;> rfl
  | some replyData =>
      simp only [calls, forEach, onMessage, outcome, pure_bind]
      cases given : replyData.truthy with
      | false => cases eagerAcceptMessage <;> rfl
      | true =>
          rw [reply_eq msg handling given]
          cases replyThrows msg handling <;>
            cases eagerAcceptMessage <;> rfl

end Consumer

/-! ## The account of one delivery -/

/-- The call settles the delivery, at once or after a second. -/
def EventCall.settles : EventCall → Bool
  | .addCredit => false
  | _ => true

/-- The call brings a credit each time it is made. -/
def EventCall.brings : EventCall → Bool
  | .release => true
  | .reject => true
  | _ => false

/-- The functions of one event that are called in a run, in their order. -/
def callsOn (index : Nat) (events : List SubscriptionEvent) : List EventCall :=
  events.filterMap fun event =>
    match event with
    | .call other function => if other = index then some function else none
    | _ => none

/-- A delivery that is settled and paid for as its calls say. -/
structure Delivery.Accounted
    (delivery : Delivery)
    (calls : List EventCall) : Prop where
  settled :
    delivery.settlements.length + delivery.timers =
      calls.countP EventCall.settles
  credited :
    delivery.credits.length + delivery.timers =
      calls.countP EventCall.brings +
        (if .addCredit ∈ calls then 1 else 0)
  accepted : .accept ∈ delivery.settlements ↔ .accept ∈ calls
  pending : delivery.creditPending = true ↔ .addCredit ∉ calls

namespace Delivery

variable
  {delivery : Delivery}
  {calls : List EventCall}

/-- One more call. -/
theorem Accounted.called
    (accounted : delivery.Accounted calls)
    (latest : Nat)
    (function : EventCall) :
    (Subscription.called latest function delivery).Accounted
      (calls ++ [function]) := by
  obtain ⟨settled, credited, accepted, pending⟩ := accounted
  cases function with
  | accept =>
      refine ⟨?_, ?_, ?_, ?_⟩
      · simp [Subscription.called, settle, EventCall.settles]
        omega
      · simpa [Subscription.called, settle, EventCall.brings]
          using credited
      · simp [Subscription.called, settle]
      · simpa [Subscription.called, settle] using pending
  | addCredit =>
      cases isPending : delivery.creditPending with
      | true =>
          have absent := pending.mp isPending
          refine ⟨?_, ?_, ?_, ?_⟩
          · simpa [Subscription.called, isPending, EventCall.settles,
              Delivery.credited] using settled
          · simp [Subscription.called, isPending, EventCall.brings,
              Delivery.credited, absent] at credited ⊢
            omega
          · simpa [Subscription.called, isPending, Delivery.credited]
              using accepted
          · simp [Subscription.called]
      | false =>
          have present : .addCredit ∈ calls := by
            by_contra absent
            exact absurd (pending.mpr absent) (by simp [isPending])
          refine ⟨?_, ?_, ?_, ?_⟩
          · simpa [Subscription.called, isPending, EventCall.settles]
              using settled
          · simpa [Subscription.called, isPending, EventCall.brings,
              present] using credited
          · simpa [Subscription.called, isPending] using accepted
          · simp [Subscription.called]
  | release =>
      refine ⟨?_, ?_, ?_, ?_⟩
      · simp [Subscription.called, EventCall.settles]
        omega
      · simp [Subscription.called, EventCall.brings] at credited ⊢
        omega
      · simpa [Subscription.called] using accepted
      · simpa [Subscription.called] using pending
  | reject =>
      refine ⟨?_, ?_, ?_, ?_⟩
      · simp [Subscription.called, settle, Delivery.credited,
          EventCall.settles]
        omega
      · simp [Subscription.called, settle, Delivery.credited,
          EventCall.brings] at credited ⊢
        omega
      · simpa [Subscription.called, settle, Delivery.credited]
          using accepted
      · simpa [Subscription.called, settle, Delivery.credited]
          using pending

/-- A release takes effect. -/
theorem Accounted.timedOut
    (accounted : delivery.Accounted calls)
    (running : 0 < delivery.timers)
    (latest : Nat) :
    (Subscription.timedOut latest delivery).Accounted calls := by
  obtain ⟨settled, credited, accepted, pending⟩ := accounted
  refine ⟨?_, ?_, ?_, ?_⟩
  · simp [Subscription.timedOut, settle, Delivery.credited]
    omega
  · simp [Subscription.timedOut, settle, Delivery.credited]
    omega
  · simpa [Subscription.timedOut, settle, Delivery.credited] using accepted
  · simpa [Subscription.timedOut, settle, Delivery.credited] using pending

/-- The delivery has not been disposed of by `receiveMessage` itself. -/
def LeftToConsumer (delivery : Delivery) : Prop :=
  ∀ disposal, delivery.stage = .disposed disposal → disposal = .emitted

end Delivery

namespace Subscription

variable
  {concurrentLimit : Nat}
  {maxRedeliverCount : Int}
  {subscription next : Subscription}
  {calls : List EventCall}
  {index : Nat}

/--
The delivery at a position is accounted for, and nothing is called of it before
it is passed on.
-/
structure Tracked
    (subscription : Subscription)
    (index : Nat)
    (calls : List EventCall) : Prop where
  accounted :
    ∀ delivery,
      subscription.deliveries[index]? = some delivery →
        delivery.LeftToConsumer → delivery.Accounted calls
  notBefore :
    (∀ delivery,
      subscription.deliveries[index]? = some delivery →
        delivery.emitted = false) →
      calls = []

/-- Other deliveries do not matter. -/
theorem Tracked.congr
    (tracked : subscription.Tracked index calls)
    (same : next.deliveries[index]? = subscription.deliveries[index]?) :
    next.Tracked index calls := by
  refine ⟨?_, ?_⟩
  · rw [same]
    exact tracked.accounted
  · rw [same]
    exact tracked.notBefore

/-- What is done about a delivery leaves its stage. -/
theorem foldl_performed_stage
    (latest : Nat)
    (performs : List DeliveryCall)
    (delivery : Delivery) :
    (performs.foldl (performed latest) delivery).stage = delivery.stage := by
  induction performs generalizing delivery with
  | nil => rfl
  | cons call rest inductionHypothesis =>
      rw [List.foldl_cons, inductionHypothesis]
      cases call with
      | addCredit target => cases target <;> rfl
      | _ => rfl

/-- A call leaves the stage. -/
theorem called_stage
    (latest : Nat)
    (function : EventCall)
    (delivery : Delivery) :
    (called latest function delivery).stage = delivery.stage := by
  cases function with
  | addCredit =>
      unfold called
      cases pending : delivery.creditPending <;> rfl
  | _ => rfl

/-- The tracked delivery arrives. -/
theorem Tracked.deliver
    (tracked : subscription.Tracked index calls)
    {message : Option AmqpMessage}
    {first_acquirer : Bool}
    (appended :
      next.deliveries =
        subscription.deliveries ++
          [subscription.arrived message first_acquirer]) :
    next.Tracked index calls := by
  by_cases bound : index < subscription.deliveries.length
  · apply tracked.congr
    rw [appended]
    exact List.getElem?_append_left bound
  · have absent : subscription.deliveries[index]? = none :=
      List.getElem?_eq_none_iff.mpr (Nat.le_of_not_lt bound)
    have noCalls : calls = [] := by
      apply tracked.notBefore
      intro delivery found
      rw [absent] at found
      cases found
    subst noCalls
    refine ⟨?_, fun _ => rfl⟩
    intro delivery found _
    rw [appended, List.getElem?_append_right (Nat.le_of_not_lt bound)]
      at found
    have isNew := List.mem_singleton.mp (List.mem_of_getElem? found)
    rw [isNew]
    refine ⟨rfl, rfl, ?_, ?_⟩
    · simp [arrived]
    · simp [arrived]

/-- The tracked delivery is taken up. -/
theorem Tracked.process
    (tracked : subscription.Tracked index calls)
    {taken : Delivery}
    {disposal : Disposal}
    (found : subscription.deliveries[index]? = some taken)
    (waiting : taken.stage = .waiting)
    (changed :
      next.deliveries =
        subscription.deliveries.modify index
          (fun delivery =>
            disposal.calls.foldl (performed subscription.latest)
              { delivery with stage := .disposed disposal })) :
    next.Tracked index calls := by
  have noCalls : calls = [] := by
    apply tracked.notBefore
    intro delivery same
    rw [found] at same
    rw [← Option.some.inj same]
    simp [Delivery.emitted, waiting]
  have accounted : taken.Accounted calls := by
    apply tracked.accounted taken found
    intro disposal disposed
    rw [waiting] at disposed
    cases disposed
  refine ⟨?_, fun _ => noCalls⟩
  intro delivery changedTo left
  rw [changed, List.getElem?_modify_eq, found] at changedTo
  obtain rfl := Option.some.inj changedTo
  have isEmitted : disposal = .emitted := by
    apply left
    rw [foldl_performed_stage]
  subst isEmitted
  exact ⟨accounted.settled, accounted.credited, accounted.accepted,
    accounted.pending⟩

/-- A function of the tracked event is called. -/
theorem Tracked.call
    (tracked : subscription.Tracked index calls)
    {taken : Delivery}
    {function : EventCall}
    (found : subscription.deliveries[index]? = some taken)
    (emitted : taken.emitted = true)
    (changed :
      next.deliveries =
        subscription.deliveries.modify index
          (called subscription.latest function)) :
    next.Tracked index (calls ++ [function]) := by
  have stage : taken.stage = .disposed .emitted := by
    simpa [Delivery.emitted] using emitted
  have nextFound :
      next.deliveries[index]? =
        some (called subscription.latest function taken) := by
    rw [changed, List.getElem?_modify_eq, found]
    rfl
  refine ⟨?_, ?_⟩
  · intro delivery changedTo _
    rw [nextFound] at changedTo
    obtain rfl := Option.some.inj changedTo
    apply Delivery.Accounted.called
    apply tracked.accounted taken found
    intro disposal disposed
    rw [stage] at disposed
    exact (DeliveryStage.disposed.inj disposed).symm
  · intro notEmitted
    have contradiction := notEmitted _ nextFound
    rw [Delivery.emitted, called_stage, stage] at contradiction
    cases contradiction

/-- The tracked delivery is released. -/
theorem Tracked.releaseTimer
    (tracked : subscription.Tracked index calls)
    {taken : Delivery}
    (found : subscription.deliveries[index]? = some taken)
    (running : 0 < taken.timers)
    (changed :
      next.deliveries =
        subscription.deliveries.modify index
          (timedOut subscription.latest)) :
    next.Tracked index calls := by
  have nextFound :
      next.deliveries[index]? =
        some (timedOut subscription.latest taken) := by
    rw [changed, List.getElem?_modify_eq, found]
    rfl
  refine ⟨?_, ?_⟩
  · intro delivery changedTo left
    rw [nextFound] at changedTo
    obtain rfl := Option.some.inj changedTo
    exact (tracked.accounted taken found left).timedOut running _
  · intro notEmitted
    apply tracked.notBefore
    intro delivery same
    rw [found] at same
    rw [← Option.some.inj same]
    exact notEmitted (timedOut subscription.latest taken) nextFound

/-- What one event leaves of the account. -/
theorem Tracked.step
    (tracked : subscription.Tracked index calls)
    {event : SubscriptionEvent}
    (stepped :
      subscription.step concurrentLimit maxRedeliverCount event =
        some next) :
    next.Tracked index (calls ++ callsOn index [event]) := by
  have elsewhere :
      ∀ {position : Nat} {change : Delivery → Delivery},
        next.deliveries = subscription.deliveries.modify position change →
          position ≠ index →
          next.deliveries[index]? = subscription.deliveries[index]? := by
    intro position change changed different
    rw [changed, List.getElem?_modify_ne _ _ different]
  rcases step_deliveries stepped with
    ⟨same, notCall⟩ | ⟨message, first_acquirer, rfl, appended⟩ |
      ⟨now, position, taken, disposal, rfl, found, waiting, changed⟩ |
      ⟨position, taken, function, rfl, found, emitted, changed⟩ |
      ⟨position, taken, rfl, found, running, changed⟩
  · have noCall : callsOn index [event] = [] := by
      cases event with
      | call position function => exact absurd rfl (notCall _ _)
      | _ => rfl
    rw [noCall, List.append_nil]
    apply tracked.congr
    rw [same]
  · exact (List.append_nil calls).symm ▸ tracked.deliver appended
  · refine (List.append_nil calls).symm ▸ ?_
    by_cases here : position = index
    · subst here
      exact tracked.process found waiting changed
    · exact tracked.congr (elsewhere changed here)
  · by_cases here : position = index
    · subst here
      have oneCall :
          callsOn position [.call position function] = [function] := by
        simp [callsOn]
      rw [oneCall]
      exact tracked.call found emitted changed
    · have noCall : callsOn index [.call position function] = [] := by
        simp [callsOn, here]
      rw [noCall, List.append_nil]
      exact tracked.congr (elsewhere changed here)
  · refine (List.append_nil calls).symm ▸ ?_
    by_cases here : position = index
    · subst here
      exact tracked.releaseTimer found running changed
    · exact tracked.congr (elsewhere changed here)

/-- What a run leaves of the account. -/
theorem Tracked.run
    (tracked : subscription.Tracked index calls)
    {events : List SubscriptionEvent}
    (ran :
      subscription.run? concurrentLimit maxRedeliverCount events =
        some next) :
    next.Tracked index (calls ++ callsOn index events) := by
  induction events generalizing subscription calls with
  | nil =>
      cases ran
      exact (List.append_nil calls).symm ▸ tracked
  | cons event rest inductionHypothesis =>
      obtain ⟨middle, stepped, ranRest⟩ := Option.bind_eq_some_iff.mp ran
      have split :
          callsOn index (event :: rest) =
            callsOn index [event] ++ callsOn index rest :=
        List.filterMap_append (l := [event])
      rw [split, ← List.append_assoc]
      exact inductionHypothesis (tracked.step stepped) ranRest

/-- Nothing has been called when a subscription is opened. -/
theorem opened_tracked
    (concurrentLimit : Nat)
    (redis : String → Redis.Slot)
    (index : Nat) :
    (opened concurrentLimit redis).Tracked index [] := by
  refine ⟨?_, fun _ => rfl⟩
  intro delivery found
  simp [opened] at found

/--
In a run, the consumer is through with an event that was passed on to it, and
no second of waiting is left.
-/
structure Consumed
    (concurrentLimit : Nat)
    (maxRedeliverCount : Int)
    (redis : String → Redis.Slot)
    (eagerAcceptMessage : Bool)
    (handling : Handling)
    (events : List SubscriptionEvent)
    (index : Nat)
    (msg : AmqpMessage)
    (delivery : Delivery) : Prop where
  ran :
    ∃ subscription,
      (opened concurrentLimit redis).run? concurrentLimit
            maxRedeliverCount events =
          some subscription ∧
        subscription.deliveries[index]? = some delivery
  emitted : delivery.emitted = true
  message : delivery.message = some msg
  complete :
    callsOn index events = Consumer.calls eagerAcceptMessage msg handling
  noTimer : delivery.timers = 0

/--
The delivery is settled once and one credit is added for it, and without eager
acceptance it is accepted only if the handler has resolved.
-/
structure SettledOnce
    (eagerAcceptMessage : Bool)
    (handling : Handling)
    (delivery : Delivery) : Prop where
  settled : delivery.settlements.length = 1
  credited : delivery.credits.length = 1
  acceptedAfter :
    eagerAcceptMessage = false →
      .accept ∈ delivery.settlements → handling.onMessage.isSome = true

/-- What has been done about the delivery is what the consumer loop called. -/
theorem Consumed.accounted
    {concurrentLimit : Nat}
    {maxRedeliverCount : Int}
    {redis : String → Redis.Slot}
    {eagerAcceptMessage : Bool}
    {handling : Handling}
    {events : List SubscriptionEvent}
    {index : Nat}
    {msg : AmqpMessage}
    {delivery : Delivery}
    (consumed :
      Consumed concurrentLimit maxRedeliverCount redis eagerAcceptMessage
        handling events index msg delivery) :
    delivery.Accounted
      (Consumer.calls eagerAcceptMessage msg handling) := by
  obtain ⟨subscription, ran, found⟩ := consumed.ran
  have tracked := (opened_tracked concurrentLimit redis index).run ran
  have stage : delivery.stage = .disposed .emitted := by
    simpa [Delivery.emitted] using consumed.emitted
  have accounted :
      delivery.Accounted ([] ++ callsOn index events) := by
    refine tracked.accounted delivery found ?_
    intro disposal disposed
    rw [stage] at disposed
    exact (DeliveryStage.disposed.inj disposed).symm
  rw [List.nil_append, consumed.complete] at accounted
  exact accounted

/--
An event that the consumer is through with has been settled once and has paid
back one credit exactly when nothing was thrown after the message was accepted:
neither by the handler of an eagerly accepted message nor by the reply.
-/
theorem settledOnce_iff
    {concurrentLimit : Nat}
    {maxRedeliverCount : Int}
    {redis : String → Redis.Slot}
    {eagerAcceptMessage : Bool}
    {handling : Handling}
    {events : List SubscriptionEvent}
    {index : Nat}
    {msg : AmqpMessage}
    {delivery : Delivery}
    (consumed :
      Consumed concurrentLimit maxRedeliverCount redis eagerAcceptMessage
        handling events index msg delivery) :
    SettledOnce eagerAcceptMessage handling delivery ↔
      (eagerAcceptMessage = true → handling.onMessage.isSome = true) ∧
        ∀ replyData,
          handling.onMessage = some replyData →
            replyData.truthy = true →
              Consumer.replyThrows msg handling = false := by
  obtain ⟨settled, credited, accepted, -⟩ := consumed.accounted
  rw [Consumer.calls_eq] at settled credited accepted
  rw [consumed.noTimer, Nat.add_zero] at settled credited
  cases outcome : handling.onMessage with
  | none =>
      rw [outcome] at settled credited accepted
      cases eagerAcceptMessage with
      | false =>
          constructor
          · intro _
            exact ⟨nofun, nofun⟩
          · intro _
            refine ⟨settled, credited, ?_⟩
            intro _ isAccepted
            exact absurd (accepted.mp isAccepted) (by simp)
      | true =>
          constructor
          · intro once
            have twice : delivery.settlements.length = 2 := settled
            rw [once.settled] at twice
            exact absurd twice (by decide)
          · intro condition
            exact absurd (condition.1 rfl) (by simp)
  | some replyData =>
      rw [outcome] at settled credited
      have resolved :
          eagerAcceptMessage = false →
            .accept ∈ delivery.settlements →
              handling.onMessage.isSome = true := by
        intro _ _
        rw [outcome]
        rfl
      cases fails :
        (replyData.truthy && Consumer.replyThrows msg handling) with
      | false =>
          simp only [fails, Bool.false_eq_true, ↓reduceIte,
            List.append_nil] at settled credited
          have once :
              delivery.settlements.length = 1 ∧
                delivery.credits.length = 1 := by
            cases eagerAcceptMessage with
            | false => exact ⟨settled, credited⟩
            | true => exact ⟨settled, credited⟩
          constructor
          · intro _
            refine ⟨fun _ => rfl, ?_⟩
            intro other same truthy
            rw [Option.some.inj same] at fails
            simpa [truthy] using fails
          · intro _
            exact ⟨once.1, once.2, resolved⟩
      | true =>
          simp only [fails, ↓reduceIte] at settled
          have twice : delivery.settlements.length = 2 := by
            cases eagerAcceptMessage with
            | false => exact settled
            | true => exact settled
          constructor
          · intro once
            rw [once.settled] at twice
            exact absurd twice (by decide)
          · intro condition
            obtain ⟨truthy, throws⟩ :=
              (Bool.and_eq_true _ _).mp fails
            rw [condition.2 replyData rfl truthy] at throws
            cases throws

/-- A message with a body, for which a reply is wanted. -/
def questionMessage : AmqpMessage where
  body := some (.str "question")
  message_id := none
  correlation_id := some "trace"
  reply_to := some "/amq/queue/answers"
  durable := true
  message_annotations := some ⟨none, none, some "trace"⟩

/-- It is delivered, passed on, accepted, and its credit returned. -/
def acceptedEvents : List SubscriptionEvent :=
  [.hear, .deliver (some questionMessage) true, .process 0,
    .call 0 .accept, .call 0 .addCredit]

/-- What is recorded of the message after that. -/
def acceptedDelivery : Delivery where
  message := some questionMessage
  first_acquirer := true
  receiver := 0
  stage := .disposed .emitted
  settlements := [.accept]
  credits := [0]
  creditPending := false
  timers := 0

/-- A question that is answered. -/
theorem settledOnce_iff_answered :
    SettledOnce false ⟨some (.str "answer"), true⟩ acceptedDelivery ↔
      (false = true →
        (some (Json.str "answer")).isSome = true) ∧
        ∀ replyData,
          some (Json.str "answer") = some replyData →
            replyData.truthy = true →
              Consumer.replyThrows questionMessage
                ⟨some (.str "answer"), true⟩ = false := by
  have consumed :
      Consumed 1 5 (fun _ => none) false ⟨some (.str "answer"), true⟩
        acceptedEvents 0 questionMessage acceptedDelivery :=
    ⟨⟨_, rfl, rfl⟩, rfl, rfl, by decide +kernel, rfl⟩
  exact settledOnce_iff consumed

/-- The same, but the answer cannot be sent and the event is released. -/
def releasedDelivery : Delivery :=
  { acceptedDelivery with
    settlements := [.release, .accept]
    credits := [0, 0] }

/--
The message has been accepted and then released, with two credits, although the
handler has resolved.
-/
theorem accepted_then_released :
    Consumed 1 5 (fun _ => none) false ⟨some (.str "answer"), false⟩
        (acceptedEvents ++ [.call 0 .release, .releaseTimer 0]) 0
        questionMessage releasedDelivery ∧
      ¬ SettledOnce false ⟨some (.str "answer"), false⟩
          releasedDelivery := by
  refine ⟨⟨⟨_, rfl, rfl⟩, rfl, rfl, by decide +kernel, rfl⟩, ?_⟩
  intro once
  exact absurd once.settled (by decide)

end Subscription

end NestBackend
