import NestBackend.EventRun
import NestBackend.TemporaryQueues

namespace NestBackend

/-!
# How `AmqpService.sendMessage` ends

`sendMessage` waits for the queue to be declared, then for its sender to open,
and then for its transfer to be accepted.  The try block that closes the sender
begins after the sender was found to have credit, and inside it nothing but
`accepted` is waited for.  What else the sender emits is logged and no more; a
sender that the broker closes is closed without `sendMessage` doing anything.
-/

/-- `ISendMessage` as it is passed, with its session if there is one. -/
structure SendRequest extends SendMessage where
  session : Bool
  closeSession : Bool

/-- What becomes of a transfer at the broker. -/
inductive TransferOutcome where
  | accepted
  | rejected
  | released
  | modified
  deriving DecidableEq, Repr

/-- What a sender emits that `sendMessage` does no more than log. -/
inductive SenderNotice where
  | senderError
  | senderDraining
  | senderClose
  deriving DecidableEq, Repr

/-- What can happen while a message is sent. -/
inductive SendingEvent where
  /-- `assertTemporaryQueue` resolves. -/
  | asserted
  /-- `assertTemporaryQueue` rejects. -/
  | assertFailed
  /-- `sender_open` is emitted, and the sender has credit or not. -/
  | senderOpen (sendable : Bool)
  /-- The event of the transfer is emitted. -/
  | settled (outcome : TransferOutcome)
  /-- The sender emits something else. -/
  | notice (notice : SenderNotice)
  deriving DecidableEq, Repr

/-- What `sendMessage` throws. -/
inductive SendFailure where
  | assertTemporaryQueue
  /-- "Message quota exceeded. Please retry later ok". -/
  | serviceUnavailable
  deriving DecidableEq, Repr

/-- What `sendMessage` is waiting for, or how it has finished. -/
inductive SendPhase where
  | asserting
  | opening
  /-- The delivery is that of the message that was sent. -/
  | settling (delivery : AmqpMessage)
  | finished (result : Except SendFailure AmqpMessage)

/-- A sender that `open_sender` has made. -/
structure Sender where
  address : String
  /-- The target is `durable: 2` and never expires. -/
  durable : Bool
  closed : Bool
  deriving DecidableEq, Repr

/-- A message on its way, and what became of its transfer. -/
structure Sending where
  request : SendRequest
  phase : SendPhase
  sender : Option Sender
  outcome : Option TransferOutcome
  sessionClosed : Bool

namespace Sending

/-- `open_sender` is called. -/
def openSender (state : Sending) : Sending :=
  { state with
    phase := .opening
    sender :=
      some
        { address := AmqpService.sendAddress state.request.address
          durable := state.request.durable
          closed := false } }

/-- `sendMessage` is called: a durable queue is not declared. -/
def start (request : SendRequest) : Sending :=
  let state : Sending :=
    { request
      phase := .asserting
      sender := none
      outcome := none
      sessionClosed := false }
  if request.durable then state.openSender else state

/-- `sendMessage` finishes before the try block. -/
def failWith (failure : SendFailure) (state : Sending) : Sending :=
  { state with phase := .finished (.error failure) }

/-- The try block is entered and the message sent. -/
def send (state : Sending) : Sending :=
  { state with
    phase :=
      .settling (AmqpService.outgoing state.request.toSendMessage) }

/-- The sender is closed, by `sendMessage` or by the broker. -/
def closeSender (state : Sending) : Sending :=
  { state with
    sender :=
      state.sender.map (fun sender => { sender with closed := true }) }

/-- The rest of the try block and the finally block, once accepted. -/
def returnDelivery (delivery : AmqpMessage) (state : Sending) : Sending :=
  { state.closeSender with
    phase := .finished (.ok delivery)
    sessionClosed := state.request.closeSession && state.request.session }

/-- What an event makes of the state, if it can happen. -/
def step (state : Sending) : SendingEvent → Option Sending
  | .asserted =>
      match state.phase with
      | .asserting => some state.openSender
      | _ => none
  | .assertFailed =>
      match state.phase with
      | .asserting => some (state.failWith .assertTemporaryQueue)
      | _ => none
  | .senderOpen sendable =>
      match state.phase with
      | .opening =>
          some
            (if sendable then
              state.send
            else
              state.failWith .serviceUnavailable)
      | _ => none
  | .settled outcome =>
      match state.phase, state.outcome with
      | .settling delivery, none =>
          let settled := { state with outcome := some outcome }
          -- only `accepted` is listened to
          some
            (if outcome = .accepted then
              settled.returnDelivery delivery
            else
              settled)
      | _, _ => none
  | .notice notice =>
      if state.sender.isSome then
        some (if notice = .senderClose then state.closeSender else state)
      else
        none

/-- Nothing can happen any more, save what is only logged. -/
def Over (state : Sending) : Prop :=
  ∀ event, (∀ notice, event ≠ .notice notice) → state.step event = none

/-- `sendMessage` has thrown. -/
def Threw (state : Sending) : Prop :=
  ∃ failure, state.phase = .finished (.error failure)

/-- `sendMessage` has returned a delivery. -/
def Returned (state : Sending) : Prop :=
  ∃ delivery, state.phase = .finished (.ok delivery)

/--
`sendMessage` has returned a delivery exactly when the transfer was accepted,
has thrown otherwise, and has closed its sender if it has finished.
-/
structure FinishedTruthfully (state : Sending) : Prop where
  returns : state.Returned ↔ state.outcome = some .accepted
  throws : state.outcome ≠ some .accepted → state.Threw
  closes :
    ∀ result,
      state.phase = .finished result →
        ∀ sender, state.sender = some sender → sender.closed = true

variable
  {state next : Sending}

/-! ## What an event can do -/

/-- The cases in which something happens. -/
inductive StepCase (state : Sending) : SendingEvent → Sending → Prop
  | asserted
      (asserting : state.phase = .asserting) :
      StepCase state .asserted state.openSender
  | assertFailed
      (asserting : state.phase = .asserting) :
      StepCase state .assertFailed (state.failWith .assertTemporaryQueue)
  | credited
      (opening : state.phase = .opening) :
      StepCase state (.senderOpen true) state.send
  | refused
      (opening : state.phase = .opening) :
      StepCase state (.senderOpen false)
        (state.failWith .serviceUnavailable)
  | accepted
      {delivery : AmqpMessage}
      (settling : state.phase = .settling delivery)
      (unsettled : state.outcome = none) :
      StepCase state (.settled .accepted)
        (({ state with outcome := some .accepted }).returnDelivery delivery)
  | unheard
      {delivery : AmqpMessage}
      {outcome : TransferOutcome}
      (other : outcome ≠ .accepted)
      (settling : state.phase = .settling delivery)
      (unsettled : state.outcome = none) :
      StepCase state (.settled outcome) { state with outcome := some outcome }
  | senderClose
      (opened : state.sender.isSome = true) :
      StepCase state (.notice .senderClose) state.closeSender
  | logged
      {notice : SenderNotice}
      (other : notice ≠ .senderClose)
      (opened : state.sender.isSome = true) :
      StepCase state (.notice notice) state

/-- What happens is one of the cases. -/
theorem step_cases
    {event : SendingEvent}
    (stepped : state.step event = some next) :
    StepCase state event next := by
  cases event with
  | asserted =>
      simp only [step] at stepped
      split at stepped
      next asserting =>
        obtain rfl := Option.some.inj stepped
        exact .asserted asserting
      next => cases stepped
  | assertFailed =>
      simp only [step] at stepped
      split at stepped
      next asserting =>
        obtain rfl := Option.some.inj stepped
        exact .assertFailed asserting
      next => cases stepped
  | senderOpen sendable =>
      simp only [step] at stepped
      split at stepped
      next opening =>
        obtain rfl := Option.some.inj stepped
        cases sendable with
        | true => exact .credited opening
        | false => exact .refused opening
      next => cases stepped
  | settled outcome =>
      simp only [step] at stepped
      split at stepped
      next settling unsettled =>
        obtain rfl := Option.some.inj stepped
        by_cases isAccepted : outcome = .accepted
        · subst isAccepted
          exact .accepted settling unsettled
        · rw [if_neg isAccepted]
          exact .unheard isAccepted settling unsettled
      next => cases stepped
  | notice notice =>
      simp only [step] at stepped
      split at stepped
      next opened =>
        obtain rfl := Option.some.inj stepped
        by_cases closes : notice = .senderClose
        · subst closes
          exact .senderClose opened
        · rw [if_neg closes]
          exact .logged closes opened
      next => cases stepped

/-! ## What is true of a message on its way -/

/-- `sendMessage` waits for its transfer. -/
def Settling (state : Sending) : Prop :=
  ∃ delivery, state.phase = .settling delivery

/-- The queue could not be declared. -/
def Undeclared (state : Sending) : Prop :=
  state.phase = .finished (.error .assertTemporaryQueue)

/-- The sender had no credit. -/
def Refused (state : Sending) : Prop :=
  state.phase = .finished (.error .serviceUnavailable)

/-- There is a sender, and it is closed. -/
def Closed (state : Sending) : Prop :=
  ∃ sender, state.sender = some sender ∧ sender.closed = true

/-- Closing closes the sender that there is. -/
theorem closeSender_closed
    (opened : state.sender.isSome = true) :
    state.closeSender.Closed := by
  obtain ⟨sender, isSender⟩ := Option.isSome_iff_exists.mp opened
  exact ⟨{ sender with closed := true }, by simp [closeSender, isSender]⟩

/-- What every state of a run satisfies. -/
structure Coherent (state : Sending) : Prop where
  /-- There is no sender before the queue is declared. -/
  unopened :
    state.sender = none ↔ state.phase = .asserting ∨ state.Undeclared
  /-- A delivery is returned where the transfer was accepted. -/
  accepted : state.Returned ↔ state.outcome = some .accepted
  /-- Only a transfer has an outcome. -/
  settles : state.outcome ≠ none → state.Settling ∨ state.Returned
  /-- Where a delivery is returned, the sender is closed. -/
  closes : state.Returned → state.Closed

/-- Nothing has happened to a message yet. -/
theorem start_coherent
    (request : SendRequest) :
    (start request).Coherent := by
  cases durable : request.durable with
  | false =>
      constructor <;>
        simp [start, durable, Undeclared, Returned, Settling]
  | true =>
      constructor <;>
        simp [start, durable, openSender, Undeclared, Returned, Settling]

/-- A message that is not being transferred has no outcome yet. -/
theorem Coherent.noOutcome
    (coherent : state.Coherent)
    (unsettling : ¬ state.Settling)
    (unreturned : ¬ state.Returned) :
    state.outcome = none := by
  by_contra settled
  exact (coherent.settles settled).elim unsettling unreturned

/-- Whoever waits for the transfer has a sender. -/
theorem Coherent.isSome_sender
    (coherent : state.Coherent)
    (asserted : state.phase ≠ .asserting)
    (declared : ¬ state.Undeclared) :
    state.sender.isSome = true := by
  rw [Option.isSome_iff_ne_none, Ne, coherent.unopened]
  exact not_or.mpr ⟨asserted, declared⟩

/-- Every event keeps it so. -/
theorem Coherent.step
    {event : SendingEvent}
    (coherent : state.Coherent)
    (stepped : state.step event = some next) :
    next.Coherent := by
  cases step_cases stepped with
  | asserted asserting =>
      have noOutcome : state.outcome = none := by
        apply coherent.noOutcome <;> simp [Settling, Returned, asserting]
      constructor <;>
        simp [openSender, Undeclared, Returned, Settling, noOutcome]
  | assertFailed asserting =>
      have noOutcome : state.outcome = none := by
        apply coherent.noOutcome <;> simp [Settling, Returned, asserting]
      have unopened := coherent.unopened.mpr (.inl asserting)
      constructor <;>
        simp [failWith, Undeclared, Returned, Settling, noOutcome, unopened]
  | credited opening =>
      have noOutcome : state.outcome = none := by
        apply coherent.noOutcome <;> simp [Settling, Returned, opening]
      have opened :=
        coherent.isSome_sender (by simp [opening])
          (by simp [Undeclared, opening])
      constructor <;>
        simp [send, Undeclared, Returned, Settling, noOutcome,
          Option.isSome_iff_ne_none.mp opened]
  | refused opening =>
      have noOutcome : state.outcome = none := by
        apply coherent.noOutcome <;> simp [Settling, Returned, opening]
      have opened :=
        coherent.isSome_sender (by simp [opening])
          (by simp [Undeclared, opening])
      constructor <;>
        simp [failWith, Undeclared, Returned, Settling, noOutcome,
          Option.isSome_iff_ne_none.mp opened]
  | accepted settling unsettled =>
      have opened :=
        coherent.isSome_sender (by simp [settling])
          (by simp [Undeclared, settling])
      obtain ⟨sender, isSender⟩ := Option.isSome_iff_exists.mp opened
      constructor <;>
        simp [returnDelivery, closeSender, Undeclared, Returned, Settling,
          Closed, isSender]
  | unheard other settling unsettled =>
      have opened :=
        coherent.isSome_sender (by simp [settling])
          (by simp [Undeclared, settling])
      constructor <;>
        simp [Undeclared, Returned, Settling, settling, other,
          Option.isSome_iff_ne_none.mp opened]
  | senderClose opened =>
      obtain ⟨unopened, accepted, settles, closes⟩ := coherent
      refine ⟨?_, accepted, settles, fun _ => closeSender_closed opened⟩
      simpa [closeSender, Undeclared] using unopened
  | logged other opened => exact coherent

/-- So it is after any run. -/
theorem start_coherent_run
    {request : SendRequest}
    {events : List SendingEvent}
    {final : Sending}
    (ran : EventRun.run? step (start request) events = some final) :
    final.Coherent :=
  EventRun.keeps
    (fun _ coherent stepped => Coherent.step coherent stepped)
    ran (start_coherent request)

/-! ## What the events decide -/

/-- Only the failed declaration leaves the queue undeclared. -/
theorem undeclared_step
    {event : SendingEvent}
    (stepped : state.step event = some next) :
    next.Undeclared ↔ state.Undeclared ∨ event = .assertFailed := by
  cases step_cases stepped with
  | asserted asserting => simp [Undeclared, openSender, asserting]
  | assertFailed asserting => simp [Undeclared, failWith]
  | credited opening => simp [Undeclared, send, opening]
  | refused opening => simp [Undeclared, failWith, opening]
  | accepted settling unsettled =>
      simp [Undeclared, returnDelivery, settling]
  | unheard other settling unsettled => simp [Undeclared, settling]
  | senderClose opened => simp [Undeclared, closeSender]
  | logged other opened => simp

/-- Only an opening without credit is refused. -/
theorem refused_step
    {event : SendingEvent}
    (stepped : state.step event = some next) :
    next.Refused ↔ state.Refused ∨ event = .senderOpen false := by
  cases step_cases stepped with
  | asserted asserting => simp [Refused, openSender, asserting]
  | assertFailed asserting => simp [Refused, failWith, asserting]
  | credited opening => simp [Refused, send, opening]
  | refused opening => simp [Refused, failWith]
  | accepted settling unsettled => simp [Refused, returnDelivery, settling]
  | unheard other settling unsettled => simp [Refused, settling]
  | senderClose opened => simp [Refused, closeSender]
  | logged other opened => simp

/-- Only its own event accepts the transfer. -/
theorem accepted_step
    {event : SendingEvent}
    (stepped : state.step event = some next) :
    next.outcome = some .accepted ↔
      state.outcome = some .accepted ∨ event = .settled .accepted := by
  cases step_cases stepped with
  | asserted asserting => simp [openSender]
  | assertFailed asserting => simp [failWith]
  | credited opening => simp [send]
  | refused opening => simp [failWith]
  | accepted settling unsettled => simp [returnDelivery, closeSender]
  | unheard other settling unsettled =>
      simp [unsettled, other]
  | senderClose opened => simp [closeSender]
  | logged other opened => simp

/-- A sender is closed when the transfer is accepted, or by the broker. -/
theorem Coherent.closed_step
    {event : SendingEvent}
    (coherent : state.Coherent)
    (stepped : state.step event = some next) :
    next.Closed ↔
      state.Closed ∨
        (event = .settled .accepted ∨ event = .notice .senderClose) := by
  cases step_cases stepped with
  | asserted asserting =>
      have unopened := coherent.unopened.mpr (.inl asserting)
      simp [Closed, openSender, unopened]
  | assertFailed asserting => simp [Closed, failWith]
  | credited opening => simp [Closed, send]
  | refused opening => simp [Closed, failWith]
  | accepted settling unsettled =>
      have opened :=
        coherent.isSome_sender (by simp [settling])
          (by simp [Undeclared, settling])
      have closed := closeSender_closed opened
      simpa [Closed, returnDelivery, closeSender] using closed
  | unheard other settling unsettled => simp [Closed, other]
  | senderClose opened => simp [closeSender_closed opened]
  | logged other opened => simp [other]

/-- What every event decides alone is decided by the events of a run. -/
theorem Coherent.decided_run
    {Decided : Sending → Prop}
    {Deciding : SendingEvent → Prop}
    (decides :
      ∀ {state next : Sending} {event : SendingEvent},
        state.Coherent →
          state.step event = some next →
          (Decided next ↔ Decided state ∨ Deciding event))
    {start final : Sending}
    {events : List SendingEvent}
    (coherent : start.Coherent)
    (ran : EventRun.run? Sending.step start events = some final) :
    Decided final ↔ Decided start ∨ ∃ event ∈ events, Deciding event := by
  induction events generalizing start with
  | nil =>
      obtain rfl := Option.some.inj ran
      simp
  | cons event rest inductionHypothesis =>
      obtain ⟨next, stepped, ranRest⟩ := EventRun.run?_cons.mp ran
      rw [inductionHypothesis (coherent.step stepped) ranRest,
        decides coherent stepped, or_assoc]
      simp

/-! ## The end of `sendMessage` -/

/--
It ends well where it opens no sender, has its transfer accepted, or has its
sender closed by the broker.
-/
theorem Coherent.finishedTruthfully_cases
    (coherent : state.Coherent) :
    state.FinishedTruthfully ↔
      state.Undeclared ∨ state.outcome = some .accepted ∨
        state.Refused ∧ state.Closed := by
  constructor
  · rintro ⟨-, throws, closes⟩
    by_cases accepted : state.outcome = some .accepted
    · exact .inr (.inl accepted)
    · obtain ⟨failure, threw⟩ := throws accepted
      cases failure with
      | assertTemporaryQueue => exact .inl threw
      | serviceUnavailable =>
          have opened :=
            coherent.isSome_sender (by simp [threw])
              (by simp [Undeclared, threw])
          obtain ⟨sender, isSender⟩ := Option.isSome_iff_exists.mp opened
          have closed := closes _ threw sender isSender
          exact .inr (.inr ⟨threw, sender, isSender, closed⟩)
  · have closesAll :
        state.Closed →
          ∀ result,
            state.phase = .finished result →
              ∀ sender,
                state.sender = some sender → sender.closed = true := by
      rintro ⟨closed, isClosed, closes⟩ _ _ sender isSender
      obtain rfl := Option.some.inj (isClosed.symm.trans isSender)
      exact closes
    rintro (undeclared | accepted | ⟨refused, closed⟩)
    · have unopened := coherent.unopened.mpr (.inr undeclared)
      refine ⟨coherent.accepted, fun _ => ⟨_, undeclared⟩, ?_⟩
      intro _ _ sender isSender
      rw [unopened] at isSender
      cases isSender
    · have closed := coherent.closes (coherent.accepted.mpr accepted)
      exact
        ⟨coherent.accepted, fun other => absurd accepted other,
          closesAll closed⟩
    · exact ⟨coherent.accepted, fun _ => ⟨_, refused⟩, closesAll closed⟩

/--
`sendMessage` finishes with the truth, and leaves no sender open, exactly where
its queue cannot be declared, its transfer is accepted, or its sender has no
credit and is closed by the broker.
-/
theorem finishedTruthfully_iff
    {request : SendRequest}
    {events : List SendingEvent}
    {final : Sending}
    (ran : EventRun.run? step (start request) events = some final) :
    final.FinishedTruthfully ↔
      .assertFailed ∈ events ∨ .settled .accepted ∈ events ∨
        .senderOpen false ∈ events ∧ .notice .senderClose ∈ events := by
  have coherent := start_coherent request
  have fresh :
      ¬ (start request).Undeclared ∧ ¬ (start request).Refused ∧
        (start request).outcome ≠ some .accepted ∧
        ¬ (start request).Closed := by
    cases durable : request.durable <;>
      simp [start, durable, openSender, Undeclared, Refused, Closed]
  obtain ⟨declared, allowed, unaccepted, unclosed⟩ := fresh
  have undeclared : final.Undeclared ↔ .assertFailed ∈ events := by
    rw [coherent.decided_run (fun _ => undeclared_step) ran]
    simp [declared]
  have refused : final.Refused ↔ .senderOpen false ∈ events := by
    rw [coherent.decided_run (fun _ => refused_step) ran]
    simp [allowed]
  have accepted :
      final.outcome = some .accepted ↔ .settled .accepted ∈ events := by
    rw [coherent.decided_run (fun _ => accepted_step) ran]
    simp [unaccepted]
  have closed :
      final.Closed ↔
        .settled .accepted ∈ events ∨ .notice .senderClose ∈ events := by
    rw [coherent.decided_run Coherent.closed_step ran]
    simp [unclosed, and_or_left, exists_or]
  rw [(start_coherent_run ran).finishedTruthfully_cases, undeclared, refused,
    accepted, closed]
  tauto

/-- A message to a durable queue. -/
def greeting : SendRequest where
  address := "test"
  message := some (.str "hello")
  traceId := "1"
  durable := true
  replyTo := none
  receiverId := none
  session := false
  closeSession := false

/-- The greeting is sent and accepted. -/
theorem finishedTruthfully_iff_greeting :
    ∃ final,
      EventRun.run? step (start greeting)
          [.senderOpen true, .settled .accepted] =
        some final ∧
      (final.FinishedTruthfully ↔
        .assertFailed ∈
            [SendingEvent.senderOpen true, .settled .accepted] ∨
          .settled .accepted ∈
            [SendingEvent.senderOpen true, .settled .accepted] ∨
          .senderOpen false ∈
              [SendingEvent.senderOpen true, .settled .accepted] ∧
            .notice .senderClose ∈
              [SendingEvent.senderOpen true, .settled .accepted]) := by
  refine ⟨_, rfl, ?_⟩
  apply finishedTruthfully_iff
  show EventRun.run? step (start greeting) _ = _
  rfl

/--
The greeting is sent and released: it is waited for forever.  Without credit,
the sender stays open.
-/
theorem released_or_refused :
    (∃ final,
      EventRun.run? step (start greeting)
          [.senderOpen true, .settled .released] =
        some final ∧
      final.Over ∧ ¬ final.FinishedTruthfully) ∧
      ∃ final,
        EventRun.run? step (start greeting) [.senderOpen false] =
          some final ∧
        final.Over ∧ ¬ final.FinishedTruthfully := by
  constructor
  · refine ⟨_, rfl, ?_, ?_⟩
    · intro event listened
      cases event with
      | asserted => rfl
      | assertFailed => rfl
      | senderOpen sendable => rfl
      | settled outcome => rfl
      | notice notice => exact absurd rfl (listened notice)
    · rintro ⟨-, throws, -⟩
      obtain ⟨failure, threw⟩ := throws (by decide)
      cases threw
  · refine ⟨_, rfl, ?_, ?_⟩
    · intro event listened
      cases event with
      | asserted => rfl
      | assertFailed => rfl
      | senderOpen sendable => rfl
      | settled outcome => rfl
      | notice notice => exact absurd rfl (listened notice)
    · rintro ⟨-, -, closes⟩
      have closed := closes _ rfl _ rfl
      cases closed

end Sending

end NestBackend
