import NestBackend.AmqpMessaging
import NestBackend.EventRun

namespace NestBackend

open JavaScript

/-!
# What `receiveMessage` declares

A subscription declares its queue up to two times: together with an exchange by
`assertAMQPAddress`, and as a temporary queue by `assertTemporaryQueue`, which
is called again whenever the connection is opened.  The name of the temporary
queue is read off the address that was built before.
-/

/-- `Options.AssertQueue`, as far as the broker compares it. -/
structure AssertQueueOptions where
  durable : Option Bool
  autoDelete : Option Bool
  expires : Option Nat
  arguments : Option (List (String × Nat))
  deriving DecidableEq, Repr

/-- `IAddress`. -/
structure AmqpAddress where
  name : String
  options : Option AssertQueueOptions
  deriving DecidableEq, Repr

/-- What the management service asks of its channel. -/
inductive ChannelCall where
  | assertExchange (name type : String)
  | assertQueue (queue : String) (options : AssertQueueOptions)
  | bindQueue (queue exchange pattern : String)
  deriving DecidableEq, Repr

/-- A queue that is declared, and how. -/
def ChannelCall.declaration? :
    ChannelCall → Option (String × AssertQueueOptions)
  | .assertQueue queue options => some (queue, options)
  | _ => none

namespace AmqpManagementService

/-- `TEMPORARY_QUEUE_LIFETIME`. -/
def TEMPORARY_QUEUE_LIFETIME : Nat := 60 * 60 * 24

/-- The options of `assertTemporaryQueue`. -/
def temporaryQueueOptions : AssertQueueOptions where
  durable := some false
  autoDelete := some true
  expires := some (TEMPORARY_QUEUE_LIFETIME * 1000)
  arguments := some [("x-queue-version", 2)]

/-- The call of `assertTemporaryQueue`. -/
def temporaryQueueCall (queue : String) : ChannelCall :=
  .assertQueue queue temporaryQueueOptions

/-- `queueName` in `assertAMQPAddress`. -/
def queueName (address : AmqpAddress) (exchange : AmqpExchange) : String :=
  exchange.name ++ "_" ++ address.name

/-- `addressOptions` in `assertAMQPAddress`. -/
def addressOptions (address : AmqpAddress) : AssertQueueOptions :=
  address.options.getD ⟨none, none, none, none⟩

end AmqpManagementService

/-- The options of `receiveMessage` that decide what is declared. -/
structure ReceiveOptions where
  address : AmqpAddress
  exchange : Option AmqpExchange
  durable : Bool
  deriving DecidableEq, Repr

namespace ReceiveOptions

/-- The address that `buildAddress` hands on: its options are replaced. -/
def durableAddress (options : ReceiveOptions) : AmqpAddress :=
  { options.address with
    options := some ⟨some options.durable, none, none, none⟩ }

/-- The address that `buildAddress` resolves to. -/
def builtAddress (options : ReceiveOptions) : String :=
  match options.exchange with
  | none => AmqpService.buildAddress options.address.name
  | some exchange =>
      "/amq/queue/" ++
        AmqpManagementService.queueName options.durableAddress exchange

/-- `queueName` in `receiveMessage`. -/
def temporaryQueue (options : ReceiveOptions) : String :=
  lastPathPart options.builtAddress

end ReceiveOptions

/-- What `receiveMessage` is waiting for. -/
inductive ReceiveStage where
  | assertingExchange
  | assertingQueue
  | bindingQueue
  | assertingTemporaryQueue
  /-- The listener for opened connections is there, if there is to be one. -/
  | listening
  | failed
  deriving DecidableEq, Repr

/-- A call of `receiveMessage`, with what it has asked of the channel. -/
structure Receiving where
  options : ReceiveOptions
  stage : ReceiveStage
  calls : List ChannelCall
  deriving DecidableEq, Repr

/-- What can happen next. -/
inductive ReceivingEvent where
  /-- The broker answers what is waited for. -/
  | resolved
  | rejected
  | connectionOpen
  deriving DecidableEq, Repr

namespace Receiving

/-- Ask something of the channel, and wait. -/
def ask
    (call : ChannelCall)
    (stage : ReceiveStage)
    (state : Receiving) : Receiving :=
  { state with
    stage := stage
    calls := state.calls ++ [call] }

/-- What `receiveMessage` does once it has its address. -/
def afterAddress (state : Receiving) : Receiving :=
  if state.options.durable then
    { state with stage := .listening }
  else if state.options.temporaryQueue = "" then
    { state with stage := .failed }
  else
    state.ask
      (AmqpManagementService.temporaryQueueCall
        state.options.temporaryQueue)
      .assertingTemporaryQueue

/-- `receiveMessage` is called. -/
def start (options : ReceiveOptions) : Receiving :=
  match options.exchange with
  | none => afterAddress ⟨options, .listening, []⟩
  | some exchange =>
      if startsWith options.address.name "/" then
        ⟨options, .failed, []⟩
      else
        ⟨options, .assertingExchange,
          [.assertExchange exchange.name "topic"]⟩

/-- The broker has answered: `assertAMQPAddress` and `receiveMessage` go on. -/
def resolve (state : Receiving) : Option Receiving :=
  match state.stage, state.options.exchange with
  | .assertingExchange, some exchange =>
      some
        (state.ask
          (.assertQueue
            (AmqpManagementService.queueName state.options.durableAddress
              exchange)
            (AmqpManagementService.addressOptions
              state.options.durableAddress))
          .assertingQueue)
  | .assertingQueue, some exchange =>
      some
        (state.ask
          (.bindQueue
            (AmqpManagementService.queueName state.options.durableAddress
              exchange)
            exchange.name
            (if exchange.fanout then
              "#"
            else
              state.options.durableAddress.name))
          .bindingQueue)
  | .bindingQueue, _ => some state.afterAddress
  | .assertingTemporaryQueue, _ => some { state with stage := .listening }
  | _, _ => none

/-- What an event makes of the state, if it can happen. -/
def step (state : Receiving) : ReceivingEvent → Option Receiving
  | .resolved => state.resolve
  | .rejected =>
      match state.stage with
      | .listening => none
      | .failed => none
      | _ => some { state with stage := .failed }
  | .connectionOpen =>
      match state.stage with
      | .listening =>
          if state.options.durable then
            some state
          else
            some
              (state.ask
                (AmqpManagementService.temporaryQueueCall
                  state.options.temporaryQueue)
                .listening)
      | _ => some state

/-- The queues that have been declared, and how. -/
def declarations (state : Receiving) : List (String × AssertQueueOptions) :=
  state.calls.filterMap ChannelCall.declaration?

/-- No queue has been declared in two ways. -/
def DeclaresOnce (state : Receiving) : Prop :=
  ∀ first ∈ state.declarations,
    ∀ second ∈ state.declarations,
      first.1 = second.1 → first.2 = second.2

end Receiving

/--
A subscription is durable, or has no exchange, or its queue has a slash in its
name, so that only what comes after it is declared as a temporary queue.
-/
def ReceiveOptions.DeclareOnce (options : ReceiveOptions) : Prop :=
  options.durable = true ∨
    ∀ exchange,
      options.exchange = some exchange →
        '/' ∈
          (AmqpManagementService.queueName options.durableAddress
            exchange).toList

namespace Receiving

variable
  {state next : Receiving}
  {options : ReceiveOptions}

/-! ## What is declared -/

/-- The two declarations that there can be. -/
inductive Declared (options : ReceiveOptions) :
    String × AssertQueueOptions → Prop
  | exchange
      {exchange : AmqpExchange}
      (given : options.exchange = some exchange) :
      Declared options
        (AmqpManagementService.queueName options.durableAddress exchange,
          AmqpManagementService.addressOptions options.durableAddress)
  | temporary
      (transient : options.durable = false) :
      Declared options
        (options.temporaryQueue,
          AmqpManagementService.temporaryQueueOptions)

/-- Everything that has been declared is one of the two. -/
structure Expected (options : ReceiveOptions) (state : Receiving) : Prop where
  same : state.options = options
  declared : ∀ declaration ∈ state.declarations, Declared options declaration

/-- What is asked comes last. -/
@[simp] theorem declarations_ask
    (call : ChannelCall)
    (stage : ReceiveStage) :
    (state.ask call stage).declarations =
      state.declarations ++ call.declaration?.toList := by
  unfold declarations ask
  rw [List.filterMap_append]
  cases declares : call.declaration? <;> simp [declares]

/-- To ask for what is expected. -/
theorem Expected.ask
    {call : ChannelCall}
    {stage : ReceiveStage}
    (expected : Expected options state)
    (isExpected :
      ∀ declaration,
        call.declaration? = some declaration →
          Declared options declaration) :
    Expected options (state.ask call stage) where
  same := expected.same
  declared := by
    intro declaration member
    rw [declarations_ask] at member
    rcases List.mem_append.mp member with before | asked
    · exact expected.declared declaration before
    · exact isExpected declaration (by simpa using asked)

/-- To declare the temporary queue. -/
theorem Expected.askTemporary
    {stage : ReceiveStage}
    (expected : Expected options state)
    (transient : options.durable = false) :
    Expected options
      (state.ask
        (AmqpManagementService.temporaryQueueCall
          options.temporaryQueue)
        stage) := by
  apply expected.ask
  intro declaration isDeclared
  obtain rfl := Option.some.inj isDeclared
  exact .temporary transient

/-- To go on with the address. -/
theorem Expected.afterAddress
    (expected : Expected options state) :
    Expected options state.afterAddress := by
  unfold Receiving.afterAddress
  have same := expected.same
  split
  next => exact ⟨same, expected.declared⟩
  next transient =>
    split
    next => exact ⟨same, expected.declared⟩
    next =>
      rw [same] at transient ⊢
      exact expected.askTemporary (by simpa using transient)

/-- At first nothing but a temporary queue is declared. -/
theorem start_expected (options : ReceiveOptions) :
    Expected options (start options) := by
  unfold start
  split
  next =>
    apply Expected.afterAddress
    exact ⟨rfl, by simp [declarations]⟩
  next =>
    split
    next => exact ⟨rfl, by simp [declarations]⟩
    next => exact ⟨rfl, by simp [declarations, ChannelCall.declaration?]⟩

/-- An answer leads to what is expected. -/
theorem Expected.resolve
    (expected : Expected options state)
    (resolved : state.resolve = some next) :
    Expected options next := by
  unfold Receiving.resolve at resolved
  split at resolved
  next exchange stage given =>
    obtain rfl := Option.some.inj resolved
    apply expected.ask
    intro declaration isDeclared
    obtain rfl := Option.some.inj isDeclared
    rw [expected.same] at given ⊢
    exact .exchange given
  next exchange stage given =>
    obtain rfl := Option.some.inj resolved
    apply expected.ask
    intro declaration isDeclared
    cases isDeclared
  next =>
    obtain rfl := Option.some.inj resolved
    exact expected.afterAddress
  next =>
    obtain rfl := Option.some.inj resolved
    exact ⟨expected.same, expected.declared⟩
  next => cases resolved

/-- Every event leads to what is expected. -/
theorem Expected.step
    {event : ReceivingEvent}
    (expected : Expected options state)
    (stepped : state.step event = some next) :
    Expected options next := by
  cases event with
  | resolved => exact expected.resolve stepped
  | rejected =>
      simp only [Receiving.step] at stepped
      split at stepped
      next => cases stepped
      next => cases stepped
      next =>
        obtain rfl := Option.some.inj stepped
        exact ⟨expected.same, expected.declared⟩
  | connectionOpen =>
      simp only [Receiving.step, expected.same] at stepped
      split at stepped
      next =>
        split at stepped
        next =>
          obtain rfl := Option.some.inj stepped
          exact expected
        next transient =>
          obtain rfl := Option.some.inj stepped
          exact expected.askTemporary (by simpa using transient)
      next =>
        obtain rfl := Option.some.inj stepped
        exact expected

/-- A run declares what is expected. -/
theorem expected_run
    {events : List ReceivingEvent}
    (ran : EventRun.run? step (start options) events = some state) :
    Expected options state :=
  EventRun.keeps (fun _ expected stepped => expected.step stepped) ran
    (start_expected options)

/-! ## When the two agree -/

/-- The last part of a built address has no slash. -/
theorem slash_notMem_temporaryQueue (options : ReceiveOptions) :
    '/' ∉ options.temporaryQueue.toList :=
  slash_notMem_lastPathPart _

/-- Without a slash, the two declarations are of one queue. -/
theorem temporaryQueue_eq
    {exchange : AmqpExchange}
    (given : options.exchange = some exchange)
    (plain :
      '/' ∉
        (AmqpManagementService.queueName options.durableAddress
          exchange).toList) :
    options.temporaryQueue =
      AmqpManagementService.queueName options.durableAddress exchange := by
  have stem : "/amq/queue/" = "/amq/queue" ++ "/" := rfl
  simp only [ReceiveOptions.temporaryQueue, ReceiveOptions.builtAddress,
    given, stem]
  exact lastPathPart_append plain

/-- Two declarations of one queue are the same where they should be. -/
theorem Declared.options_eq
    {first second : String × AssertQueueOptions}
    (once : options.DeclareOnce)
    (firstDeclared : Declared options first)
    (secondDeclared : Declared options second)
    (sameQueue : first.1 = second.1) :
    first.2 = second.2 := by
  -- a temporary queue next to one of an exchange has another name
  have apart :
      ∀ {exchange : AmqpExchange},
        options.exchange = some exchange →
        options.durable = false →
        AmqpManagementService.queueName options.durableAddress exchange ≠
          options.temporaryQueue := by
    intro exchange given transient same
    rcases once with durable | slash
    · rw [transient] at durable
      cases durable
    · have member := slash exchange given
      rw [same] at member
      exact slash_notMem_temporaryQueue options member
  cases firstDeclared with
  | exchange given =>
      cases secondDeclared with
      | exchange otherGiven => rfl
      | temporary transient => exact absurd sameQueue (apart given transient)
  | temporary transient =>
      cases secondDeclared with
      | exchange given =>
          exact absurd sameQueue.symm (apart given transient)
      | temporary otherTransient => rfl

/-- A transient subscription to an exchange, once all of it has been asked. -/
def assertedTwice
    (options : ReceiveOptions)
    (exchange : AmqpExchange) : Receiving :=
  let queueName :=
    AmqpManagementService.queueName options.durableAddress exchange
  { options := options
    stage := .assertingTemporaryQueue
    calls :=
      [.assertExchange exchange.name "topic",
        .assertQueue queueName
          (AmqpManagementService.addressOptions options.durableAddress),
        .bindQueue queueName exchange.name
          (if exchange.fanout then "#" else options.durableAddress.name),
        AmqpManagementService.temporaryQueueCall queueName] }

/-- A queue without a slash in its name is asserted twice in one run. -/
theorem run_assertedTwice
    {exchange : AmqpExchange}
    (transient : options.durable = false)
    (given : options.exchange = some exchange)
    (plain :
      '/' ∉
        (AmqpManagementService.queueName options.durableAddress
          exchange).toList) :
    EventRun.run? step (start options) [.resolved, .resolved, .resolved] =
      some (assertedTwice options exchange) := by
  have noSlash : startsWith options.address.name "/" = false := by
    by_contra starts
    have named : '/' ∈ options.address.name.toList :=
      AmqpService.slash_mem_of_startsWith (by simpa using starts)
    apply plain
    rw [AmqpManagementService.queueName, String.toList_append]
    exact List.mem_append_right _ named
  have sameQueue := temporaryQueue_eq given plain
  have named :
      AmqpManagementService.queueName options.durableAddress exchange ≠
        "" := by
    simp [AmqpManagementService.queueName]
  simp only [EventRun.run?, List.foldlM_cons, List.foldlM_nil, start,
    given, noSlash, Bool.false_eq_true, ↓reduceIte, step, resolve, ask,
    afterAddress, transient, sameQueue, named, Option.bind_eq_bind,
    Option.bind_some]
  rfl

/-- The two assertions are different. -/
theorem not_declaresOnce_assertedTwice
    (options : ReceiveOptions)
    (exchange : AmqpExchange) :
    ¬ (assertedTwice options exchange).DeclaresOnce := by
  intro once
  have same :=
    once
      (AmqpManagementService.queueName options.durableAddress exchange,
        AmqpManagementService.addressOptions options.durableAddress)
      (by simp [declarations, assertedTwice, ChannelCall.declaration?])
      (AmqpManagementService.queueName options.durableAddress exchange,
        AmqpManagementService.temporaryQueueOptions)
      (by
        simp [declarations, assertedTwice, ChannelCall.declaration?,
          AmqpManagementService.temporaryQueueCall])
      rfl
  -- only the temporary queue is to be deleted by itself
  have sameDeletion := congrArg AssertQueueOptions.autoDelete same
  cases sameDeletion

/--
A subscription declares each queue in one way, however often the connection is
opened, exactly if it is durable, has no exchange, or has a slash in the name of
the queue.
-/
theorem declaresOnce_iff (options : ReceiveOptions) :
    (∀ events state,
      EventRun.run? step (start options) events = some state →
        state.DeclaresOnce) ↔
      options.DeclareOnce := by
  constructor
  · intro always
    by_contra twice
    obtain ⟨transient, noSlash⟩ := not_or.mp twice
    obtain ⟨exchange, given⟩ := not_forall.mp noSlash
    obtain ⟨given, plain⟩ := Classical.not_imp.mp given
    exact
      not_declaresOnce_assertedTwice options exchange
        (always _ _
          (run_assertedTwice (by simpa using transient) given plain))
  · intro once events state ran first firstMember second secondMember
    have expected := expected_run ran
    exact
      Declared.options_eq once (expected.declared first firstMember)
        (expected.declared second secondMember)

/-! ## What the broker answers -/

/-- A queue that has just been declared is not declared in another way. -/
theorem assertQueue_transient_of_lasting
    {topology declared bound : AmqpTopology}
    {name : String}
    (asserted : topology.assertQueue ⟨name, false, false⟩ = some declared)
    (sameQueues : bound.queues = declared.queues) :
    bound.assertQueue ⟨name, false, true⟩ = none := by
  have found :
      declared.queues.find? (fun queue => queue.name = name) =
        some ⟨name, false, false⟩ := by
    unfold AmqpTopology.assertQueue at asserted
    split at asserted
    next absent =>
      obtain rfl := Option.some.inj asserted
      rw [List.find?_append, absent]
      simp
    next queue present =>
      split at asserted
      next same =>
        obtain rfl := Option.some.inj asserted
        rw [present, same]
      next => cases asserted
  unfold AmqpTopology.assertQueue
  rw [sameQueues, found]
  exact if_neg (by simp)

/--
A subscription that would declare a queue in two ways is refused, whatever has
been declared before.
-/
theorem receiveMessage_refused
    {exchange : AmqpExchange}
    (transient : options.durable = false)
    (given : options.exchange = some exchange)
    (plain :
      '/' ∉
        (AmqpManagementService.queueName options.durableAddress
          exchange).toList)
    (topology : AmqpTopology) :
    AmqpService.receiveMessage options.address.name options.exchange
        options.durable topology =
      none := by
  have sameQueue := temporaryQueue_eq given plain
  simp only [ReceiveOptions.temporaryQueue, ReceiveOptions.builtAddress,
    given, AmqpManagementService.queueName,
    ReceiveOptions.durableAddress] at sameQueue
  simp only [AmqpService.receiveMessage, AmqpService.buildAddressIn, given,
    transient, AmqpManagementService.assertAMQPAddress]
  split
  next => rfl
  next =>
    cases asserted :
        topology.assertQueue
          ⟨exchange.name ++ "_" ++ options.address.name, false, false⟩ with
    | none => rfl
    | some declared =>
        simp only [Option.map_some, Option.bind_eq_bind, Option.bind_some,
          Bool.false_eq_true, ↓reduceIte, AmqpService.assertQueueOf,
          sameQueue]
        split
        next => rfl
        next =>
          rw [assertQueue_transient_of_lasting asserted]
          · rfl
          · rfl

/--
A transient subscription to an exchange declares its queue as not durable, and
then once more as one that deletes itself, expires, and has a version.
-/
theorem transient_queue_declared_twice :
    ¬ ∀ events state,
        EventRun.run? step
            (start ⟨⟨"test", none⟩, some ⟨"orders", false⟩, false⟩) events =
          some state →
            state.DeclaresOnce := by
  intro always
  have once :=
    always [.resolved, .resolved, .resolved] _ rfl
      ("orders_test", ⟨some false, none, none, none⟩) (by decide)
      ("orders_test", AmqpManagementService.temporaryQueueOptions)
      (by decide) rfl
  cases once

end Receiving

end NestBackend
