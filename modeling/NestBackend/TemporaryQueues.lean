import NestBackend.AmqpReceiving

namespace NestBackend

open JavaScript

/-!
# The temporary queues that senders and receivers declare

Which queue `sendMessage` and `receiveMessage` declare for a name, and which
one they publish to and consume from.  The broker knows queues by their names;
what an address denotes is up to it, save that an address that begins with
`/amq/queue/` denotes the queue named by the rest.
-/

/-- `text.split("/").pop()`: what comes after the last slash. -/
def JavaScript.lastPathPart (text : String) : String :=
  String.ofList
    (text.toList.reverse.takeWhile (fun char => char != '/')).reverse

/-- There is no slash after the last slash. -/
theorem JavaScript.slash_notMem_lastPathPart (text : String) :
    '/' ∉ (lastPathPart text).toList := by
  intro member
  rw [lastPathPart, String.toList_ofList, List.mem_reverse] at member
  have isOther := List.mem_takeWhile_imp member
  simp at isOther

/-- A text without a slash is all there is after the last one. -/
theorem JavaScript.lastPathPart_append
    {stem name : String}
    (plain : '/' ∉ name.toList) :
    lastPathPart (stem ++ "/" ++ name) = name := by
  have slash : "/".toList = ['/'] := rfl
  unfold lastPathPart
  rw [String.toList_append, String.toList_append, slash,
    List.reverse_append, List.takeWhile_append_of_pos]
  · simp
  · intro char member
    have different : char ≠ '/' := by
      rintro rfl
      exact plain (List.mem_reverse.mp member)
    simpa using different

/-- How the broker reads an address. -/
structure Addressing where
  denotes : String → Option String
  ofQueue : ∀ queue, denotes ("/amq/queue/" ++ queue) = some queue

/-- The queues that have been declared, and what was published to them. -/
structure QueueBroker where
  declared : List String
  messages : String → List String

namespace QueueBroker

/-- `assertQueue`. -/
def assertQueue (queue : String) (broker : QueueBroker) : QueueBroker :=
  if queue ∈ broker.declared then
    broker
  else
    { broker with declared := broker.declared ++ [queue] }

/--
Publish to an address; the message is accepted when the address denotes a queue
that has been declared.
-/
def publish
    (addressing : Addressing)
    (address message : String)
    (broker : QueueBroker) : QueueBroker × Bool :=
  match addressing.denotes address with
  | none => (broker, false)
  | some queue =>
      if queue ∈ broker.declared then
        ({ broker with
            messages :=
              Function.update broker.messages queue
                (broker.messages queue ++ [message]) },
          true)
      else
        (broker, false)

end QueueBroker

/-- `assertTemporaryQueue`. -/
def AmqpManagementService.assertTemporaryQueue
    (queue : String)
    (broker : QueueBroker) : QueueBroker :=
  broker.assertQueue queue

namespace AmqpService

/-- The address that `sendMessage` sends to. -/
def sendAddress (address : String) : String :=
  if startsWith address "/" then address else "/amq/queue/" ++ address

/-- `buildAddress` for an address without an exchange. -/
def buildAddress (name : String) : String :=
  if startsWith name "/" then name else "/amq/queue/" ++ name

/-- What `sendMessage` does at the broker, and whether it resolves. -/
def sendTo
    (addressing : Addressing)
    (durable : Bool)
    (address message : String)
    (broker : QueueBroker) : QueueBroker × Bool :=
  let address := sendAddress address
  let asserted :=
    if durable then
      broker
    else
      AmqpManagementService.assertTemporaryQueue address broker
  asserted.publish addressing address message

/-- The queue that `receiveMessage` declares; it throws for an empty name. -/
def receivedQueue (name : String) : Option String :=
  let queueName := lastPathPart (buildAddress name)
  if queueName = "" then none else some queueName

/--
What `receiveMessage` does at the broker for a queue that is not durable, and
the queue that it consumes from.
-/
def receiveFrom
    (addressing : Addressing)
    (name : String)
    (broker : QueueBroker) : Option (QueueBroker × Option String) :=
  (receivedQueue name).map fun queueName =>
    (AmqpManagementService.assertTemporaryQueue queueName broker,
      addressing.denotes (buildAddress name))

end AmqpService

/-- How a sender may name the queue that is received under a name. -/
inductive SendTarget where
  | name
  | queueAddress
  | replyTo
  deriving DecidableEq, Repr

/-- What the sender passes to `sendMessage`. -/
def SendTarget.address (name : String) : SendTarget → String
  | .name => name
  | .queueAddress => "/amq/queue/" ++ name
  | .replyTo => AmqpService.buildAddress name

/-- The queue is sent to or received from. -/
inductive QueueUse where
  | send (target : SendTarget) (message : String)
  | receive
  deriving DecidableEq, Repr

/-- Who has done what with a queue so far. -/
structure QueueExchange where
  broker : QueueBroker
  accepted : List String
  reads : Option String

namespace QueueExchange

variable
  (addressing : Addressing)
  (name : String)

/-- Nothing has been declared. -/
def empty : QueueExchange :=
  ⟨⟨[], fun _ => []⟩, [], none⟩

/-- The queue is used once more. -/
def use (exchange : QueueExchange) : QueueUse → QueueExchange
  | .send target message =>
      let (broker, accepted) :=
        AmqpService.sendTo addressing false (target.address name) message
          exchange.broker
      { exchange with
        broker := broker
        accepted :=
          if accepted then exchange.accepted ++ [message]
          else exchange.accepted }
  | .receive =>
      match AmqpService.receiveFrom addressing name exchange.broker with
      | some (broker, reads) =>
          { exchange with broker := broker, reads := reads }
      | none => exchange

/-- The queue is used several times. -/
def useAll (exchange : QueueExchange) (uses : List QueueUse) :
    QueueExchange :=
  uses.foldl (use addressing name) exchange

/--
There is a queue that the receiver reads, no other has been declared, and every
message that was accepted is in it.
-/
structure Agreed (exchange : QueueExchange) : Prop where
  queue : ∃ queue, exchange.reads = some queue
  only :
    ∀ queue ∈ exchange.broker.declared, exchange.reads = some queue
  arrives :
    ∀ queue,
      exchange.reads = some queue →
        ∀ message ∈ exchange.accepted,
          message ∈ exchange.broker.messages queue

variable
  {addressing}
  {name}
  {exchange : QueueExchange}

/-- Declaring a queue leaves it declared, and the others too. -/
theorem mem_assertQueue
    {queue other : String}
    {broker : QueueBroker} :
    other ∈ (broker.assertQueue queue).declared ↔
      other = queue ∨ other ∈ broker.declared := by
  unfold QueueBroker.assertQueue
  by_cases known : queue ∈ broker.declared
  · rw [if_pos known]
    constructor
    · exact Or.inr
    · intro either
      rcases either with rfl | declared
      · exact known
      · exact declared
  · rw [if_neg known]
    simp [or_comm]

/-- Publishing declares nothing. -/
theorem publish_declared
    (addressing : Addressing)
    (address message : String)
    (broker : QueueBroker) :
    (broker.publish addressing address message).1.declared =
      broker.declared := by
  unfold QueueBroker.publish
  cases addressing.denotes address with
  | none => rfl
  | some queue =>
      by_cases known : queue ∈ broker.declared
      · simp [known]
      · simp [known]

/-- What is declared after one more use. -/
theorem mem_declared_use
    {queue : String}
    {queueUse : QueueUse} :
    queue ∈ (exchange.use addressing name queueUse).broker.declared ↔
      queue ∈ exchange.broker.declared ∨
        (∃ target message,
          queueUse = .send target message ∧
            queue = AmqpService.sendAddress (target.address name)) ∨
        queueUse = .receive ∧
          AmqpService.receivedQueue name = some queue := by
  cases queueUse with
  | send target message =>
      simp only [use, AmqpService.sendTo, Bool.false_eq_true, ↓reduceIte]
      rw [publish_declared]
      unfold AmqpManagementService.assertTemporaryQueue
      rw [mem_assertQueue]
      constructor
      · intro either
        rcases either with rfl | declared
        · exact Or.inr (Or.inl ⟨target, message, rfl, rfl⟩)
        · exact Or.inl declared
      · intro either
        rcases either with declared | ⟨other, text, same, rfl⟩ | ⟨no, -⟩
        · exact Or.inr declared
        · obtain ⟨rfl, rfl⟩ := QueueUse.send.inj same
          exact Or.inl rfl
        · cases no
  | receive =>
      simp only [use, AmqpService.receiveFrom]
      cases received : AmqpService.receivedQueue name with
      | none => simp
      | some queueName =>
          simp only [Option.map_some]
          unfold AmqpManagementService.assertTemporaryQueue
          rw [mem_assertQueue]
          constructor
          · intro either
            rcases either with rfl | declared
            · exact Or.inr (Or.inr ⟨trivial, rfl⟩)
            · exact Or.inl declared
          · intro either
            rcases either with declared | ⟨_, _, no, -⟩ | ⟨-, same⟩
            · exact Or.inr declared
            · cases no
            · exact Or.inl (Option.some.inj same).symm

/-- What is declared after several uses. -/
theorem mem_declared_useAll
    {queue : String}
    {uses : List QueueUse} :
    queue ∈ (exchange.useAll addressing name uses).broker.declared ↔
      queue ∈ exchange.broker.declared ∨
        ∃ queueUse ∈ uses,
          (∃ target message,
            queueUse = .send target message ∧
              queue = AmqpService.sendAddress (target.address name)) ∨
          queueUse = .receive ∧
            AmqpService.receivedQueue name = some queue := by
  induction uses generalizing exchange with
  | nil => simp [useAll]
  | cons queueUse rest inductionHypothesis =>
      refine inductionHypothesis.trans ?_
      rw [mem_declared_use, or_assoc]
      simp only [List.mem_cons, exists_eq_or_imp]

/-- A receiver that has no queue to declare reads none. -/
theorem reads_useAll
    (throws : AmqpService.receivedQueue name = none)
    {uses : List QueueUse} :
    (exchange.useAll addressing name uses).reads = exchange.reads := by
  induction uses generalizing exchange with
  | nil => rfl
  | cons queueUse rest inductionHypothesis =>
      refine inductionHypothesis.trans ?_
      cases queueUse with
      | send target message => rfl
      | receive => simp [use, AmqpService.receiveFrom, throws]

end QueueExchange

namespace AmqpService

/-- A text that starts with a slash has one. -/
theorem slash_mem_of_startsWith
    {text : String}
    (starts : startsWith text "/" = true) :
    '/' ∈ text.toList := by
  have leading : ['/'] <+: text.toList := by
    simpa [startsWith] using starts
  exact leading.subset (List.mem_singleton.mpr rfl)

/-- A sender declares a queue with a slash in its name. -/
theorem slash_mem_sendAddress (address : String) :
    '/' ∈ (sendAddress address).toList := by
  unfold sendAddress
  split
  next starts => exact slash_mem_of_startsWith starts
  next =>
    rw [String.toList_append]
    exact List.mem_append_left _ (by decide)

/-- A receiver declares a queue without a slash in its name. -/
theorem slash_notMem_receivedQueue
    {name queue : String}
    (received : receivedQueue name = some queue) :
    '/' ∉ queue.toList := by
  simp only [receivedQueue] at received
  split at received
  next => cases received
  next =>
    rw [← Option.some.inj received]
    exact slash_notMem_lastPathPart _

/-- Without a slash in its name, a receiver declares the queue it reads. -/
theorem received_denotes
    {name : String}
    (plain : '/' ∉ name.toList)
    (nonempty : name ≠ "")
    (addressing : Addressing) :
    receivedQueue name = addressing.denotes (buildAddress name) := by
  have noSlash : startsWith name "/" = false := by
    by_contra starts
    exact plain (slash_mem_of_startsWith (by simpa using starts))
  have address : buildAddress name = "/amq/queue/" ++ name := by
    simp [buildAddress, noSlash]
  have lastPart : lastPathPart ("/amq/queue" ++ "/" ++ name) = name :=
    lastPathPart_append plain
  have joined : "/amq/queue" ++ "/" = "/amq/queue/" := rfl
  rw [joined] at lastPart
  simp only [receivedQueue]
  rw [address, lastPart, if_neg nonempty, addressing.ofQueue]

end AmqpService

namespace QueueExchange

/--
However a name is sent to and received from, sender and receiver never agree on
one queue.
-/
theorem never_agreed
    (addressing : Addressing)
    (name : String)
    (uses : List QueueUse)
    (target : SendTarget)
    (message : String)
    (sends : .send target message ∈ uses)
    (receives : .receive ∈ uses) :
    ¬ (empty.useAll addressing name uses).Agreed := by
  intro agreed
  obtain ⟨queue, reads⟩ := agreed.queue
  cases received : AmqpService.receivedQueue name with
  | none =>
      rw [reads_useAll received] at reads
      cases reads
  | some queueName =>
      have ofSender :
          some queue =
            some (AmqpService.sendAddress (target.address name)) := by
        rw [← reads]
        apply agreed.only
        exact mem_declared_useAll.mpr
          (Or.inr ⟨_, sends, Or.inl ⟨target, message, rfl, rfl⟩⟩)
      have ofReceiver : some queue = some queueName := by
        rw [← reads]
        apply agreed.only
        exact mem_declared_useAll.mpr
          (Or.inr ⟨_, receives, Or.inr ⟨rfl, received⟩⟩)
      have slash :=
        AmqpService.slash_mem_sendAddress (target.address name)
      rw [← Option.some.inj ofSender, Option.some.inj ofReceiver] at slash
      exact AmqpService.slash_notMem_receivedQueue received slash

/-- A broker that knows no other addresses. -/
def queueAddresses : Addressing where
  denotes address :=
    if startsWith address "/amq/queue/" then
      some (String.ofList (address.toList.drop 11))
    else
      none
  ofQueue := by
    intro queue
    have leading : "/amq/queue/".toList.length = 11 := rfl
    have starts : startsWith ("/amq/queue/" ++ queue) "/amq/queue/" := by
      simp [startsWith, String.toList_append]
    rw [if_pos starts, String.toList_append, ← leading,
      List.drop_left, String.ofList_toList]

/-- A queue is received from and then sent to. -/
def receivedThenSent : List QueueUse :=
  [.receive, .send .name "hello"]

/-- The two do not agree on the queue `test`. -/
theorem never_agreed_test :
    ¬ (empty.useAll queueAddresses "test" receivedThenSent).Agreed :=
  never_agreed queueAddresses "test" receivedThenSent .name "hello"
    (List.mem_cons_of_mem _ List.mem_cons_self) List.mem_cons_self

/-- Sending declares a second queue beside the one that is read. -/
theorem sender_declares_stray_queue :
    (empty.useAll queueAddresses "test" receivedThenSent).reads =
        some "test" ∧
      (empty.useAll queueAddresses "test"
          receivedThenSent).broker.declared =
        ["test", "/amq/queue/test"] ∧
      ¬ (empty.useAll queueAddresses "test" receivedThenSent).Agreed := by
  have declared :
      (empty.useAll queueAddresses "test"
          receivedThenSent).broker.declared =
        ["test", "/amq/queue/test"] := by
    decide +kernel
  have reads :
      (empty.useAll queueAddresses "test" receivedThenSent).reads =
        some "test" := by
    decide +kernel
  refine ⟨reads, declared, ?_⟩
  intro agreed
  have only := agreed.only "/amq/queue/test" (by rw [declared]; simp)
  rw [reads] at only
  exact absurd only (by decide)

end QueueExchange

end NestBackend
