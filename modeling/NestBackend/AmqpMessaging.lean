import NestBackend.TemporaryQueues
import NestBackend.TopicPattern

namespace NestBackend

open JavaScript

/-!
# Where `AbstractMessaging` publishes and listens

A workflow has an address, a routing and a variant.  `listen` declares, binds
and consumes a queue that is named after all three; `enqueue` composes the
address that it publishes to on its own.
-/

/-! ## What the broker is told -/

/-- `IExchange`. -/
structure AmqpExchange where
  name : String
  fanout : Bool
  deriving DecidableEq, Repr

/-- A queue as it is declared. -/
structure AmqpQueue where
  name : String
  durable : Bool
  /-- Deleted when it is no longer used, as `assertTemporaryQueue` asks. -/
  autoDelete : Bool
  deriving DecidableEq, Repr

/-- A queue is bound to an exchange. -/
structure AmqpBinding where
  queue : String
  exchange : String
  pattern : String
  deriving DecidableEq, Repr

/-- What has been declared at the broker. -/
structure AmqpTopology where
  queues : List AmqpQueue
  bindings : List AmqpBinding
  deriving DecidableEq, Repr

/-- What a message can be published to. -/
inductive AmqpTarget where
  | exchange (name routingKey : String)
  | queue (name : String)
  deriving DecidableEq, Repr

/-- The address that names a target. -/
def AmqpTarget.address : AmqpTarget → String
  | .exchange name routingKey => "/exchange/" ++ name ++ "/" ++ routingKey
  | .queue name => "/amq/queue/" ++ name

/--
A message that is published to a target reaches a queue: it is the queue, or an
exchange that routes the key to it.
-/
def AmqpTopology.Routes
    (topology : AmqpTopology)
    (queue : String) : AmqpTarget → Prop
  | .exchange name routingKey =>
      ∃ binding ∈ topology.bindings,
        binding.queue = queue ∧ binding.exchange = name ∧
          TopicPattern.accepts binding.pattern routingKey = true
  | .queue name => name = queue

/-- A message that is sent to an address reaches a queue. -/
def AmqpTopology.Delivers
    (topology : AmqpTopology)
    (address queue : String) : Prop :=
  ∃ target : AmqpTarget,
    target.address = address ∧ topology.Routes queue target

/--
`assertQueue`: a queue is not declared again in another way.
-/
def AmqpTopology.assertQueue
    (queue : AmqpQueue)
    (topology : AmqpTopology) : Option AmqpTopology :=
  match topology.queues.find? (fun declared => declared.name = queue.name) with
  | none => some { topology with queues := topology.queues ++ [queue] }
  | some declared => if declared = queue then some topology else none

/-! ## The services below -/

/-- `assertAMQPAddress`, unless it throws. -/
def AmqpManagementService.assertAMQPAddress
    (name : String)
    (durable : Bool)
    (exchange : AmqpExchange)
    (topology : AmqpTopology) : Option (AmqpTopology × String) :=
  let queueName := exchange.name ++ "_" ++ name
  (topology.assertQueue ⟨queueName, durable, false⟩).map fun declared =>
    ({ declared with
        bindings :=
          declared.bindings ++
            [{ queue := queueName
               exchange := exchange.name
               pattern := if exchange.fanout then "#" else name }] },
      "/amq/queue/" ++ queueName)

namespace AmqpService

/-- `buildAddress`, unless it throws. -/
def buildAddressIn
    (name : String)
    (durable : Bool)
    (exchange : Option AmqpExchange)
    (topology : AmqpTopology) : Option (AmqpTopology × String) :=
  match exchange with
  | none => some (topology, buildAddress name)
  | some exchange =>
      if startsWith name "/" then
        none
      else
        AmqpManagementService.assertAMQPAddress name durable exchange topology

/-- The queue that is declared for an address that is not durable. -/
def assertQueueOf
    (address : String)
    (topology : AmqpTopology) : Option AmqpTopology :=
  let queueName := lastPathPart address
  if queueName = "" then
    none
  else
    topology.assertQueue ⟨queueName, false, true⟩

/--
`receiveMessage`: what has been declared in the end and the address that it
consumes from, unless it throws.
-/
def receiveMessage
    (name : String)
    (exchange : Option AmqpExchange)
    (durable : Bool)
    (topology : AmqpTopology) : Option (AmqpTopology × String) := do
  let (topology, address) ← buildAddressIn name durable exchange topology
  if durable then
    return (topology, address)
  else
    let topology ← assertQueueOf address topology
    return (topology, address)

end AmqpService

/-! ## `AbstractMessaging` -/

/-- `IMessageRouting`, where it is not null. -/
inductive MessageRouting where
  | fanout (name : String)
  | topic (name : String)
  deriving DecidableEq, Repr

/-- `!!this.ROUTING.fanout`. -/
def MessageRouting.isFanout : MessageRouting → Bool
  | .fanout name => name ≠ ""
  | .topic _ => false

/-- `this.ROUTING.fanout || this.ROUTING.topic`, added to a text. -/
def MessageRouting.name : MessageRouting → String
  | .fanout name => if name = "" then "undefined" else name
  | .topic name => name

/-- An instance of a class that extends `AbstractMessaging`. -/
structure Messaging where
  _address : String
  ROUTING : Option MessageRouting
  WORKFLOW_VARIANT : String
  durable : Bool
  maxRetry : Int
  deriving DecidableEq, Repr

namespace Messaging

/-- `workflowVariant`. -/
def workflowVariant (messaging : Messaging) : String :=
  if messaging.WORKFLOW_VARIANT = "" then
    ""
  else
    "-" ++ messaging.WORKFLOW_VARIANT

/-- `LISTEN_TO_ADDRESS`: the name of the address, and the exchange. -/
def LISTEN_TO_ADDRESS
    (messaging : Messaging) : String × Option AmqpExchange :=
  match messaging.ROUTING with
  | some routing =>
      (routing.name ++ messaging.workflowVariant,
        some { name := messaging._address, fanout := routing.isFanout })
  | none => (messaging._address, none)

/-- `getPublishAddress`, unless it throws. -/
def getPublishAddress
    (messaging : Messaging)
    (address : Option String)
    (global : Bool) : Option String :=
  let address := address.getD messaging._address
  if global then
    some ("/exchange/" ++ address ++ "/*")
  else
    match messaging.ROUTING with
    | some (.fanout name) =>
        if name ≠ "" then some ("/exchange/" ++ address ++ "/*") else none
    | some (.topic name) =>
        if name ≠ "" then
          some ("/exchange/" ++ address ++ "/" ++ name)
        else
          none
    | none => some ("/amq/queue/" ++ address)

/-- What `enqueue` makes of `options.address`: a text in any case. -/
def enqueueAddress
    (messaging : Messaging)
    (address : Option String) : String :=
  address.getD "undefined" ++ messaging.workflowVariant

/-- The address that `enqueue` sends to, unless it throws. -/
def enqueue
    (messaging : Messaging)
    (address : Option String)
    (global : Bool) : Option String :=
  (messaging.getPublishAddress (some (messaging.enqueueAddress address))
    global).map AmqpService.sendAddress

/--
`listen`: what it has declared and the address that it consumes from, unless it
throws.
-/
def listen (messaging : Messaging) : Option (AmqpTopology × String) :=
  if messaging.maxRetry = 0 then
    none
  else
    AmqpService.receiveMessage messaging.LISTEN_TO_ADDRESS.1
      messaging.LISTEN_TO_ADDRESS.2 messaging.durable ⟨[], []⟩

/-- `options.address`, given as the address of the workflow or omitted. -/
def ownAddress (messaging : Messaging) (given : Bool) : Option String :=
  if given then some messaging._address else none

/--
A message that is enqueued by the workflow itself reaches the queue that it
listens to, which is one that it has declared if it has declared any.
-/
def Reaches (messaging : Messaging) (given : Bool) : Prop :=
  ∃ topology queue published,
    messaging.listen = some (topology, "/amq/queue/" ++ queue) ∧
      (topology.queues ≠ [] →
        ∃ declared ∈ topology.queues, declared.name = queue) ∧
      messaging.enqueue (messaging.ownAddress given) false =
        some published ∧
      topology.Delivers published queue

/-- The queue of a workflow with a routing. -/
def queueName (messaging : Messaging) (routing : MessageRouting) : String :=
  messaging._address ++ "_" ++ (routing.name ++ messaging.workflowVariant)

/-- `listen` goes through, and declares what it consumes from. -/
def Listens (messaging : Messaging) (given : Bool) : Prop :=
  messaging.maxRetry ≠ 0 ∧
    match messaging.ROUTING with
    | some routing =>
        routing ≠ .fanout "" ∧ routing ≠ .topic "" ∧
          startsWith routing.name "/" = false ∧
          (messaging.durable = true ∨
            '/' ∈ (messaging.queueName routing).toList ∧
              lastPathPart (messaging.queueName routing) ≠ "")
    | none =>
        messaging.durable = true ∨
          messaging.enqueueAddress (messaging.ownAddress given) ≠ "" ∧
            '/' ∉
              (messaging.enqueueAddress
                (messaging.ownAddress given)).toList

/-- `enqueue` composes an address that `listen` has to do with. -/
def SameAddress (messaging : Messaging) : Bool → Prop
  | true =>
      messaging.WORKFLOW_VARIANT = "" ∧
        (messaging.ROUTING = none →
          startsWith messaging._address "/" = false)
  | false =>
      match messaging.ROUTING with
      | some (.fanout _) =>
          startsWith ("undefined" ++ messaging.workflowVariant ++ "/")
              (messaging._address ++ "/") =
            true
      | some (.topic _) =>
          messaging.WORKFLOW_VARIANT = "" ∧ messaging._address = "undefined"
      | none =>
          messaging._address = "undefined" ++ messaging.workflowVariant ∨
            messaging._address =
              "/amq/queue/undefined" ++ messaging.workflowVariant

variable
  {messaging : Messaging}
  {routing : MessageRouting}

/-! ## What `listen` declares -/

/-- A variant that is added does not begin with a slash. -/
theorem startsWith_append_workflowVariant
    (name : String) :
    startsWith (name ++ messaging.workflowVariant) "/" =
      startsWith name "/" := by
  have slash : "/".toList = ['/'] := rfl
  have dash : "-".toList = ['-'] := rfl
  unfold startsWith workflowVariant
  rw [String.toList_append, slash]
  cases name.toList with
  | nil =>
      split
      next => rfl
      next => simp [String.toList_append, dash, List.isPrefixOf]
  | cons head rest => simp [List.isPrefixOf]

/-- A queue without slashes comes after the last slash of its address. -/
theorem lastPathPart_queue_eq_iff
    (queue : String) :
    lastPathPart ("/amq/queue/" ++ queue) = queue ↔
      '/' ∉ queue.toList := by
  constructor
  · intro same
    rw [← same]
    exact slash_notMem_lastPathPart _
  · intro plain
    have lastPart : lastPathPart ("/amq/queue" ++ "/" ++ queue) = queue :=
      lastPathPart_append plain
    exact lastPart

/-- What comes after the last slash of the address does so in the queue. -/
theorem lastPathPart_queue
    {queue : String}
    (slash : '/' ∈ queue.toList) :
    lastPathPart ("/amq/queue/" ++ queue) = lastPathPart queue := by
  unfold lastPathPart
  rw [String.toList_append, List.reverse_append, List.takeWhile_append,
    if_neg]
  intro all
  have whole :=
    (List.takeWhile_sublist (fun char => char != '/')).eq_of_length all
  have member : '/' ∈ queue.toList.reverse := List.mem_reverse.mpr slash
  rw [← whole] at member
  have isOther := List.mem_takeWhile_imp member
  simp at isOther

/-- What `listen` needs where there is a routing. -/
def CanBind (messaging : Messaging) (routing : MessageRouting) : Prop :=
  messaging.maxRetry ≠ 0 ∧ startsWith routing.name "/" = false ∧
    (messaging.durable = true ∨
      '/' ∈ (messaging.queueName routing).toList ∧
        lastPathPart (messaging.queueName routing) ≠ "")

/-- The binding of the queue of a workflow. -/
def binding (messaging : Messaging) (routing : MessageRouting) :
    AmqpBinding where
  queue := messaging.queueName routing
  exchange := messaging._address
  pattern :=
    if routing.isFanout then
      "#"
    else
      routing.name ++ messaging.workflowVariant

/-- What is declared and bound where the queue is durable. -/
def bound (messaging : Messaging) (routing : MessageRouting) :
    AmqpTopology where
  queues := [⟨messaging.queueName routing, messaging.durable, false⟩]
  bindings := [messaging.binding routing]

/-- The address is built where the name does not begin with a slash. -/
theorem buildAddressIn_routed
    (routed : messaging.ROUTING = some routing) :
    AmqpService.buildAddressIn messaging.LISTEN_TO_ADDRESS.1
        messaging.durable messaging.LISTEN_TO_ADDRESS.2 ⟨[], []⟩ =
      if startsWith routing.name "/" then
        none
      else
        some
          (messaging.bound routing,
            "/amq/queue/" ++ messaging.queueName routing) := by
  simp only [LISTEN_TO_ADDRESS, routed, AmqpService.buildAddressIn,
    startsWith_append_workflowVariant]
  split
  next => rfl
  next => rfl

/-- A queue of this name cannot be declared as a temporary one as well. -/
theorem assertQueueOf_bound
    (temporary : messaging.durable = false) :
    AmqpService.assertQueueOf
        ("/amq/queue/" ++ messaging.queueName routing)
        (messaging.bound routing) =
      if
          '/' ∈ (messaging.queueName routing).toList ∧
            lastPathPart (messaging.queueName routing) ≠ "" then
        some
          { messaging.bound routing with
            queues :=
              (messaging.bound routing).queues ++
                [⟨lastPathPart (messaging.queueName routing), false, true⟩] }
      else
        none := by
  unfold AmqpService.assertQueueOf
  by_cases slash : '/' ∈ (messaging.queueName routing).toList
  · rw [lastPathPart_queue slash]
    by_cases empty : lastPathPart (messaging.queueName routing) = ""
    · simp [empty]
    · have other :
          messaging.queueName routing ≠
            lastPathPart (messaging.queueName routing) := by
        intro same
        rw [same] at slash
        exact slash_notMem_lastPathPart _ slash
      simp [slash, empty, AmqpTopology.assertQueue, bound, other]
  · have nonempty : messaging.queueName routing ≠ "" := by
      simp [queueName]
    rw [(lastPathPart_queue_eq_iff _).mpr slash, if_neg nonempty,
      if_neg (fun both => slash both.1)]
    simp [AmqpTopology.assertQueue, bound, temporary]

/-- With a routing, `listen` binds its queue or throws. -/
theorem listen_routed
    (routed : messaging.ROUTING = some routing) :
    (messaging.CanBind routing ∧
        ∃ topology,
          messaging.listen =
              some (topology, "/amq/queue/" ++ messaging.queueName routing) ∧
            topology.bindings = [messaging.binding routing] ∧
            ∃ declared ∈ topology.queues,
              declared.name = messaging.queueName routing) ∨
      ¬ messaging.CanBind routing ∧ messaging.listen = none := by
  unfold CanBind listen AmqpService.receiveMessage
  rw [buildAddressIn_routed routed]
  by_cases noRetry : messaging.maxRetry = 0
  · exact .inr ⟨fun can => can.1 noRetry, if_pos noRetry⟩
  · rw [if_neg noRetry]
    cases slash : startsWith routing.name "/" with
    | true => exact .inr ⟨fun can => (by cases can.2.1), rfl⟩
    | false =>
        cases durable : messaging.durable with
        | true =>
            refine .inl ⟨⟨noRetry, rfl, .inl rfl⟩, messaging.bound routing,
              rfl, rfl, _, List.mem_singleton_self _, rfl⟩
        | false =>
            simp only [Bool.false_eq_true, ↓reduceIte,
              Option.bind_eq_bind, Option.bind_some,
              assertQueueOf_bound durable]
            split
            next fits =>
              exact
                .inl ⟨⟨noRetry, trivial, .inr fits⟩, _, rfl, rfl, _,
                  List.mem_append_left _ (List.mem_singleton_self _), rfl⟩
            next unfit =>
              refine .inr ⟨?_, rfl⟩
              rintro ⟨-, -, impossible | fits⟩
              · cases impossible
              · exact unfit fits

/-! ## What a message that is published reaches -/

/-- A message that is published to a queue reaches that queue only. -/
theorem delivers_queue
    {topology : AmqpTopology}
    {sent queue : String} :
    topology.Delivers ("/amq/queue/" ++ sent) queue ↔ sent = queue := by
  constructor
  · rintro ⟨target, address, routes⟩
    cases target with
    | exchange name routingKey =>
        have texts := congrArg String.toList address
        simp [AmqpTarget.address, String.toList_append] at texts
    | queue name =>
        have same : name = sent := by simpa [AmqpTarget.address] using address
        exact same.symm.trans routes
  · rintro rfl
    exact ⟨.queue sent, rfl, rfl⟩

/--
A message that is published to an exchange reaches the one queue that is bound
there if its address names the exchange with a key that matches.
-/
theorem delivers_exchange
    {topology : AmqpTopology}
    {binding : AmqpBinding}
    {name routingKey : String}
    (bound : topology.bindings = [binding]) :
    topology.Delivers ("/exchange/" ++ name ++ "/" ++ routingKey)
        binding.queue ↔
      ∃ key : String,
        name.toList ++ '/' :: routingKey.toList =
            binding.exchange.toList ++ '/' :: key.toList ∧
          TopicPattern.accepts binding.pattern key = true := by
  have slash : "/".toList = ['/'] := rfl
  constructor
  · rintro ⟨target, address, routes⟩
    have texts := congrArg String.toList address
    cases target with
    | queue other => simp [AmqpTarget.address, String.toList_append] at texts
    | exchange other key =>
        obtain ⟨found, isBound, -, rfl, accepted⟩ := routes
        rw [bound, List.mem_singleton] at isBound
        subst isBound
        refine ⟨key, ?_, accepted⟩
        simpa [AmqpTarget.address, String.toList_append, slash] using
          texts.symm
  · rintro ⟨key, texts, accepted⟩
    refine
      ⟨.exchange binding.exchange key, ?_, binding, by simp [bound], rfl,
        rfl, accepted⟩
    apply String.toList_injective
    simp [AmqpTarget.address, String.toList_append, slash, texts]

/-! ## What `enqueue` publishes -/

/-- The address of an exchange is sent to as it is. -/
theorem sendAddress_exchange
    (rest : String) :
    AmqpService.sendAddress ("/exchange/" ++ rest) = "/exchange/" ++ rest := by
  simp [AmqpService.sendAddress, startsWith, String.toList_append,
    List.isPrefixOf]

/-- The address of a queue is sent to as it is. -/
theorem sendAddress_queue
    (rest : String) :
    AmqpService.sendAddress ("/amq/queue/" ++ rest) =
      "/amq/queue/" ++ rest := by
  simp [AmqpService.sendAddress, startsWith, String.toList_append,
    List.isPrefixOf]

/-- The key that a workflow publishes with, if it does. -/
def routingKey? : MessageRouting → Option String
  | .fanout name => if name ≠ "" then some "*" else none
  | .topic name => if name ≠ "" then some name else none

/-- With a routing, `enqueue` publishes to an exchange, if it does. -/
theorem enqueue_routed
    (routed : messaging.ROUTING = some routing)
    (address : Option String) :
    messaging.enqueue address false =
      (routingKey? routing).map (fun key =>
        "/exchange/" ++ messaging.enqueueAddress address ++ "/" ++ key) := by
  cases routing with
  | fanout name =>
      by_cases named : name = ""
      · simp [enqueue, getPublishAddress, routed, routingKey?, named]
      · simp [enqueue, getPublishAddress, routed, routingKey?, named,
          String.append_assoc, sendAddress_exchange]
  | topic name =>
      by_cases named : name = ""
      · simp [enqueue, getPublishAddress, routed, routingKey?, named]
      · simp [enqueue, getPublishAddress, routed, routingKey?, named,
          String.append_assoc, sendAddress_exchange]

/-- Without a routing, it publishes to a queue. -/
theorem enqueue_unrouted
    (unrouted : messaging.ROUTING = none)
    (address : Option String) :
    messaging.enqueue address false =
      some ("/amq/queue/" ++ messaging.enqueueAddress address) := by
  simp [enqueue, getPublishAddress, unrouted, sendAddress_queue]

/-- With a routing, the address has to name the exchange that is bound. -/
theorem reaches_routed_iff
    {given : Bool}
    (routed : messaging.ROUTING = some routing) :
    messaging.Reaches given ↔
      messaging.CanBind routing ∧
        ∃ routingKey key : String,
          routingKey? routing = some routingKey ∧
            (messaging.enqueueAddress
                  (messaging.ownAddress given)).toList ++
                '/' :: routingKey.toList =
              messaging._address.toList ++ '/' :: key.toList ∧
            TopicPattern.accepts (messaging.binding routing).pattern key =
              true := by
  rcases listen_routed routed with
    ⟨can, topology, listens, bindings, declared⟩ | ⟨cannot, throws⟩
  · constructor
    · rintro ⟨other, queue, published, otherListens, -, enqueued, delivers⟩
      obtain ⟨rfl, address⟩ :=
        Prod.mk.inj (Option.some.inj (listens.symm.trans otherListens))
      obtain rfl : messaging.queueName routing = queue := by
        simpa using address
      rw [enqueue_routed routed, Option.map_eq_some_iff] at enqueued
      obtain ⟨routingKey, isKey, rfl⟩ := enqueued
      obtain ⟨key, texts, accepted⟩ := (delivers_exchange bindings).mp delivers
      exact ⟨can, routingKey, key, isKey, texts, accepted⟩
    · rintro ⟨-, routingKey, key, isKey, texts, accepted⟩
      refine
        ⟨topology, messaging.queueName routing, _, listens,
          fun _ => declared, ?_,
          (delivers_exchange bindings).mpr ⟨key, texts, accepted⟩⟩
      rw [enqueue_routed routed, isKey]
      rfl
  · constructor
    · rintro ⟨_, _, _, listens, -⟩
      rw [throws] at listens
      cases listens
    · exact fun both => absurd both.1 cannot

/-! ## When the address names the exchange -/

/-- A variant begins with a dash. -/
theorem workflowVariant_cases
    (messaging : Messaging) :
    messaging.WORKFLOW_VARIANT = "" ∧ messaging.workflowVariant = "" ∨
      messaging.WORKFLOW_VARIANT ≠ "" ∧
        messaging.workflowVariant.toList =
          '-' :: messaging.WORKFLOW_VARIANT.toList := by
  have dash : "-".toList = ['-'] := rfl
  by_cases empty : messaging.WORKFLOW_VARIANT = ""
  · exact .inl ⟨empty, if_pos empty⟩
  · refine .inr ⟨empty, ?_⟩
    rw [workflowVariant, if_neg empty, String.toList_append, dash]
    rfl

/-- An address names an exchange, with the key of a fanout workflow. -/
theorem names_fanout_iff
    (sent exchange : String) :
    (∃ key : String,
      sent.toList ++ '/' :: "*".toList =
        exchange.toList ++ '/' :: key.toList) ↔
      startsWith (sent ++ "/") (exchange ++ "/") = true := by
  have slash : "/".toList = ['/'] := rfl
  have star : "*".toList = ['*'] := rfl
  unfold startsWith
  rw [List.isPrefixOf_iff_prefix, String.toList_append, String.toList_append,
    slash, star]
  constructor
  · rintro ⟨key, texts⟩
    have begins :
        exchange.toList ++ ['/'] <+: sent.toList ++ ['/'] ++ ['*'] := by
      refine ⟨key.toList, ?_⟩
      simpa using texts.symm
    refine (List.prefix_concat_iff.mp begins).resolve_left ?_
    intro same
    have lasts := congrArg List.getLast? same
    simp at lasts
  · rintro ⟨rest, texts⟩
    refine ⟨String.ofList (rest ++ ['*']), ?_⟩
    rw [String.toList_ofList]
    have longer := congrArg (fun text => text ++ ['*']) texts
    simpa using longer.symm

/-- A key that a longer pattern matches is not shorter than it. -/
theorem no_variant_of_accepts
    {name key : String}
    (accepted :
      TopicPattern.accepts (name ++ messaging.workflowVariant) key = true)
    (short : key.toList.count '-' ≤ name.toList.count '-') :
    messaging.WORKFLOW_VARIANT = "" := by
  have dashes :
      (name ++ messaging.workflowVariant).toList.count '-' ≤
        key.toList.count '-' :=
    TopicPattern.count_le_of_accepts (by decide) accepted
  rw [String.toList_append, List.count_append] at dashes
  rcases messaging.workflowVariant_cases with ⟨plain, -⟩ | ⟨-, dashed⟩
  · exact plain
  · rw [dashed, List.count_cons_self] at dashes
    omega

/-- A dash after no slash is not a slash after no dash. -/
theorem dash_ne_slash
    {first second firstRest secondRest : List Char}
    (noSlash : '/' ∉ first)
    (noDash : '-' ∉ second) :
    first ++ '-' :: firstRest ≠ second ++ '/' :: secondRest := by
  intro same
  rcases List.append_eq_append_iff.mp same with
    ⟨between, longer, rest⟩ | ⟨between, longer, rest⟩
  · cases between with
    | nil => exact absurd (List.cons.inj rest).1 (by decide)
    | cons head others =>
        rw [List.cons_append] at rest
        obtain ⟨rfl, -⟩ := List.cons.inj rest
        exact noDash (by rw [longer]; simp)
  · cases between with
    | nil => exact absurd (List.cons.inj rest).1 (by decide)
    | cons head others =>
        rw [List.cons_append] at rest
        obtain ⟨rfl, -⟩ := List.cons.inj rest
        exact noSlash (by rw [longer]; simp)

/-- A key that is only the last part of a name has fewer slashes. -/
theorem not_accepts_shorter
    {name key : String}
    {others : List Char}
    (longer : name.toList = others ++ '/' :: key.toList) :
    TopicPattern.accepts (name ++ messaging.workflowVariant) key ≠ true := by
  intro accepted
  have slashes :
      (name ++ messaging.workflowVariant).toList.count '/' ≤
        key.toList.count '/' :=
    TopicPattern.count_le_of_accepts (by decide) accepted
  rw [String.toList_append, List.count_append, longer, List.count_append,
    List.count_cons_self] at slashes
  omega

/-- Where the address ends within the variant, the key has fewer dashes. -/
theorem not_accepts_longer
    {name key : String}
    {others : List Char}
    (sent :
      "undefined".toList ++ messaging.workflowVariant.toList =
        messaging._address.toList ++ '/' :: others)
    (longer : key.toList = others ++ '/' :: name.toList) :
    TopicPattern.accepts (name ++ messaging.workflowVariant) key ≠ true := by
  intro accepted
  have dashes :
      (name ++ messaging.workflowVariant).toList.count '-' ≤
        key.toList.count '-' :=
    TopicPattern.count_le_of_accepts (by decide) accepted
  have ofSent := congrArg (List.count '-') sent
  have noDash : "undefined".toList.count '-' = 0 := by decide
  have noSlash : '/' ∉ "undefined".toList := by decide
  rw [String.toList_append, List.count_append, longer, List.count_append,
    List.count_cons_of_ne (by decide)] at dashes
  rw [List.count_append, List.count_append, noDash,
    List.count_cons_of_ne (by decide)] at ofSent
  have undashed : '-' ∉ messaging._address.toList := by
    rw [← List.count_eq_zero]
    omega
  rcases messaging.workflowVariant_cases with ⟨-, none⟩ | ⟨-, dashed⟩
  · rw [none, String.toList_empty, List.append_nil] at sent
    exact absurd (sent ▸ by simp) noSlash
  · rw [dashed] at sent
    exact absurd sent (dash_ne_slash noSlash undashed)

/-- The text `undefined` holds no part of the address of another exchange. -/
theorem names_topic_undefined
    {name key : String}
    (texts :
      "undefined".toList ++ messaging.workflowVariant.toList ++
          '/' :: name.toList =
        messaging._address.toList ++ '/' :: key.toList)
    (accepted :
      TopicPattern.accepts (name ++ messaging.workflowVariant) key = true) :
    messaging.WORKFLOW_VARIANT = "" ∧ messaging._address = "undefined" := by
  have ofName :
      messaging._address.toList =
          "undefined".toList ++ messaging.workflowVariant.toList →
        name.toList = key.toList →
        messaging.WORKFLOW_VARIANT = "" ∧
          messaging._address = "undefined" := by
    intro address sameKey
    have plain := no_variant_of_accepts accepted (by rw [sameKey])
    refine ⟨plain, String.toList_injective ?_⟩
    rw [address, workflowVariant, if_pos plain]
    rfl
  rcases List.append_eq_append_iff.mp texts with
    ⟨between, address, rest⟩ | ⟨between, sent, rest⟩
  · cases between with
    | nil => exact ofName (by simpa using address) (List.cons.inj rest).2
    | cons head others =>
        rw [List.cons_append] at rest
        obtain ⟨rfl, longer⟩ := List.cons.inj rest
        exact absurd accepted (not_accepts_shorter longer)
  · cases between with
    | nil =>
        exact
          ofName (by simpa using sent.symm) (List.cons.inj rest).2.symm
    | cons head others =>
        rw [List.cons_append] at rest
        obtain ⟨rfl, longer⟩ := List.cons.inj rest
        exact absurd accepted (not_accepts_longer sent longer)

/-- A topic workflow binds the key that it publishes with, and no other. -/
theorem names_topic_iff
    (name : String)
    {given : Bool} :
    (∃ key : String,
      (messaging.enqueueAddress (messaging.ownAddress given)).toList ++
            '/' :: name.toList =
          messaging._address.toList ++ '/' :: key.toList ∧
        TopicPattern.accepts (name ++ messaging.workflowVariant) key =
          true) ↔
      messaging.WORKFLOW_VARIANT = "" ∧
        (given = true ∨ messaging._address = "undefined") := by
  constructor
  · rintro ⟨key, texts, accepted⟩
    cases given with
    | true =>
        refine ⟨?_, .inl rfl⟩
        rcases messaging.workflowVariant_cases with ⟨plain, -⟩ | ⟨-, dashed⟩
        · exact plain
        · simp [enqueueAddress, ownAddress, String.toList_append,
            dashed] at texts
    | false =>
        have both :=
          names_topic_undefined
            (by simpa [enqueueAddress, ownAddress] using texts) accepted
        exact ⟨both.1, .inr both.2⟩
  · rintro ⟨plain, own⟩
    have noVariant : messaging.workflowVariant = "" := if_pos plain
    have sent :
        messaging.enqueueAddress (messaging.ownAddress given) =
          messaging._address := by
      rw [enqueueAddress, noVariant, String.append_empty]
      cases given with
      | true => rfl
      | false => exact (own.resolve_left (by decide)).symm
    refine ⟨name, by rw [sent], ?_⟩
    rw [noVariant, String.append_empty]
    exact TopicPattern.accepts_self name

/-- An address begins with itself and a slash only without a variant. -/
theorem startsWith_own_iff :
    startsWith (messaging._address ++ messaging.workflowVariant ++ "/")
          (messaging._address ++ "/") =
        true ↔
      messaging.WORKFLOW_VARIANT = "" := by
  have slash : "/".toList = ['/'] := rfl
  unfold startsWith
  rw [List.isPrefixOf_iff_prefix, String.toList_append,
    String.toList_append, String.toList_append, slash, List.append_assoc,
    List.prefix_append_right_inj]
  rcases messaging.workflowVariant_cases with
    ⟨plain, none⟩ | ⟨some, dashed⟩
  · simp [plain, none]
  · simp [some, dashed]

/-- With a routing, `listen` needs a name in it, and to bind its queue. -/
theorem listens_routed_iff
    {given : Bool}
    (routed : messaging.ROUTING = some routing) :
    messaging.Listens given ↔
      routing ≠ .fanout "" ∧ routing ≠ .topic "" ∧
        messaging.CanBind routing := by
  simp only [Listens, CanBind, routed]
  constructor
  · rintro ⟨retries, noFanout, noTopic, plain, declares⟩
    exact ⟨noFanout, noTopic, retries, plain, declares⟩
  · rintro ⟨noFanout, noTopic, retries, plain, declares⟩
    exact ⟨retries, noFanout, noTopic, plain, declares⟩

/-- A fanout workflow reaches itself where its address is named. -/
theorem reaches_fanout_iff
    {name : String}
    {given : Bool}
    (routed : messaging.ROUTING = some (.fanout name)) :
    messaging.Reaches given ↔
      name ≠ "" ∧ messaging.CanBind (.fanout name) ∧
        messaging.SameAddress given := by
  rw [reaches_routed_iff routed]
  by_cases named : name = ""
  · simp [routingKey?, named]
  · have everyKey :
        (messaging.binding (.fanout name)).pattern = "#" := by
      simp [binding, MessageRouting.isFanout, named]
    have same :
        startsWith
              (messaging.enqueueAddress (messaging.ownAddress given) ++ "/")
              (messaging._address ++ "/") =
            true ↔
          messaging.SameAddress given := by
      cases given with
      | true => exact startsWith_own_iff.trans (by simp [SameAddress, routed])
      | false => simp [SameAddress, routed, enqueueAddress, ownAddress]
    rw [← same, ← names_fanout_iff, everyKey]
    simp [routingKey?, named, TopicPattern.accepts_hash]

/-- A topic workflow reaches itself where its address is named. -/
theorem reaches_topic_iff
    {name : String}
    {given : Bool}
    (routed : messaging.ROUTING = some (.topic name)) :
    messaging.Reaches given ↔
      name ≠ "" ∧ messaging.CanBind (.topic name) ∧
        messaging.SameAddress given := by
  rw [reaches_routed_iff routed]
  by_cases named : name = ""
  · simp [routingKey?, named]
  · have ownKey :
        (messaging.binding (.topic name)).pattern =
          name ++ messaging.workflowVariant := by
      simp [binding, MessageRouting.isFanout, MessageRouting.name]
    have same :
        messaging.WORKFLOW_VARIANT = "" ∧
            (given = true ∨ messaging._address = "undefined") ↔
          messaging.SameAddress given := by
      cases given <;> simp [SameAddress, routed]
    rw [← same, ← names_topic_iff name, ownKey]
    simp [routingKey?, named]

/-! ## Without a routing -/

/-- Without a routing, `listen` declares a temporary queue at most. -/
theorem listen_unrouted
    (unrouted : messaging.ROUTING = none) :
    messaging.listen =
      if messaging.maxRetry = 0 then
        none
      else if messaging.durable then
        some (⟨[], []⟩, AmqpService.buildAddress messaging._address)
      else if
          lastPathPart (AmqpService.buildAddress messaging._address) =
            "" then
        none
      else
        some
          (⟨[⟨lastPathPart (AmqpService.buildAddress messaging._address),
              false, true⟩], []⟩,
            AmqpService.buildAddress messaging._address) := by
  unfold listen
  split
  next => rfl
  next =>
    simp only [LISTEN_TO_ADDRESS, unrouted, AmqpService.receiveMessage,
      AmqpService.buildAddressIn, AmqpService.assertQueueOf,
      AmqpTopology.assertQueue, Option.bind_eq_bind, Option.bind_some,
      List.find?_nil, List.nil_append]
    split
    next => rfl
    next =>
      split
      next => rfl
      next => rfl

/-- Without a routing, `listen` consumes the queue of its address. -/
theorem reaches_unrouted_iff
    {given : Bool}
    (unrouted : messaging.ROUTING = none) :
    messaging.Reaches given ↔
      messaging.Listens given ∧
        AmqpService.buildAddress messaging._address =
          "/amq/queue/" ++
            messaging.enqueueAddress (messaging.ownAddress given) := by
  have published :
      ∀ {topology queue},
        (∃ published,
          messaging.enqueue (messaging.ownAddress given) false =
              some published ∧
            AmqpTopology.Delivers topology published queue) ↔
          messaging.enqueueAddress (messaging.ownAddress given) = queue := by
    intro topology queue
    simp [enqueue_unrouted unrouted, delivers_queue]
  simp only [Reaches, exists_and_left, published, Listens, unrouted,
    listen_unrouted unrouted]
  by_cases noRetry : messaging.maxRetry = 0
  · simp [noRetry]
  · cases durable : messaging.durable with
    | true => simp [noRetry]
    | false =>
        simp only [noRetry, Bool.false_eq_true, ↓reduceIte]
        constructor
        · rintro ⟨topology, queue, listens, declares, rfl⟩
          split at listens
          next => cases listens
          next nonempty =>
            obtain ⟨rfl, address⟩ := Prod.mk.inj (Option.some.inj listens)
            obtain ⟨declared, isDeclared, same⟩ := declares (by simp)
            have named :
                lastPathPart
                    (AmqpService.buildAddress messaging._address) =
                  messaging.enqueueAddress (messaging.ownAddress given) := by
              rw [List.mem_singleton.mp isDeclared] at same
              exact same
            rw [address] at named nonempty
            have plain := (lastPathPart_queue_eq_iff _).mp named
            rw [named] at nonempty
            exact ⟨⟨noRetry, .inr ⟨nonempty, plain⟩⟩, address⟩
        · rintro ⟨⟨-, impossible | ⟨nonempty, plain⟩⟩, address⟩
          · cases impossible
          · rw [address, (lastPathPart_queue_eq_iff _).mpr plain,
              if_neg nonempty]
            exact ⟨_, _, rfl, fun _ => ⟨_, List.mem_cons_self, rfl⟩, rfl⟩

/-- Without a routing, both use one queue where the texts are the same. -/
theorem buildAddress_iff
    {given : Bool}
    (unrouted : messaging.ROUTING = none) :
    AmqpService.buildAddress messaging._address =
        "/amq/queue/" ++
          messaging.enqueueAddress (messaging.ownAddress given) ↔
      messaging.SameAddress given := by
  unfold AmqpService.buildAddress
  cases given with
  | true =>
      simp only [SameAddress, unrouted, enqueueAddress, ownAddress,
        ↓reduceIte, Option.getD_some, forall_const]
      cases slash : startsWith messaging._address "/" with
      | true =>
          refine iff_of_false ?_ (by simp)
          intro same
          have lengths := congrArg String.length same
          simp only [↓reduceIte, String.length_append] at lengths
          have prefixed : "/amq/queue/".length = 11 := rfl
          omega
      | false =>
          rcases messaging.workflowVariant_cases with
            ⟨plain, none⟩ | ⟨some, dashed⟩
          · simp [plain, none]
          · refine iff_of_false ?_ (fun both => some both.1)
            intro same
            have texts := congrArg String.toList same
            simp [String.toList_append, dashed] at texts
  | false =>
      have joined :
          "/amq/queue/" ++ ("undefined" ++ messaging.workflowVariant) =
            "/amq/queue/undefined" ++ messaging.workflowVariant := by
        rw [← String.append_assoc]
        rfl
      simp only [SameAddress, unrouted, enqueueAddress, ownAddress,
        Bool.false_eq_true, ↓reduceIte, Option.getD_none]
      cases slash : startsWith messaging._address "/" with
      | true =>
          rw [if_pos rfl, joined, or_iff_right]
          intro same
          rw [same] at slash
          simp [startsWith, String.toList_append, List.isPrefixOf] at slash
      | false =>
          rw [if_neg (by decide), or_iff_left]
          · simp
          · intro same
            rw [same] at slash
            simp [startsWith, String.toList_append, List.isPrefixOf] at slash

/--
A message that a workflow enqueues for itself reaches its listener exactly
where `listen` goes through and `enqueue` composes the address that belongs to
it.
-/
theorem reaches_iff
    (messaging : Messaging)
    (given : Bool) :
    messaging.Reaches given ↔
      messaging.Listens given ∧ messaging.SameAddress given := by
  cases routed : messaging.ROUTING with
  | none => rw [reaches_unrouted_iff routed, buildAddress_iff routed]
  | some routing =>
      cases routing with
      | fanout name =>
          rw [reaches_fanout_iff routed, listens_routed_iff routed]
          simp [and_assoc]
      | topic name =>
          rw [reaches_topic_iff routed, listens_routed_iff routed]
          simp [and_assoc]

/-- A workflow of orders, in one variant or another. -/
def orders (variant : String) : Messaging where
  _address := "orders"
  ROUTING := some (.topic "eu")
  WORKFLOW_VARIANT := variant
  durable := true
  maxRetry := 3

/--
With a variant the message goes to an exchange that nobody binds, and so it
does without a variant when the address is omitted.
-/
theorem orders_unreached :
    ¬ (orders "v2").Reaches true ∧ ¬ (orders "").Reaches false := by
  constructor
  · rw [reaches_topic_iff rfl]
    rintro ⟨-, -, same⟩
    exact absurd same.1 (by decide)
  · rw [reaches_topic_iff rfl]
    rintro ⟨-, -, same⟩
    exact absurd same.2 (by decide)

end Messaging

end NestBackend
