import Mathlib.Tactic.Cases
import NestBackend.Redis
import NestBackend.SessionStore

namespace NestBackend

/-!
# `AbstractRedisService` on a shared server

The operations of `AbstractRedisService` that work on one key, each with the
key it sends to Redis.  All of them put the namespace in front of their key but
two: `exists` and `incr` send the key as it is given.
-/

/-- An instance of `AbstractRedisService`. -/
structure RedisService where
  NAMESPACE : String
  deriving DecidableEq, Repr

/-- A method as its effect on the keys of the server, by instant. -/
abbrev RedisMethod (Result : Type) :=
  Nat → StoreEffect String Redis.Slot (Except RedisError Result)

namespace RedisService

/-- `cacheKey`. -/
def cacheKey (service : RedisService) (key : String) : String :=
  AbstractRedisService.cacheKey service.NAMESPACE key

/-- `del`. -/
def del (service : RedisService) (key : String) : RedisMethod Int :=
  Redis.send (service.cacheKey key) Redis.del

/-- `exists`. -/
def existing (_service : RedisService) (key : List String) : RedisMethod Int :=
  Redis.existing key

/-- `set`. -/
def set (service : RedisService) (key value : String) : RedisMethod Bool :=
  let nsKey := service.cacheKey key
  Redis.send nsKey ((Redis.set value).map (fun res => res == "OK"))

/-- `setEX`. -/
def setEX
    (service : RedisService)
    (key : String)
    (expireInSeconds : Int)
    (value : String) : RedisMethod Bool :=
  let nsKey := service.cacheKey key
  Redis.send nsKey
    ((Redis.setex expireInSeconds value).map (fun res => res == "OK"))

/-- `setNX`. -/
def setNX (service : RedisService) (key value : String) : RedisMethod Bool :=
  let nsKey := service.cacheKey key
  Redis.send nsKey ((Redis.setnx value).map (fun res => res != 0))

/-- `get`. -/
def get
    (service : RedisService)
    (key : String) : RedisMethod (Option String) :=
  Redis.send (service.cacheKey key) Redis.get

/-- `incr`. -/
def incr (_service : RedisService) (key : String) : RedisMethod Int :=
  Redis.send key Redis.incr

/-- `setAdd`. -/
def setAdd
    (service : RedisService)
    (setName : String)
    (members : List String) : RedisMethod Int :=
  let name := service.cacheKey setName
  Redis.send name (Redis.sadd members)

/-- `setRemove`. -/
def setRemove
    (service : RedisService)
    (setName : String)
    (members : List String) : RedisMethod Int :=
  let name := service.cacheKey setName
  Redis.send name (Redis.srem members)

/-- `setGet`. -/
def setGet
    (service : RedisService)
    (setName : String) : RedisMethod (List String) :=
  let name := service.cacheKey setName
  Redis.send name Redis.smembers

/-- `hSet`. -/
def hSet
    (service : RedisService)
    (hashName : String)
    (field : List (String × String)) : RedisMethod Int :=
  let name := service.cacheKey hashName
  Redis.send name (Redis.hset field)

/-- `hGet`. -/
def hGet
    (service : RedisService)
    (hashName fieldName : String) : RedisMethod (Option String) :=
  let name := service.cacheKey hashName
  Redis.send name (Redis.hget fieldName)

/-- `hGetAll`. -/
def hGetAll
    (service : RedisService)
    (hashName : String) : RedisMethod (List (String × String)) :=
  let name := service.cacheKey hashName
  Redis.send name Redis.hgetall

/-- `hIncrBy`. -/
def hIncrBy
    (service : RedisService)
    (hashName fieldName : String)
    (increment : Int) : RedisMethod Int :=
  let name := service.cacheKey hashName
  Redis.send name (Redis.hincrby fieldName increment)

/-- `hDel`. -/
def hDel
    (service : RedisService)
    (hashName : String)
    (fieldNames : List String) : RedisMethod Int :=
  let name := service.cacheKey hashName
  Redis.send name (Redis.hdel fieldNames)

end RedisService

/-- A call of one of the methods that work on one key. -/
inductive RedisCall where
  | set (key value : String)
  | setEX (key : String) (expireInSeconds : Int) (value : String)
  | setNX (key value : String)
  | get (key : String)
  | existing (key : String)
  | incr (key : String)
  | del (key : String)
  | setAdd (key : String) (members : List String)
  | setRemove (key : String) (members : List String)
  | setGet (key : String)
  | hSet (key : String) (field : List (String × String))
  | hGet (key fieldName : String)
  | hGetAll (key : String)
  | hIncrBy (key fieldName : String) (increment : Int)
  | hDel (key : String) (fieldNames : List String)
  deriving DecidableEq, Repr

/-- What a method resolves with. -/
inductive RedisAnswer where
  | boolean (value : Bool)
  | number (value : Int)
  | text (value : Option String)
  | texts (values : List String)
  | fields (values : List (String × String))
  deriving DecidableEq, Repr

namespace RedisMethod

/-- The method with its result among the answers. -/
def answering
    (method : RedisMethod Result)
    (answer : Result → RedisAnswer) : RedisMethod RedisAnswer :=
  fun now store => ((method now store).1, (method now store).2.map answer)

/-- The answer to a command on whose reply the method has computed. -/
theorem answering_send
    (key : String)
    (command : Redis.Command Output)
    (compute : Output → Result)
    (answer : Result → RedisAnswer) :
    answering (Redis.send key (command.map compute)) answer =
      Redis.send key (command.map (answer ∘ compute)) := by
  apply funext
  intro now
  apply funext
  intro store
  refine Prod.ext rfl ?_
  have reply :
      ∀ sent : Except RedisError Output,
        (sent.map compute).map answer = sent.map (answer ∘ compute) := by
    intro sent
    cases sent <;> rfl
  exact reply (command now (store key)).2

end RedisMethod

namespace RedisCall

/-- The key that a call is about. -/
def key : RedisCall → String
  | .set key _ => key
  | .setEX key _ _ => key
  | .setNX key _ => key
  | .get key => key
  | .existing key => key
  | .incr key => key
  | .del key => key
  | .setAdd key _ => key
  | .setRemove key _ => key
  | .setGet key => key
  | .hSet key _ => key
  | .hGet key _ => key
  | .hGetAll key => key
  | .hIncrBy key _ _ => key
  | .hDel key _ => key

/-- Call the method on an instance. -/
def perform
    (service : RedisService) : RedisCall → RedisMethod RedisAnswer
  | .set key value => (service.set key value).answering .boolean
  | .setEX key seconds value =>
      (service.setEX key seconds value).answering .boolean
  | .setNX key value => (service.setNX key value).answering .boolean
  | .get key => (service.get key).answering .text
  | .existing key => (service.existing [key]).answering .number
  | .incr key => (service.incr key).answering .number
  | .del key => (service.del key).answering .number
  | .setAdd key members => (service.setAdd key members).answering .number
  | .setRemove key members =>
      (service.setRemove key members).answering .number
  | .setGet key => (service.setGet key).answering .texts
  | .hSet key field => (service.hSet key field).answering .number
  | .hGet key fieldName => (service.hGet key fieldName).answering .text
  | .hGetAll key => (service.hGetAll key).answering .fields
  | .hIncrBy key fieldName increment =>
      (service.hIncrBy key fieldName increment).answering .number
  | .hDel key fieldNames => (service.hDel key fieldNames).answering .number

/--
What a call is meant to do to what the instance keeps under the key: the
operations on one entry of a map.
-/
def command : RedisCall → Redis.Command RedisAnswer
  | .set _ value =>
      (Redis.set value).map (fun res => .boolean (res == "OK"))
  | .setEX _ seconds value =>
      (Redis.setex seconds value).map (fun res => .boolean (res == "OK"))
  | .setNX _ value =>
      (Redis.setnx value).map (fun res => .boolean (res != 0))
  | .get _ => Redis.get.map .text
  | .existing _ => fun now slot =>
      (slot, .ok (.number (if (Redis.live now slot).isSome then 1 else 0)))
  | .incr _ => Redis.incr.map .number
  | .del _ => Redis.del.map .number
  | .setAdd _ members => (Redis.sadd members).map .number
  | .setRemove _ members => (Redis.srem members).map .number
  | .setGet _ => Redis.smembers.map .texts
  | .hSet _ field => (Redis.hset field).map .number
  | .hGet _ fieldName => (Redis.hget fieldName).map .text
  | .hGetAll _ => Redis.hgetall.map .fields
  | .hIncrBy _ fieldName increment =>
      (Redis.hincrby fieldName increment).map .number
  | .hDel _ fieldNames => (Redis.hdel fieldNames).map .number

/-- The two methods that send the key without the namespace. -/
def unprefixed : RedisCall → Bool
  | .existing _ => true
  | .incr _ => true
  | _ => false

/-- Redis refuses the arguments, whatever lies under the key. -/
def refused : RedisCall → Bool
  | .setEX _ seconds _ => seconds ≤ 0
  | .setAdd _ members => members = []
  | .setRemove _ members => members = []
  | .hSet _ field => field = []
  | .hDel _ fieldNames => fieldNames = []
  | _ => false

/-- A call that is not one of the two acts under its own prefixed key. -/
theorem perform_prefixed
    {call : RedisCall}
    (hasPrefix : call.unprefixed = false)
    (service : RedisService)
    (now : Nat) :
    call.perform service now =
      StoreEffect.atKey (service.cacheKey call.key) (call.command now) := by
  cases call
  case existing => cases hasPrefix
  case incr => cases hasPrefix
  case set key value =>
    exact congrFun (RedisMethod.answering_send _ _ _ _) now
  case setEX key seconds value =>
    exact congrFun (RedisMethod.answering_send _ _ _ _) now
  case setNX key value =>
    exact congrFun (RedisMethod.answering_send _ _ _ _) now
  all_goals rfl

/-- A refused call leaves the entry and does not depend on it. -/
theorem command_refused
    {call : RedisCall}
    (isRefused : call.refused = true)
    (now : Nat) :
    ∃ error, ∀ slot, call.command now slot = (slot, .error error) := by
  cases call
  case setEX key seconds value =>
    have nonPositive : seconds ≤ 0 := by simpa [refused] using isRefused
    refine ⟨.invalidExpireTime, ?_⟩
    intro slot
    simp [command, Redis.Command.map, Redis.setex, nonPositive, Except.map]
  case setAdd key members =>
    have empty : members = [] := by simpa [refused] using isRefused
    subst empty
    exact ⟨.wrongNumberOfArguments, fun _ => rfl⟩
  case setRemove key members =>
    have empty : members = [] := by simpa [refused] using isRefused
    subst empty
    exact ⟨.wrongNumberOfArguments, fun _ => rfl⟩
  case hSet key field =>
    have empty : field = [] := by simpa [refused] using isRefused
    subst empty
    exact ⟨.wrongNumberOfArguments, fun _ => rfl⟩
  case hDel key fieldNames =>
    have empty : fieldNames = [] := by simpa [refused] using isRefused
    subst empty
    exact ⟨.wrongNumberOfArguments, fun _ => rfl⟩
  all_goals cases isRefused

/-- The call changes some entry, or tells two of them apart. -/
theorem command_effective
    {call : RedisCall}
    (accepted : call.refused = false)
    (now : Nat) :
    ∃ first second : Redis.Slot,
      (call.command now first).1 ≠ first ∨
        (call.command now first).2 ≠ (call.command now second).2 := by
  have textAndNothing :
      ∀ call : RedisCall,
        (call.command now none).2 ≠
            (call.command now (some ⟨.string "", none⟩)).2 →
          ∃ first second : Redis.Slot,
            (call.command now first).1 ≠ first ∨
              (call.command now first).2 ≠ (call.command now second).2 :=
    fun _ differs => ⟨none, some ⟨.string "", none⟩, Or.inr differs⟩
  cases call
  case set key value =>
    exact ⟨none, none, Or.inl (by simp [command, Redis.Command.map, Redis.set])⟩
  case setEX key seconds value =>
    have positive : ¬ seconds ≤ 0 := by simpa [refused] using accepted
    refine ⟨none, none, Or.inl ?_⟩
    simp [command, Redis.Command.map, Redis.setex, positive]
  case setNX key value =>
    exact ⟨none, none, Or.inl
      (by simp [command, Redis.Command.map, Redis.setnx])⟩
  case get key =>
    apply textAndNothing
    simp [command, Redis.Command.map, Redis.get, Except.map]
  case existing key =>
    apply textAndNothing
    simp [command]
  case incr key =>
    exact ⟨none, none, Or.inl
      (by simp [command, Redis.Command.map, Redis.incr])⟩
  case del key =>
    apply textAndNothing
    simp [command, Redis.Command.map, Redis.del, Except.map]
  case setAdd key members =>
    apply textAndNothing
    have nonempty : members ≠ [] := by simpa [refused] using accepted
    simp [command, Redis.Command.map, Redis.sadd, Except.map,
      nonempty]
  case setRemove key members =>
    apply textAndNothing
    have nonempty : members ≠ [] := by simpa [refused] using accepted
    simp [command, Redis.Command.map, Redis.srem, Except.map,
      nonempty]
  case setGet key =>
    apply textAndNothing
    simp [command, Redis.Command.map, Redis.smembers, Except.map]
  case hSet key field =>
    apply textAndNothing
    have nonempty : field ≠ [] := by simpa [refused] using accepted
    simp [command, Redis.Command.map, Redis.hset, Except.map,
      nonempty]
  case hGet key fieldName =>
    apply textAndNothing
    simp [command, Redis.Command.map, Redis.hget, Except.map]
  case hGetAll key =>
    apply textAndNothing
    simp [command, Redis.Command.map, Redis.hgetall, Except.map]
  case hIncrBy key fieldName increment =>
    apply textAndNothing
    simp [command, Redis.Command.map, Redis.hincrby, Except.map]
  case hDel key fieldNames =>
    apply textAndNothing
    have nonempty : fieldNames ≠ [] := by simpa [refused] using accepted
    simp [command, Redis.Command.map, Redis.hdel, Except.map,
      nonempty]

end RedisCall

/-! ## Instances as private stores -/

namespace RedisService

/-- Keys of one instance are different from each other. -/
theorem cacheKey_injective (service : RedisService) :
    Function.Injective service.cacheKey := by
  intro first second same
  simpa [cacheKey, AbstractRedisService.cacheKey] using same

/-- A key is shorter than what it becomes in the namespace. -/
theorem cacheKey_ne (service : RedisService) (key : String) :
    key ≠ service.cacheKey key := by
  intro same
  have lengths := congrArg String.length same
  simp only [cacheKey, AbstractRedisService.cacheKey,
    String.length_append] at lengths
  have colon : ":".length = 1 := rfl
  omega

/-- The Redis key is one that another instance has for some key of its own. -/
def Owns (service : RedisService) (redisKey : String) : Prop :=
  ∃ key, service.cacheKey key = redisKey

/-- Namespaces without a colon have no key in common. -/
theorem not_owns_of_plain
    {first second : RedisService}
    (different : first.NAMESPACE ≠ second.NAMESPACE)
    (firstPlain : ':' ∉ first.NAMESPACE.toList)
    (secondPlain : ':' ∉ second.NAMESPACE.toList)
    (key : String) :
    ¬ first.Owns (second.cacheKey key) := by
  rintro ⟨other, same⟩
  have characters := congrArg String.toList same
  simp only [cacheKey, AbstractRedisService.cacheKey,
    String.toList_append, List.append_assoc] at characters
  have colon : ":".toList = [':'] := rfl
  rw [colon, List.singleton_append, List.singleton_append] at characters
  have leading :
      ∀ (stem rest : List Char),
        ':' ∉ stem →
          (stem ++ ':' :: rest).takeWhile (fun char => char ≠ ':') = stem := by
    intro stem rest plain
    rw [List.takeWhile_append_of_pos]
    · simp
    · intro char member
      simpa using fun (isColon : char = ':') => plain (isColon ▸ member)
  have sameNamespace :=
    congrArg (List.takeWhile (fun char => decide (char ≠ ':'))) characters
  rw [leading _ _ firstPlain, leading _ _ secondPlain] at sameNamespace
  exact different (String.toList_inj.mp sameNamespace)

end RedisService

/-- A call of one instance among several, at an instant. -/
structure RedisTurn (Client : Type) where
  client : Client
  call : RedisCall
  now : Nat

namespace RedisTurn

variable
  {Client : Type}
  (services : Client → RedisService)

/-- Where the instances keep what they have under their keys. -/
def place (client : Client) : String → String :=
  (services client).cacheKey

/-- The Redis key under which the instance keeps what the call is about. -/
def redisKey (turn : RedisTurn Client) : String :=
  (services turn.client).cacheKey turn.call.key

/-- What the call does to the keys of the server. -/
def effect
    (turn : RedisTurn Client) :
    StoreEffect String Redis.Slot (Except RedisError RedisAnswer) :=
  turn.call.perform (services turn.client) turn.now

/-- The calls as the server gets them. -/
def effects
    (turns : List (RedisTurn Client)) :
    List
      (Client ×
        StoreEffect String Redis.Slot (Except RedisError RedisAnswer)) :=
  turns.map (fun turn => (turn.client, turn.effect services))

/-- The call as an operation on a map that the instance has for itself. -/
def onOwnMap
    (turn : RedisTurn Client) :
    Turn Client String Redis.Slot (Except RedisError RedisAnswer) :=
  ⟨turn.client, turn.call.key, turn.call.command turn.now⟩

/--
Each instance is a private store: a call reads and writes the entry of its own
key only and ignores what is another instance's, and the instance gets the
replies and is left with the entries that a map of its own would give it.
-/
structure Private
    [DecidableEq Client]
    (turns : List (RedisTurn Client)) : Prop where
  confined :
    ∀ turn ∈ turns,
      (turn.effect services).Confined (turn.redisKey services)
  apart :
    ∀ turn ∈ turns, ∀ client,
      client ≠ turn.client →
        ∀ key, (turn.effect services).Ignores ((services client).cacheKey key)
  ownMap :
    ∀ (redis : String → Redis.Slot) client,
      Turn.runAlone client (turns.map onOwnMap)
          (ownView (place services) client redis) =
        (ownView (place services) client
            (StoreEffect.runAll (effects services turns) redis).1,
          repliesTo client
            (StoreEffect.runAll (effects services turns) redis).2)

/--
The call puts the namespace in front of its key, and no other instance has a
key that becomes the same; or Redis refuses its arguments.
-/
def Harmless (turn : RedisTurn Client) : Prop :=
  turn.call.refused = false →
    turn.call.unprefixed = false ∧
      ∀ client,
        client ≠ turn.client →
          ¬ (services client).Owns (turn.redisKey services)

variable {services}

/-- A call without the namespace is not confined to its own entry. -/
theorem not_confined
    {turn : RedisTurn Client}
    (noPrefix : turn.call.unprefixed = true) :
    ¬ (turn.effect services).Confined (turn.redisKey services) := by
  obtain ⟨client, call, now⟩ := turn
  intro confined
  cases call
  case existing key =>
    have different := (services client).cacheKey_ne key
    let empty : String → Redis.Slot := fun _ => none
    let filled := Function.update empty key (some ⟨.string "", none⟩)
    have sameEntry :
        empty ((services client).cacheKey key) =
          filled ((services client).cacheKey key) :=
      (Function.update_of_ne (Ne.symm different) _ empty).symm
    have same := confined.reply empty filled sameEntry
    simp [effect, RedisCall.perform, RedisService.existing,
      Redis.existing, RedisMethod.answering, Except.map, empty,
      filled] at same
  case incr key =>
    have different := (services client).cacheKey_ne key
    have same := confined.others (fun _ => none) key different
    simp [effect, RedisCall.perform, RedisService.incr, Redis.send,
      RedisMethod.answering, Redis.incr] at same
  all_goals cases noPrefix

/-- The namespace is put in front. -/
theorem effect_prefixed
    {turn : RedisTurn Client}
    (hasPrefix : turn.call.unprefixed = false) :
    turn.effect services = turn.onOwnMap.effect (place services) :=
  RedisCall.perform_prefixed hasPrefix (services turn.client) turn.now

/-- A call that Redis refuses has its namespace in front. -/
theorem prefixed_of_refused
    {call : RedisCall}
    (refused : call.refused = true) :
    call.unprefixed = false := by
  cases call
  case existing => cases refused
  case incr => cases refused
  all_goals rfl

/-- A refused call ignores every key. -/
theorem ignores_of_refused
    {turn : RedisTurn Client}
    (refused : turn.call.refused = true)
    (redisKey : String) :
    (turn.effect services).Ignores redisKey := by
  obtain ⟨error, leaves⟩ := RedisCall.command_refused refused turn.now
  have whole :
      ∀ redis, turn.effect services redis = (redis, .error error) := by
    intro redis
    rw [effect_prefixed (prefixed_of_refused refused)]
    simp [Turn.effect, onOwnMap, StoreEffect.atKey, leaves]
  refine ⟨?_, ?_, ?_⟩
  · intro redis
    rw [whole]
  · intro redis slot other different
    rw [whole, whole]
    exact Function.update_of_ne different slot redis
  · intro redis slot
    rw [whole, whole]

/-- A call that Redis accepts does not ignore its own key. -/
theorem not_ignores
    {turn : RedisTurn Client}
    (accepted : turn.call.refused = false)
    (hasPrefix : turn.call.unprefixed = false) :
    ¬ (turn.effect services).Ignores (turn.redisKey services) := by
  intro ignores
  rw [effect_prefixed hasPrefix] at ignores
  obtain ⟨first, second, changes | tells⟩ :=
    RedisCall.command_effective accepted turn.now
  · exact changes (StoreEffect.Ignores.act ignores first second).1
  · exact tells (StoreEffect.Ignores.act ignores first second).2

variable [DecidableEq Client]

/--
Instances of the Redis service are private stores exactly when no call uses
`exists` or `incr` and no two instances have keys that become the same.
-/
theorem private_iff (turns : List (RedisTurn Client)) :
    Private services turns ↔ ∀ turn ∈ turns, turn.Harmless services := by
  constructor
  · intro isPrivate turn member accepted
    have hasPrefix : turn.call.unprefixed = false := by
      cases unprefixed : turn.call.unprefixed with
      | false => rfl
      | true =>
          exact absurd (isPrivate.confined turn member)
            (not_confined unprefixed)
    refine ⟨hasPrefix, ?_⟩
    rintro client different ⟨key, same⟩
    have ignores := isPrivate.apart turn member client different key
    rw [same] at ignores
    exact not_ignores accepted hasPrefix ignores
  · intro harmless
    have hasPrefix :
        ∀ turn ∈ turns, turn.call.unprefixed = false := by
      intro turn member
      cases refused : turn.call.refused with
      | false => exact (harmless turn member refused).1
      | true => exact prefixed_of_refused refused
    have confined :
        ∀ turn ∈ turns,
          (turn.effect services).Confined (turn.redisKey services) := by
      intro turn member
      rw [effect_prefixed (hasPrefix turn member)]
      exact StoreEffect.atKey_confined _ _
    have apart :
        ∀ turn ∈ turns, ∀ client,
          client ≠ turn.client →
            ∀ key,
              (turn.effect services).Ignores
                ((services client).cacheKey key) := by
      intro turn member client different key
      cases refused : turn.call.refused with
      | true => exact ignores_of_refused refused _
      | false =>
          refine (confined turn member).ignores ?_
          intro same
          exact (harmless turn member refused).2 client different
            ⟨key, same⟩
    refine ⟨confined, apart, ?_⟩
    intro redis client
    have sameEffects :
        effects services turns =
          Turn.effects (place services) (turns.map onOwnMap) := by
      simp only [effects, Turn.effects, List.map_map]
      apply List.map_congr_left
      intro turn member
      exact Prod.ext rfl (effect_prefixed (hasPrefix turn member))
    rw [sameEffects]
    have injective : Function.Injective (place services client) :=
      (services client).cacheKey_injective
    refine Turn.runAll_alone injective _ ?_ redis
    intro ownTurn member different name
    obtain ⟨turn, turnMember, rfl⟩ := List.mem_map.mp member
    rw [← effect_prefixed (hasPrefix turn turnMember)]
    exact apart turn turnMember client (Ne.symm different) name

/-- Two instances of the application. -/
def cacheAndAmqp : Bool → RedisService
  | false => ⟨"REDIS_CACHE"⟩
  | true => ⟨"AMQP"⟩

/-- A number is stored, and then counted up under the same key. -/
def storedThenCounted : List (RedisTurn Bool) :=
  [⟨false, .set "hits" "5", 0⟩, ⟨false, .incr "hits", 1⟩]

/-- The count starts again, since `incr` looks at another entry. -/
theorem incr_forgets_namespace :
    (cacheAndAmqp false).NAMESPACE ≠ (cacheAndAmqp true).NAMESPACE ∧
      (StoreEffect.runAll (effects cacheAndAmqp storedThenCounted)
          (fun _ => none)).2 =
        [(false, .ok (.boolean true)), (false, .ok (.number 1))] ∧
      (Turn.runAlone false (storedThenCounted.map onOwnMap)
          (fun _ => none)).2 =
        [.ok (.boolean true), .ok (.number 6)] ∧
      ¬ Private cacheAndAmqp storedThenCounted := by
  refine ⟨by decide, by decide +kernel, by decide +kernel, ?_⟩
  intro isPrivate
  have counts :=
    isPrivate.confined ⟨false, .incr "hits", 1⟩
      (List.mem_cons_of_mem _ (List.mem_cons_self ..))
  exact not_confined rfl counts

end RedisTurn

end NestBackend
