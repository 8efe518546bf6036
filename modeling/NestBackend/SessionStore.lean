import NestBackend.GlobPattern
import NestBackend.StoreProgram
import NestBackend.TokenPayload

namespace NestBackend

open JavaScript

/-!
# The session store

`AbstractRedisService`, its instance `SessionRedisStorage`, and
`BaseSessionService` with its two instances for tokens and for sessions.

A stored value is the JSON object that `valueSerializer` writes and
`valueDeserializer` reads back.  An object is never falsy, so the tests of the
services for a missing session can only fail where the read itself throws.
-/

/-- `SYSTEM_CODE`. -/
inductive SystemCode where
  | success
  | failed
  | timeout
  | sorrySomethingWentWrong
  | pleaseThrowSystemCode
  | tokenIsNotAllowToRefresh
  | tokenIsInvalid
  | badRequest
  | unauthorized
  | forbidden
  | sessionNotAvailable
  | insufficientPermission
  | recordNotFound
  | userNotExit
  | notConnectCash
  | cantVerifyPermission
  | agentExisting
  | accountInvalid
  | icoreProblem
  | internalErrorOccurred
  | fetchRequestFailed
  deriving DecidableEq, Repr

namespace SystemCode

/-- The enumeration value. -/
def text : SystemCode → String
  | .success => "SUCCESS"
  | .failed => "FAILED"
  | .timeout => "TIMEOUT"
  | .sorrySomethingWentWrong => "SORRY_SOMETHING_WENT_WRONG"
  | .pleaseThrowSystemCode => "PLEASE_THROW_SYSTEM_CODE"
  | .tokenIsNotAllowToRefresh => "TOKEN_IS_NOT_ALLOW_TO_REFRESH"
  | .tokenIsInvalid => "TOKEN_IS_INVALID"
  | .badRequest => "BAD_REQUEST"
  | .unauthorized => "UNAUTHORIZED"
  | .forbidden => "FORBIDDEN"
  | .sessionNotAvailable => "SESSION_NOT_AVAILABLE"
  | .insufficientPermission => "INSUFFICIENT_PERMISSION"
  | .recordNotFound => "RECORD_NOT_FOUND"
  | .userNotExit => "USER_NOT_EXIT"
  | .notConnectCash => "NOT_CONNECT_CASH"
  | .cantVerifyPermission => "CANT_VERIFY_PERMISSION"
  | .agentExisting => "AGENT_EXISTING"
  | .accountInvalid => "ACCOUNT_INVALID"
  | .icoreProblem => "ICORE_PROBLEM"
  | .internalErrorOccurred => "INTERNAL_ERROR_OCCURRED"
  | .fetchRequestFailed => "FETCH_REQUEST_FAILED"

/-- `Object.values(SYSTEM_CODE)`. -/
def all : List SystemCode :=
  [.success, .failed, .timeout, .sorrySomethingWentWrong,
    .pleaseThrowSystemCode, .tokenIsNotAllowToRefresh, .tokenIsInvalid,
    .badRequest, .unauthorized, .forbidden, .sessionNotAvailable,
    .insufficientPermission, .recordNotFound, .userNotExit,
    .notConnectCash, .cantVerifyPermission, .agentExisting,
    .accountInvalid, .icoreProblem, .internalErrorOccurred,
    .fetchRequestFailed]

/-- The member with a given value. -/
def ofText? (text : String) : Option SystemCode :=
  all.find? (fun code => code.text == text)

/-- Only the value of a member finds it. -/
theorem text_of_ofText?
    {text : String}
    {code : SystemCode}
    (found : ofText? text = some code) :
    code.text = text := by
  simpa using List.find?_some found

/-- Looking a member up by its value finds it. -/
@[simp] theorem ofText?_text (code : SystemCode) :
    ofText? code.text = some code := by
  cases code <;> decide

/-- No two members have the same value. -/
theorem text_injective : Function.Injective text := by
  intro first second same
  have found := congrArg ofText? same
  rw [ofText?_text, ofText?_text] at found
  exact Option.some.inj found

end SystemCode

/-- What an asynchronous function rejects with. -/
inductive Failure where
  | error (message : String)
  | unauthorizedException (message : String)
  | badRequestException (message : String)
  | internalServerErrorException (message : String)
  | storeFailure (error : StoreError)
  | typeError
  deriving DecidableEq, Repr

/-- An asynchronous function over the Redis keyspace of the sessions. -/
abbrev SessionProgram := StoreProgram String JsonObject Failure

/-! ## `AbstractRedisService` -/

namespace AbstractRedisService

variable {Value : Type}

/-- `cacheKey`. -/
def cacheKey (nsKey key : String) : String :=
  nsKey ++ ":" ++ key

/-- `setEX`. -/
def setEX
    (nsKey key : String)
    (expireInSeconds : Option Int)
    (value : Value) : StoreProgram String Value Failure Bool :=
  .setex (cacheKey nsKey key) expireInSeconds value fun reply =>
    match reply with
    | .ok accepted => pure accepted
    | .error error => throw (.storeFailure error)

/-- `get`. -/
def get
    (nsKey key : String) :
    StoreProgram String Value Failure (Option Value) :=
  .get (cacheKey nsKey key) fun reply =>
    match reply with
    | .ok found => pure found
    | .error error => throw (.storeFailure error)

/-- `del`. -/
def del
    (nsKey key : String) : StoreProgram String Value Failure Nat :=
  .del (cacheKey nsKey key) fun reply =>
    match reply with
    | .ok count => pure count
    | .error error => throw (.storeFailure error)

/-- `getKeys`: the matching keys without the namespace. -/
def getKeys
    (nsKey subPattern : String) :
    StoreProgram String Value Failure (List String) :=
  .keys (Glob.accepts (cacheKey nsKey subPattern)) fun reply =>
    match reply with
    | .ok keys =>
        pure (keys.map fun key => replaceFirst key (cacheKey nsKey "") "")
    | .error error => throw (.storeFailure error)

end AbstractRedisService

/-- The namespace of `SessionRedisStorage`; it ends in a colon of its own. -/
def sessionRedisNamespace : String := "REDIS_SESSION:"

/-! ## `BaseSessionService` -/

/-- `TokenSessionService` and `AuthSessionService`. -/
inductive SessionService where
  | token
  | session
  deriving DecidableEq, Repr

namespace SessionService

/-- `NAMESPACE`. -/
def text : SessionService → String
  | .token => "TOKEN"
  | .session => "SESSION"

/-- `cacheKey`. -/
def cacheKey (service : SessionService) (type id : String) : String :=
  service.text ++ ":" ++ type ++ ":" ++ id

/-- The Redis key behind `cacheKey`. -/
def storageKey (service : SessionService) (type id : String) : String :=
  AbstractRedisService.cacheKey sessionRedisNamespace
    (service.cacheKey type id)

/-- The own properties `exp` and `iat` that `addSession` starts from. -/
def stamp (now : Nat) (expireInSeconds : Option Int) : Properties
  | "exp" =>
      match expireInSeconds with
      | some seconds => some (some (.int ((now / 1000 : Nat) + seconds)))
      | none => some (some .null)
  | "iat" => some (some (.int (now / 1000 : Nat)))
  | _ => none

/--
`addSession`.  The spread of `value` comes last, so an own property of it wins
over the stamp even when it is undefined.
-/
def addSession
    (service : SessionService)
    (type id : String)
    (expireInSeconds : Option Int)
    (value : Properties) : SessionProgram Properties :=
  .clock fun now => do
    let res ← AbstractRedisService.setEX sessionRedisNamespace
      (service.cacheKey type id) expireInSeconds
      ((stamp now expireInSeconds).spread value).stringify
    if res then
      return value
    else
      throw (.badRequestException SystemCode.sessionNotAvailable.text)

/-- `getSessionValue`. -/
def getSessionValue
    (service : SessionService)
    (type id : String) : SessionProgram JsonObject :=
  tryCatchThe Failure
    (do
      let found ← AbstractRedisService.get sessionRedisNamespace
        (service.cacheKey type id)
      match found with
      | some value => return value
      | none => throw (.error "Session key not exist"))
    fun _ =>
      throw (.unauthorizedException "Failed to get session value")

/-- `getKeys`. -/
def getKeys
    (service : SessionService)
    (type id : String) : SessionProgram (List String) := do
  let keys ← AbstractRedisService.getKeys sessionRedisNamespace
    (service.cacheKey type id)
  return keys.map fun key => replaceFirst key (service.cacheKey type "") ""

/-- What `getKeys` here and in the storage make of one Redis key. -/
def stripKey (service : SessionService) (type key : String) : String :=
  replaceFirst
    (replaceFirst key
      (AbstractRedisService.cacheKey sessionRedisNamespace "") "")
    (service.cacheKey type "") ""

/-- `clearSession`. -/
def clearSession
    (service : SessionService)
    (type id : String) : SessionProgram Bool := do
  let _ ← AbstractRedisService.del sessionRedisNamespace
    (service.cacheKey type id)
  return true

/-! ### The stamp -/

/-- The stamp of `addSession` sets `exp` and `iat` only. -/
theorem stringify_stamp_spread
    {now : Nat}
    {seconds : Option Int}
    {value : Properties}
    {name : String}
    (notExp : name ≠ "exp")
    (notIat : name ≠ "iat") :
    ((stamp now seconds).spread value).stringify name =
      value.stringify name := by
  have notStamped : stamp now seconds name = none := by
    unfold stamp
    split
    · exact (notExp rfl).elim
    · exact (notIat rfl).elim
    · rfl
  unfold Properties.stringify Properties.spread
  rw [notStamped, Option.or_none]

/-! ### What the operations are as command trees -/

/-- `addSession` is one clock reading and one write. -/
theorem addSession_eq
    (service : SessionService)
    (type id : String)
    (expireInSeconds : Option Int)
    (value : Properties) :
    service.addSession type id expireInSeconds value =
      .clock fun now =>
        .setex (service.storageKey type id) expireInSeconds
          ((stamp now expireInSeconds).spread value).stringify
          fun reply =>
            match reply with
            | .ok true => .done (.ok value)
            | .ok false =>
                .done (.error
                  (.badRequestException
                    SystemCode.sessionNotAvailable.text))
            | .error error => .done (.error (.storeFailure error)) := by
  unfold addSession AbstractRedisService.setEX
  congr 1
  funext now
  rw [StoreProgram.setex_bind]
  congr 1
  funext reply
  match reply with
  | .ok true => rfl
  | .ok false => rfl
  | .error error => rfl

/-- `getSessionValue` is one read. -/
theorem getSessionValue_eq
    (service : SessionService)
    (type id : String) :
    service.getSessionValue type id =
      .get (service.storageKey type id) fun reply =>
        match reply with
        | .ok (some value) => .done (.ok value)
        | _ =>
            .done (.error
              (.unauthorizedException "Failed to get session value")) := by
  unfold getSessionValue AbstractRedisService.get
  rw [StoreProgram.tryCatch_eq, StoreProgram.get_bind]
  simp only [StoreProgram.tryCatch]
  congr 1
  funext reply
  match reply with
  | .ok (some value) => rfl
  | .ok none => rfl
  | .error error => rfl

/-- `clearSession` is one deletion. -/
theorem clearSession_eq
    (service : SessionService)
    (type id : String) :
    service.clearSession type id =
      .del (service.storageKey type id) fun reply =>
        match reply with
        | .ok _ => .done (.ok true)
        | .error error => .done (.error (.storeFailure error)) := by
  unfold clearSession AbstractRedisService.del
  rw [StoreProgram.del_bind]
  congr 1
  funext reply
  match reply with
  | .ok count => rfl
  | .error error => rfl

/-- `getKeys` is one scan. -/
theorem getKeys_eq
    (service : SessionService)
    (type id : String) :
    service.getKeys type id =
      .keys (Glob.accepts (service.storageKey type id)) fun reply =>
        match reply with
        | .ok keys =>
            .done (.ok (keys.map (service.stripKey type)))
        | .error error => .done (.error (.storeFailure error)) := by
  unfold getKeys AbstractRedisService.getKeys
  rw [StoreProgram.keys_bind]
  congr 1
  funext reply
  match reply with
  | .ok keys =>
      simp only [StoreProgram.pure_eq, StoreProgram.ok_bind, List.map_map]
      rfl
  | .error error => rfl

/-! ### Storage keys -/

/-- A storage key with its identifier split off. -/
theorem storageKey_eq_append
    (service : SessionService)
    (type id : String) :
    service.storageKey type id = service.storageKey type "" ++ id := by
  simp [storageKey, cacheKey, AbstractRedisService.cacheKey,
    String.append_assoc]

/-- Within one service and type the identifier can be read off the key. -/
theorem storageKey_injective
    {service : SessionService}
    {type first second : String}
    (same :
      service.storageKey type first = service.storageKey type second) :
    first = second := by
  rw [storageKey_eq_append, service.storageKey_eq_append type second]
    at same
  have sameChars := congrArg String.toList same
  rw [String.toList_append, String.toList_append] at sameChars
  exact String.toList_injective (List.append_cancel_left sameChars)

/-- Keys of the two services differ, whatever their types and identifiers. -/
theorem storageKey_token_ne_session
    (firstType firstId secondType secondId : String) :
    SessionService.token.storageKey firstType firstId ≠
      SessionService.session.storageKey secondType secondId := by
  intro same
  have sameChars := congrArg String.toList same
  simp [storageKey, cacheKey, AbstractRedisService.cacheKey, text,
    sessionRedisNamespace, String.toList_append] at sameChars

/-- A storage key is a prefix of its service followed by type and identifier. -/
theorem storageKey_toList
    (service : SessionService)
    (type id : String) :
    (service.storageKey type id).toList =
      (sessionRedisNamespace ++ ":" ++ service.text ++ ":").toList ++
        (type ++ ":" ++ id).toList := by
  simp [storageKey, cacheKey, AbstractRedisService.cacheKey,
    String.toList_append]

/--
Where two pairs of type and identifier meet in one service they meet in the
other: the colon does not say where the type ends, in either of them.
-/
theorem storageKey_transfer
    {first : SessionService}
    {type id otherType otherId : String}
    (same : first.storageKey type id = first.storageKey otherType otherId)
    (second : SessionService) :
    second.storageKey type id = second.storageKey otherType otherId := by
  have sameChars := congrArg String.toList same
  rw [storageKey_toList, storageKey_toList] at sameChars
  have sameSuffix := List.append_cancel_left sameChars
  apply String.toList_injective
  rw [storageKey_toList, storageKey_toList, sameSuffix]

/-- The two prefixes that `getKeys` strips leave the identifier. -/
@[simp] theorem stripKey_storageKey
    (service : SessionService)
    (type id : String) :
    service.stripKey type (service.storageKey type id) = id := by
  have stripNamespace :
      replaceFirst (service.storageKey type id)
          (AbstractRedisService.cacheKey sessionRedisNamespace "") "" =
        service.cacheKey type id := by
    have shape :
        service.storageKey type id =
          AbstractRedisService.cacheKey sessionRedisNamespace "" ++
            service.cacheKey type id := by
      simp [storageKey, AbstractRedisService.cacheKey]
    rw [shape, replaceFirst_prefix]
  have stripService :
      service.cacheKey type id = service.cacheKey type "" ++ id := by
    simp [cacheKey]
  rw [stripKey, stripNamespace, stripService, replaceFirst_prefix]

end SessionService

end NestBackend
