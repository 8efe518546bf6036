import NestBackend.AuthSystem
import NestBackend.RedisServer
import NestBackend.RenewedSession
import NestBackend.UserIsolation
import NestBackend.WritableValues

namespace NestBackend

open JavaScript

/-!
# The sessions on their Redis server

Tokens and sessions are texts on a server that the caches and the message
handlers use as well.  A call writes with `JSON.stringify` and reads with
`JSON.parse`, a scan lists the keys in any order, and the other services change
their own keys meanwhile.  All of this can be left out of account: the calls do
on the server what they do on a store of entries, and the other way round.
-/

/-- The keys of `SessionRedisStorage`. -/
def IsSessionKey (key : String) : Prop :=
  startsWith key (AbstractRedisService.cacheKey sessionRedisNamespace "") =
    true

/-- The texts of objects. -/
def sessionCodec : TextCodec JsonObject where
  writes value text :=
    ∃ tree : JsonTree,
      tree.Writable ∧ tree.value = .obj value ∧
        text = String.ofList tree.text
  reads? text :=
    match parseJson text with
    | some (.obj value) => some value
    | _ => none
  reads?_of_writes := by
    rintro value text ⟨tree, writable, same, rfl⟩
    rw [parseJson_text writable, same]

/-- An object has a text when it can be written. -/
theorem good_iff
    {value : JsonObject} :
    sessionCodec.Good value ↔ (Json.obj value).Writable := by
  constructor
  · rintro ⟨text, tree, writable, same, -⟩
    exact ⟨tree, writable, same⟩
  · rintro ⟨tree, writable, same⟩
    exact ⟨_, tree, writable, same, rfl⟩

/-! ## What the calls write -/

/-- The properties of the payload that come from elsewhere can be written. -/
def BaseJwtPayload.Writable (payload : BaseJwtPayload) : Prop :=
  (∀ json, payload.iat = some json → json.Writable) ∧
    ∀ json, payload.exp = some json → json.Writable

/-- What a caller passes to the mutator can be written. -/
def AuthSessionService.Mutator.Writable : Mutator → Prop
  | .addFlowSession value => value.Writable
  | .updateFlowSession value => value.Writable
  | _ => True

/-- What a caller passes to the call can be written. -/
def AuthOperation.Writable : AuthOperation → Prop
  | .authenticate _ _ payload session _ _ _ =>
      payload.Writable ∧ session.Writable
  | .authenticateWithHardSecret _ payload session _ _ =>
      payload.Writable ∧ session.Writable
  | .renewToken _ _ content _ _ => content.val.Writable
  | .mutate _ _ mutator => mutator.Writable
  | _ => True

section Written

variable {payload : BaseJwtPayload} {session : JsonObject}

/-- An identifier that is drawn is a text. -/
theorem BaseJwtPayload.Writable.ensureId
    (writable : payload.Writable)
    (drawnId : String) :
    (BaseAuthService.ensureId drawnId payload).Writable := by
  unfold BaseAuthService.ensureId
  split
  · exact writable
  · split
    · exact writable
    · exact writable

/-- The properties of a payload. -/
theorem BaseJwtPayload.Writable.properties
    (writable : payload.Writable)
    (tokenClass : TokenClass) :
    (payload.properties tokenClass).Writable := by
  refine
    Properties.writable_of_names
      ["iat", "exp", "key", "id", "sessionChannel", "type",
        "needVerifyJwtSignature"] ?_ ?_
  · intro name notListed
    unfold BaseJwtPayload.properties
    split <;> simp_all
  · intro name value found
    unfold BaseJwtPayload.properties at found
    split at found
    · exact writable.1 value (Option.some.inj found)
    · exact writable.2 value (Option.some.inj found)
    · cases found
      exact Json.writable_str _
    · obtain ⟨id, -, rfl⟩ :=
        Option.map_eq_some_iff.mp (Option.some.inj found)
      exact Json.writable_str id
    · cases found
      exact Json.writable_str _
    · cases found
      exact Json.writable_str _
    · cases found
      exact Json.writable_bool _
    · cases found

/-- The stamp of `addSession`. -/
theorem SessionService.writable_stamp
    (now : Nat)
    (expireInSeconds : Option Int) :
    (stamp now expireInSeconds).Writable := by
  refine Properties.writable_of_names ["exp", "iat"] ?_ ?_
  · intro name notListed
    unfold stamp
    split <;> simp_all
  · intro name value found
    unfold stamp at found
    split at found
    · split at found
      · cases found
        exact Json.writable_int _
      · cases found
        exact Json.writable_null
    · cases found
      exact Json.writable_int _
    · cases found

/-- What `addSession` stores. -/
theorem SessionService.good_stored
    {value : Properties}
    (writable : value.Writable)
    (now : Nat)
    (expireInSeconds : Option Int) :
    sessionCodec.Good
      ((stamp now expireInSeconds).spread value).stringify :=
  good_iff.mpr ((writable_stamp now expireInSeconds).spread writable)

/-- The tokens that a session lists already. -/
theorem BaseAuthService.writable_tokenIDs
    {given : Properties}
    {earlier : List Json}
    (writable : given.Writable)
    (listed : tokenIDs given = .ok earlier) :
    ∀ element ∈ earlier, element.Writable := by
  unfold tokenIDs at listed
  split at listed
  · cases listed
    intro element member
    cases member
  · rename_i elements found
    obtain rfl := Except.ok.inj listed
    exact
      Json.writable_arr.mp
        ((Properties.writable_iff.mp writable).2 _ _ found)
  · obtain rfl := Except.ok.inj listed
    intro element member
    obtain ⟨char, -, rfl⟩ := List.mem_map.mp member
    exact Json.writable_str _
  · split at listed
    · cases listed
    · cases listed
      intro element member
      cases member

/-- The session that is bound to a token. -/
theorem BaseAuthService.writable_boundSession
    {given : Properties}
    {earlier : List Json}
    (writable : given.Writable)
    (listed : tokenIDs given = .ok earlier) :
    (boundSession given payload earlier).Writable := by
  apply Properties.Writable.set
  · apply Properties.Writable.set writable
    rintro json ⟨⟩
    exact Json.writable_str _
  · rintro json ⟨⟩
    refine Json.writable_arr.mpr ?_
    intro element member
    rcases List.mem_append.mp member with old | new
    · exact writable_tokenIDs writable listed element old
    · rw [Option.mem_toList] at new
      obtain ⟨id, -, rfl⟩ := Option.map_eq_some_iff.mp new
      exact Json.writable_str id

namespace AuthSessionService

/-- Texts that are pushed can be written. -/
theorem writable_pushMissing
    {elements : List Json}
    (writable : ∀ element ∈ elements, element.Writable)
    (texts : List String) :
    ∀ element ∈ pushMissing elements texts, element.Writable := by
  induction texts generalizing elements with
  | nil => exact writable
  | cons text rest inductionHypothesis =>
      unfold pushMissing
      split
      · exact inductionHypothesis writable
      · apply inductionHypothesis
        intro element member
        rcases List.mem_append.mp member with old | new
        · exact writable element old
        · rw [List.mem_singleton.mp new]
          exact Json.writable_str text

/-- A list to which texts were pushed can be written when it could. -/
theorem writable_pushAll
    {target updated : Option Json}
    {texts : List String}
    (writable : ∀ json, target = some json → json.Writable)
    (pushed : pushAll target texts = .ok updated) :
    ∀ json, updated = some json → json.Writable := by
  unfold pushAll at pushed
  split at pushed
  · obtain rfl := Except.ok.inj pushed
    exact writable
  · split at pushed
    · obtain rfl := Except.ok.inj pushed
      rintro json ⟨⟩
      exact
        Json.writable_arr.mpr
          (writable_pushMissing
            (Json.writable_arr.mp (writable _ rfl)) _)
    · split at pushed
      · obtain rfl := Except.ok.inj pushed
        exact writable
      · cases pushed
    · cases pushed

/-- A flow session of a session that can be written. -/
theorem writable_flowSession
    (writable : (Json.obj session).Writable)
    {type : String}
    {flow : Json}
    (found : flowSession session type = some flow) :
    flow.Writable := by
  obtain ⟨flows, isProperty, isFlow⟩ := Option.bind_eq_some_iff.mp found
  have flowsWritable :=
    (Json.writable_obj.mp writable).2 "flowSessions" flows isProperty
  exact flowsWritable.property isFlow

/-- A session in which a flow session was set. -/
theorem writable_setFlowSession
    (writable : (Json.obj session).Writable)
    (type : String)
    {flow : Option Json}
    (isWritable : ∀ json, flow = some json → json.Writable) :
    (setFlowSession session type flow).Writable := by
  have own : (JsonObject.properties session).Writable := by
    unfold Properties.Writable
    rw [Properties.stringify_properties]
    exact writable
  apply own.set
  rintro json ⟨⟩
  apply Properties.Writable.set
  · apply Properties.writable_ofJson
    intro flows found
    exact (Json.writable_obj.mp writable).2 "flowSessions" flows found
  · exact isWritable

/-- What a mutator makes of a session that can be written. -/
theorem Mutator.writable_change
    {mutator : Mutator}
    {value : Properties}
    (given : mutator.Writable)
    (writable : (Json.obj session).Writable)
    (changed : mutator.change session = .ok value) :
    value.Writable := by
  have own : (JsonObject.properties session).Writable := by
    unfold Properties.Writable
    rw [Properties.stringify_properties]
    exact writable
  have held := (Json.writable_obj.mp writable).2
  have addsFlow :
      ∀ {flow : Properties},
        flow.Writable →
        withFlowSession flow session = .ok value →
          value.Writable := by
    intro flow flowWritable added
    obtain rfl := Except.ok.inj added
    apply writable_setFlowSession writable
    rintro json ⟨⟩
    apply Properties.Writable.spread
    · apply Properties.writable_ofJson
      intro earlier found
      exact writable_flowSession writable found
    · exact flowWritable
  cases mutator with
  | addPermissions permissions =>
      obtain ⟨updated, pushed, rfl⟩ := map_ok changed
      apply own.set
      refine writable_pushAll ?_ pushed
      intro json found
      split at found
      · exact held "permissions" json found
      · cases found
        exact Json.writable_arr.mpr (by simp)
  | addFlowSession flow => exact addsFlow given changed
  | updateFlowSession flow => exact addsFlow given changed
  | clearFlowSession type =>
      obtain rfl := Except.ok.inj changed
      apply writable_setFlowSession writable
      rintro json ⟨⟩
  | addFlowPermissions type permissions =>
      obtain ⟨flow, updated, found, -, pushed, rfl⟩ :=
        withFlowPermissions_ok changed
      have flowWritable := writable_flowSession writable found
      have copied : (Properties.ofJson (some flow)).Writable := by
        apply Properties.writable_ofJson
        rintro json ⟨⟩
        exact flowWritable
      have updatedWritable :=
        writable_pushAll
          (fun _ isProperty => flowWritable.property isProperty) pushed
      apply writable_setFlowSession writable
      rintro json ⟨⟩
      cases updated with
      | none => exact copied
      | some permissions => exact copied.set updatedWritable

end AuthSessionService

end Written

/-! ## What the calls do -/

/-- A program that uses the sessions alone, in no order of their keys. -/
abbrev SessionSteady {Result : Type} (program : SessionProgram Result) :
    Prop :=
  program.Steady IsSessionKey sessionCodec.Good

/-- Both services keep to the keys of the storage. -/
theorem SessionService.isSessionKey
    (service : SessionService)
    (type id : String) :
    IsSessionKey (service.storageKey type id) := by
  unfold IsSessionKey startsWith SessionService.storageKey
    AbstractRedisService.cacheKey
  rw [List.isPrefixOf_iff_prefix]
  simp [String.toList_append]

/-- So do their scans. -/
theorem SessionService.isSessionKey_of_accepted
    {service : SessionService}
    {type id key : String}
    (accepted :
      Glob.accepts (service.storageKey type id) key = true) :
    IsSessionKey key := by
  have plain :
      Glob.Plain
        (AbstractRedisService.cacheKey sessionRedisNamespace "").toList := by
    decide
  have shape :
      service.storageKey type id =
        AbstractRedisService.cacheKey sessionRedisNamespace "" ++
          service.cacheKey type id := by
    simp [SessionService.storageKey, AbstractRedisService.cacheKey]
  rw [shape, Glob.accepts_plain_append plain] at accepted
  obtain ⟨rest, rfl, -⟩ := accepted
  unfold IsSessionKey startsWith
  rw [List.isPrefixOf_iff_prefix, String.toList_append]
  exact List.prefix_append _ _

section Steady

variable
  {env : CoreEnvironment}
  {jwt : JwtService}

theorem SessionService.addSession_steady
    {value : Properties}
    (writable : value.Writable)
    (service : SessionService)
    (type id : String)
    (expireInSeconds : Option Int) :
    SessionSteady (service.addSession type id expireInSeconds value) := by
  rw [addSession_eq]
  apply StoreProgram.Alike.clock
  intro now
  apply StoreProgram.Alike.setex (service.isSessionKey type id)
  · exact good_stored writable now expireInSeconds
  · intro reply
    match reply with
    | .ok true => exact .done rfl
    | .ok false => exact .done rfl
    | .error error => exact .done rfl

/-- A scan lists the same identifiers, in some order. -/
theorem SessionService.getKeys_alike
    {service : SessionService}
    {type id : String}
    {agree :
      Except Failure (List String) → Except Failure (List String) → Prop}
    (listed :
      ∀ keys reordered : List String,
        keys.Perm reordered → agree (.ok keys) (.ok reordered))
    (failed : ∀ failure, agree (.error failure) (.error failure)) :
    StoreProgram.Alike IsSessionKey sessionCodec.Good agree
      (service.getKeys type id) (service.getKeys type id) := by
  rw [getKeys_eq]
  apply StoreProgram.Alike.keys
  · exact fun key accepted => isSessionKey_of_accepted accepted
  · intro keys reordered same _
    exact .done (listed _ _ (same.map _))
  · exact fun error => .done (failed _)

theorem SessionService.clearSession_steady
    (service : SessionService)
    (type id : String) :
    SessionSteady (service.clearSession type id) := by
  rw [clearSession_eq]
  apply StoreProgram.Alike.del (service.isSessionKey type id)
  intro reply
  cases reply with
  | ok count => exact .done rfl
  | error error => exact .done rfl

/-- A rewriting writes what it computes from a session that was written. -/
theorem AuthSessionService.rewriteSession_steady
    {change : JsonObject → Except Failure Properties}
    (changes :
      ∀ session value,
        (Json.obj session).Writable →
        change session = .ok value →
          value.Writable)
    (readType writeType : JwtSession)
    (key : String) :
    SessionSteady (rewriteSession readType writeType key change) := by
  rw [rewriteSession_eq]
  apply StoreProgram.Alike.get
  · exact SessionService.isSessionKey ..
  · intro reply good
    match reply with
    | .error error => exact .done rfl
    | .ok none => exact .done rfl
    | .ok (some session) =>
        have writable := good_iff.mp (good session rfl)
        simp only
        cases changed : change session with
        | error failure => exact .done rfl
        | ok value =>
            apply StoreProgram.Alike.clock
            intro now
            exact
              SessionService.addSession_steady
                (changes session value writable changed) ..

theorem AuthSessionService.Mutator.program_steady
    {mutator : Mutator}
    (given : mutator.Writable)
    (key : String)
    (sessionType : JwtSession) :
    SessionSteady (mutator.program key sessionType) := by
  rcases mutator.program_cases key sessionType with rewrites | refused
  · rw [rewrites]
    apply rewriteSession_steady
    intro session value writable changed
    exact mutator.writable_change given writable changed
  · rw [refused]
    exact .done rfl

namespace BaseAuthService

variable {drawnId secretGeneration : String} {payload : BaseJwtPayload}

theorem addBoundSession_steady
    {session : Properties}
    (writable : session.Writable)
    (payload : BaseJwtPayload)
    (expireTime : Int)
    (sessionLifeTime : Option Int) :
    SessionSteady
      (addBoundSession payload session expireTime sessionLifeTime) := by
  unfold addBoundSession
  split
  · exact .done rfl
  · rename_i earlier listed
    exact
      SessionService.addSession_steady
        (writable_boundSession writable listed) ..

theorem storeToken_steady
    {content : Properties}
    (writable : content.Writable)
    (expireTime : Int) :
    SessionSteady
      (storeToken env jwt drawnId secretGeneration payload content
        expireTime) := by
  apply StoreProgram.Alike.clock
  intro now
  apply StoreProgram.Alike.bind_eq
  · exact SessionService.addSession_steady writable ..
  · exact fun _ => .done rfl

/-- `createToken` starts the same deletions whatever the order of its scan. -/
theorem createToken_steady
    (writable : payload.Writable)
    (allowMultipleTokens : Bool)
    (expireTime : Int) :
    SessionSteady
      (createToken env jwt drawnId secretGeneration payload
        allowMultipleTokens expireTime) := by
  unfold createToken
  cases built : buildTokenPayload payload with
  | error failure => exact .done rfl
  | ok content =>
      obtain ⟨type, -, rfl⟩ := buildTokenPayload_ok built
      have stores :
          SessionSteady
            (storeToken env jwt drawnId secretGeneration payload
              (payload.properties (tokenTypeMap type)) expireTime) :=
        storeToken_steady (writable.properties _) expireTime
      apply StoreProgram.Alike.bind
      apply SessionService.getKeys_alike
      · intro keys reordered same
        simp only [StoreProgram.ok_bind, same.isEmpty_eq]
        split
        · exact stores
        · refine .detach (same.map _) ?_ stores
          intro chain member key inChain
          obtain ⟨boundId, -, rfl⟩ := List.mem_map.mp member
          rcases List.mem_cons.mp inChain with rfl | rest
          · exact SessionService.isSessionKey ..
          · rw [List.mem_singleton.mp rest]
            exact SessionService.isSessionKey ..
      · exact fun failure => .done rfl

theorem authenticate_steady
    {session : Properties}
    (payloadWritable : payload.Writable)
    (writable : session.Writable)
    (expireTime : Int)
    (sessionLifeTime : Option Int)
    (allowMultipleTokens : Bool) :
    SessionSteady
      (authenticate env jwt drawnId secretGeneration payload session
        expireTime sessionLifeTime allowMultipleTokens) := by
  unfold authenticate
  apply StoreProgram.Alike.bind_eq
  · exact createToken_steady (payloadWritable.ensureId drawnId) ..
  · intro token
    split
    · exact .done rfl
    · apply StoreProgram.Alike.bind_eq
      · exact addBoundSession_steady writable ..
      · exact fun _ => .done rfl

theorem authenticateWithHardSecret_steady
    {session : Properties}
    (payloadWritable : payload.Writable)
    (writable : session.Writable)
    (expireTime : Int)
    (sessionLifeTime : Option Int) :
    SessionSteady
      (authenticateWithHardSecret env jwt drawnId payload session
        expireTime sessionLifeTime) := by
  unfold authenticateWithHardSecret
  apply StoreProgram.Alike.clock
  intro now
  simp only
  cases built : buildTokenPayload (ensureId drawnId payload) with
  | error failure => exact .done rfl
  | ok content =>
      obtain ⟨type, -, rfl⟩ := buildTokenPayload_ok built
      have content :=
        (payloadWritable.ensureId drawnId).properties (tokenTypeMap type)
      apply StoreProgram.Alike.bind_eq
      · exact SessionService.addSession_steady content ..
      · intro stored
        apply StoreProgram.Alike.bind_eq
        · exact addBoundSession_steady writable ..
        · exact fun _ => .done rfl

theorem renewToken_steady
    (writable : payload.Writable)
    (expireTime : Int)
    (allowMultipleTokens : Bool) :
    SessionSteady
      (renewToken env jwt drawnId secretGeneration payload expireTime
        allowMultipleTokens) := by
  unfold renewToken
  split
  · apply StoreProgram.Alike.clock
    intro now
    split
    · exact .done rfl
    · exact createToken_steady writable ..
  · exact .done rfl

theorem logout_steady (payload : BaseJwtPayload) :
    SessionSteady (logout payload) := by
  unfold logout
  apply StoreProgram.Alike.bind_eq
  · exact SessionService.clearSession_steady ..
  · intro cleared
    apply StoreProgram.Alike.bind_eq
    · exact SessionService.clearSession_steady ..
    · exact fun _ => .done rfl

end BaseAuthService

/-- The guard reads two entries. -/
theorem JwtGuard.canActivate_steady
    (params : GuardParams)
    (request : GuardRequest) :
    SessionSteady (canActivate env jwt params request) := by
  rw [canActivate_eq]
  apply StoreProgram.Alike.clock
  intro now
  cases present? env jwt params request now with
  | none => exact .done rfl
  | some presented =>
      apply StoreProgram.Alike.get
      · exact SessionService.isSessionKey ..
      · intro reply _
        match reply with
        | .error error => exact .done rfl
        | .ok none => exact .done rfl
        | .ok (some content) =>
            apply StoreProgram.Alike.clock
            intro later
            split
            · exact .done rfl
            · apply StoreProgram.Alike.get
              · exact SessionService.isSessionKey ..
              · intro sessionReply _
                match sessionReply with
                | .error error => exact .done rfl
                | .ok none => exact .done rfl
                | .ok (some session) =>
                    simp only
                    split <;> exact .done rfl

/-- Every call goes on like itself. -/
theorem AuthOperation.behaviour_steady
    {operation : AuthOperation}
    (writable : operation.Writable) :
    SessionSteady (operation.behaviour env jwt) := by
  cases operation with
  | authenticate drawnId secretGeneration payload session expireTime
      sessionLifeTime allowMultipleTokens =>
      apply StoreProgram.Alike.bind_eq
      · exact
          BaseAuthService.authenticate_steady writable.1 writable.2 ..
      · exact fun _ => .done rfl
  | authenticateWithHardSecret drawnId payload session expireTime
      sessionLifeTime =>
      apply StoreProgram.Alike.bind_eq
      · exact
          BaseAuthService.authenticateWithHardSecret_steady writable.1
            writable.2 ..
      · exact fun _ => .done rfl
  | renewToken drawnId secretGeneration content expireTime
      allowMultipleTokens =>
      apply StoreProgram.Alike.bind_eq
      · exact BaseAuthService.renewToken_steady writable ..
      · exact fun _ => .done rfl
  | logout content =>
      apply StoreProgram.Alike.bind_eq
      · exact BaseAuthService.logout_steady _
      · exact fun _ => .done rfl
  | mutate key sessionType mutator =>
      apply StoreProgram.Alike.bind_eq
      · exact
          AuthSessionService.Mutator.program_steady writable key
            sessionType
      · exact fun _ => .done rfl
  | check params request =>
      apply StoreProgram.Alike.bind_eq
      · exact JwtGuard.canActivate_steady params request
      · exact fun _ => .done rfl

end Steady

/-! ## The calls on the server -/

/-- The server with every call made so far. -/
abbrev SessionServer :=
  ServerWorld AuthOperation JsonObject Failure AuthAnswer

namespace SessionServer

/-- The server with some keys before the first call. -/
def holding
    (now : Nat)
    (slots : String → Redis.Slot) : SessionServer where
  now := now
  backend := ⟨slots, []⟩
  threads := []

/-- One action of the calls, of the server or of another client. -/
abbrev Steps (env : CoreEnvironment) (jwt : JwtService) :
    SessionServer → ServerAction AuthOperation → SessionServer → Prop :=
  ServerWorld.Steps IsSessionKey sessionCodec
    (AuthOperation.behaviour env jwt)

/-- Actions one after the other. -/
abbrev Runs (env : CoreEnvironment) (jwt : JwtService) :
    SessionServer → List (ServerAction AuthOperation) → SessionServer →
      Prop :=
  ServerWorld.Runs IsSessionKey sessionCodec
    (AuthOperation.behaviour env jwt)

end SessionServer

variable
  {env : CoreEnvironment}
  {jwt : JwtService}
  {now : Nat}
  {store : ExpiringStore String JsonObject}
  {slots : String → Redis.Slot}

/-- Before the first call the server is where the store is. -/
theorem SessionServer.mirrors_holding
    (held :
      ∀ key,
        IsSessionKey key →
          sessionCodec.Holds (store.lookup key) (slots key)) :
    ServerWorld.Mirrors IsSessionKey sessionCodec
      (SessionServer.holding now slots) (AuthWorld.holding now store) := by
  refine ⟨rfl, ⟨held, List.Perm.refl _, ?_⟩, .nil⟩
  intro chain member
  cases member

/--
Whatever the calls, the server and the other clients do, in whatever order the
server lists keys, and whatever texts of their values the calls write: the
calls get the answers that the same calls get on a store of entries, the server
holds the texts of what that store holds, every call can go on, and the other
clients find their keys as they left them.
-/
theorem sessions_served
    {actions : List (ServerAction AuthOperation)}
    {server : SessionServer}
    (held :
      ∀ key,
        IsSessionKey key →
          sessionCodec.Holds (store.lookup key) (slots key))
    (writable :
      ∀ operation ∈ ServerAction.calls actions, operation.Writable)
    (ran :
      (SessionServer.holding now slots).Runs env jwt actions server) :
    ∃ schedule world,
      (AuthWorld.holding now store).run? (AuthOperation.behaviour env jwt)
          schedule =
        some world ∧
        World.calls schedule = ServerAction.calls actions ∧
        world.now = server.now ∧
        (∀ index outcome,
          World.HasSettled server.threads index outcome ↔
            World.HasSettled world.threads index outcome) ∧
        (∀ key,
          IsSessionKey key →
            sessionCodec.Holds (world.backend.store.lookup key)
              (server.backend.slots key)) ∧
        (∀ index,
          index < server.threads.length →
            ∃ after, server.Steps env jwt (.advance index) after) ∧
        ∀ key,
          ¬ IsSessionKey key →
            server.backend.slots key =
              ServerAction.changes actions slots key := by
  obtain ⟨schedule, world, worldRan, sameCalls, mirrors, foreign⟩ :=
    ServerWorld.Runs.mirrored
      (fun operation member =>
        AuthOperation.behaviour_steady (writable operation member))
      (SessionServer.mirrors_holding held) ran
  exact ⟨schedule, world, worldRan, sameCalls, mirrors.now.symm,
    mirrors.settled_iff, mirrors.backend.slots,
    fun _ inside => mirrors.exists_advance inside, foreign⟩

namespace Sample

/-- What the login needs to write can be written. -/
theorem login_writable (type : TokenType) (drawnId : String) :
    (login type drawnId).Writable := by
  refine ⟨⟨?_, ?_⟩, ?_⟩
  · intro json found
    cases found
  · intro json found
    cases found
  · refine
      Properties.writable_of_names ["type", "permissions", "userId"] ?_ ?_
    · intro name notListed
      unfold session
      split <;> simp_all
    · intro name value found
      unfold session at found
      split at found
      · cases found
        exact Json.writable_str _
      · cases found
        exact Json.writable_arr.mpr (by simp)
      · cases found
        exact Json.writable_str _
      · cases found

/-- A login alone. -/
def oneLogin : List (Action AuthOperation) :=
  [.invoke (login .user "first"), .advance 0, .advance 0, .advance 0]

/-- It is answered with its token. -/
theorem oneLogin_settled :
    ∃ world,
      (AuthWorld.holding 0 ∅).run? behaviour oneLogin = some world ∧
        World.HasSettled world.threads 0
          (.ok (.token (loginToken .user "first"))) := by
  have outcome :
      ((AuthWorld.holding 0 ∅).run? behaviour oneLogin).map
          (fun world =>
            world.threads.map returnedToken?) =
        some [some (loginToken .user "first")] := by
    decide +kernel
  obtain ⟨world, ran, answers⟩ := Option.map_eq_some_iff.mp outcome
  refine ⟨world, ran, ?_⟩
  obtain ⟨thread, rest, sameThreads, answer, -⟩ :=
    List.map_eq_cons_iff.mp answers
  refine ⟨thread, ?_, program_of_returnedToken? answer⟩
  rw [sameThreads]
  rfl

/-- A key of the cache is there already. -/
def cachedSlots : String → Redis.Slot :=
  Function.update (fun _ => none) "REDIS_CACHE:profile"
    (some ⟨.string "{}", none⟩)

/-- No session is there yet. -/
theorem cachedSlots_held
    (key : String)
    (isSession : IsSessionKey key) :
    sessionCodec.Holds
      ((∅ : ExpiringStore String JsonObject).lookup key)
      (cachedSlots key) := by
  have different : key ≠ "REDIS_CACHE:profile" := by
    rintro rfl
    exact absurd isSession (by unfold IsSessionKey; decide)
  have nothing : cachedSlots key = none :=
    Function.update_of_ne different _ _
  rw [nothing, AList.lookup_empty]
  exact .absent

end Sample

/-- A login on a server that a cache uses as well. -/
theorem sessions_served_login :
    ∃ actions server schedule world,
      (SessionServer.holding 0 Sample.cachedSlots).Runs Sample.environment
          JwtService.Marked.service actions server ∧
        World.HasSettled server.threads 0
          (.ok (.token (Sample.loginToken .user "first"))) ∧
        (AuthWorld.holding 0 ∅).run? Sample.behaviour schedule =
          some world ∧
        World.HasSettled world.threads 0
          (.ok (.token (Sample.loginToken .user "first"))) := by
  obtain ⟨given, givenRan, settled⟩ := Sample.oneLogin_settled
  have writable :
      ∀ operation ∈ World.calls Sample.oneLogin, operation.Writable := by
    intro operation member
    obtain rfl := List.mem_singleton.mp member
    exact Sample.login_writable ..
  obtain ⟨actions, server, ran, sameCalls, mirrors⟩ :=
    (SessionServer.mirrors_holding Sample.cachedSlots_held).exists_runs
      (fun operation member =>
        AuthOperation.behaviour_steady (writable operation member))
      givenRan
  have answered := (mirrors.settled_iff 0 _).mpr settled
  rw [← sameCalls] at writable
  obtain ⟨schedule, world, worldRan, -, -, sameAnswers, -⟩ :=
    sessions_served Sample.cachedSlots_held writable ran
  exact ⟨actions, server, schedule, world, ran, answered, worldRan,
    (sameAnswers 0 _).mp answered⟩

/--
The other way round, every schedule of calls on a store of entries happens on
the server, with the same answers.
-/
theorem sessions_realized
    {schedule : List (Action AuthOperation)}
    {world : AuthWorld}
    (held :
      ∀ key,
        IsSessionKey key →
          sessionCodec.Holds (store.lookup key) (slots key))
    (writable :
      ∀ operation ∈ World.calls schedule, operation.Writable)
    (ran :
      (AuthWorld.holding now store).run? (AuthOperation.behaviour env jwt)
          schedule =
        some world) :
    ∃ actions server,
      (SessionServer.holding now slots).Runs env jwt actions server ∧
        ServerAction.calls actions = World.calls schedule ∧
        server.now = world.now ∧
        (∀ index outcome,
          World.HasSettled server.threads index outcome ↔
            World.HasSettled world.threads index outcome) ∧
        ∀ key,
          IsSessionKey key →
            sessionCodec.Holds (world.backend.store.lookup key)
              (server.backend.slots key) := by
  obtain ⟨actions, server, serverRan, sameCalls, mirrors⟩ :=
    (SessionServer.mirrors_holding held).exists_runs
      (fun operation member =>
        AuthOperation.behaviour_steady (writable operation member))
      ran
  exact ⟨actions, server, serverRan, sameCalls, mirrors.now,
    mirrors.settled_iff, mirrors.backend.slots⟩

/-- The login happens on the server. -/
theorem sessions_realized_login :
    ∃ actions server,
      (SessionServer.holding 0 Sample.cachedSlots).Runs Sample.environment
          JwtService.Marked.service actions server ∧
        ServerAction.calls actions = [Sample.login .user "first"] ∧
        World.HasSettled server.threads 0
          (.ok (.token (Sample.loginToken .user "first"))) := by
  obtain ⟨world, ran, settled⟩ := Sample.oneLogin_settled
  have writable :
      ∀ operation ∈ World.calls Sample.oneLogin, operation.Writable := by
    intro operation member
    obtain rfl := List.mem_singleton.mp member
    exact Sample.login_writable ..
  obtain ⟨actions, server, serverRan, sameCalls, -, sameAnswers, -⟩ :=
    sessions_realized Sample.cachedSlots_held writable ran
  exact ⟨actions, server, serverRan, sameCalls,
    (sameAnswers 0 _).mpr settled⟩

end NestBackend
