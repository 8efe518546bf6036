import NestBackend.AuthSystem
import NestBackend.SignedTokens

namespace NestBackend

open JavaScript

/-!
# Runs of the issuing operations

What a successful run alone leaves behind: which entries it wrote, when, with
which lifetime, and which deletions it started.  Each lemma peels one operation
off the front of a program.
-/

namespace SessionService

variable
  {service : SessionService}
  {type id : String}
  {Result : Type}
  {clock : Nat → Nat}
  {backend after : Backend String JsonObject}
  {result : Result}

/-- A successful run that starts with `addSession` wrote the entry. -/
theorem addSession_bind_run_ok
    {expireInSeconds : Option Int}
    {value : Properties}
    {rest : Properties → SessionProgram Result}
    (ran :
      (service.addSession type id expireInSeconds value >>= rest).run
          clock backend =
        (after, .ok result)) :
    ∃ count : Int,
      expireInSeconds = some count ∧ 0 < count ∧
        (rest value).run (fun index => clock (index + 1))
            { backend with
              store :=
                backend.store.write (clock 0) (service.storageKey type id)
                  (count.toNat * 1000)
                  ((stamp (clock 0) expireInSeconds).spread
                    value).stringify } =
          (after, .ok result) := by
  rw [addSession_eq] at ran
  simp only [StoreProgram.clock_bind, StoreProgram.setex_bind,
    StoreProgram.run] at ran
  cases written :
      backend.setex (clock 0) (service.storageKey type id)
        expireInSeconds
        ((stamp (clock 0) expireInSeconds).spread value).stringify with
  | mk middle reply =>
      rw [written] at ran
      cases reply with
      | error error =>
          simp [StoreProgram.run] at ran
      | ok answer =>
          obtain ⟨count, seconds, positive, answered, effect⟩ :=
            Backend.setex_ok written
          subst answered
          subst effect
          exact ⟨count, seconds, positive, ran⟩

end SessionService

namespace BaseAuthService

variable
  {env : CoreEnvironment}
  {jwt : JwtService}
  {drawnId secretGeneration : String}
  {payload : BaseJwtPayload}
  {Result : Type}
  {clock : Nat → Nat}
  {backend after : Backend String JsonObject}
  {result : Result}

/-- The claims of the token that `signJwt` signs for a payload. -/
def signedClaims
    (env : CoreEnvironment)
    (payload : BaseJwtPayload)
    (expireTime : Int)
    (now : Nat) : SignedClaims where
  key := payload.key
  id := payload.id.getD "undefined"
  sessionChannel := payload.sessionChannel
  type := payload.type
  audience := env.jwtIssuer
  subject := payload.key
  issuer := env.jwtIssuer
  issuedAt := (now / 1000 : Nat)
  expiresAt := (now / 1000 : Nat) + expireTime

theorem signJwt_token
    (payload : BaseJwtPayload)
    (secret : Option String)
    (expireTime : Int)
    (now : Nat) :
    (signJwt env jwt drawnId payload secret expireTime now).2 =
      jwt.sign
        (signedClaims env (ensureId drawnId payload) expireTime now)
        (secret.getD env.jwtSecret) := rfl

/-- The deletions that `createToken` starts when a scan found `keys`. -/
def startedChains
    (payload : BaseJwtPayload)
    (allowMultipleTokens : Bool)
    (keys : List String) : List (List String) :=
  if allowMultipleTokens || keys.isEmpty then
    []
  else
    keys.map fun key =>
      clearChain payload.sessionChannel.text
        (SessionService.token.stripKey payload.sessionChannel.text key)

/-- The keys that `createToken` finds. -/
def existingKeys
    (payload : BaseJwtPayload)
    (store : ExpiringStore String JsonObject)
    (now : Nat) : List String :=
  store.scan now
    (Glob.accepts
      (SessionService.token.storageKey payload.sessionChannel.text
        (tokenPattern payload)))

/-- The key of the token entry of a payload. -/
def tokenKey (payload : BaseJwtPayload) : String :=
  SessionService.token.storageKey payload.sessionChannel.text
    payload.sessionBoundId

/-- The key of the session entry of a payload. -/
def sessionKey (payload : BaseJwtPayload) : String :=
  SessionService.session.storageKey payload.sessionChannel.text
    payload.sessionBoundId

/-- `storeToken` signs and writes at one instant. -/
theorem storeToken_bind_step
    {type : TokenType}
    {expireTime : Int}
    (rest : String → SessionProgram Result)
    (now : Nat)
    (backend : Backend String JsonObject) :
    StoreProgram.step now backend
        (storeToken env jwt drawnId secretGeneration payload
            (payload.properties (tokenTypeMap type)) expireTime >>=
          rest) =
      if 0 < expireTime then
        ({ backend with
            store :=
              backend.store.write now (tokenKey payload)
                (expireTime.toNat * 1000)
                (payload.content (tokenTypeMap type)) },
          rest (jwt.sign
            (signedClaims env (ensureId drawnId payload) expireTime now)
            secretGeneration))
      else
        (backend, .done (.error (.storeFailure .invalidExpire))) := by
  unfold storeToken
  simp only [SessionService.addSession_eq, StoreProgram.step,
    StoreProgram.clock_bind, StoreProgram.setex_bind,
    BaseJwtPayload.stringify_stamp_spread]
  by_cases positive : 0 < expireTime
  · rw [Backend.setex_of_pos _ _ _ positive, if_pos positive]
    rfl
  · simp only [Backend.setex, if_neg positive]
    rfl

/-- The first command of `createToken` is the scan. -/
theorem createToken_bind_step
    {type : TokenType}
    {expireTime : Int}
    (typed : payload.type = type.text)
    (rest : String → SessionProgram Result)
    (now : Nat)
    (backend : Backend String JsonObject) :
    StoreProgram.step now backend
        (createToken env jwt drawnId secretGeneration payload false
            expireTime >>= rest) =
      (backend,
        if (existingKeys payload backend.store now).isEmpty = true then
          storeToken env jwt drawnId secretGeneration payload
              (payload.properties (tokenTypeMap type)) expireTime >>=
            rest
        else
          .detach
            (startedChains payload false
              (existingKeys payload backend.store now))
            (storeToken env jwt drawnId secretGeneration payload
                (payload.properties (tokenTypeMap type)) expireTime >>=
              rest)) := by
  unfold createToken
  rw [buildTokenPayload_of_type typed]
  simp only [SessionService.getKeys_eq, StoreProgram.keys_bind,
    StoreProgram.ok_bind, StoreProgram.step, List.isEmpty_map,
    Bool.false_or]
  unfold startedChains
  rw [existingKeys]
  by_cases none :
      (backend.store.scan now
        (Glob.accepts
          (SessionService.token.storageKey payload.sessionChannel.text
            (tokenPattern payload)))).isEmpty = true
  · rw [if_pos none, if_pos none]
  · rw [if_neg none, if_neg none, Bool.false_or, if_neg none,
      List.map_map]
    rfl

/-- A successful run that starts with `storeToken` wrote the token entry. -/
theorem storeToken_bind_run_ok
    {type : TokenType}
    {expireTime : Int}
    {rest : String → SessionProgram Result}
    (ran :
      (storeToken env jwt drawnId secretGeneration payload
          (payload.properties (tokenTypeMap type)) expireTime >>=
        rest).run clock backend =
        (after, .ok result)) :
    0 < expireTime ∧
      (rest
          (jwt.sign
            (signedClaims env (ensureId drawnId payload) expireTime
              (clock 0))
            secretGeneration)).run
          (fun index => clock (index + 1))
          { backend with
            store :=
              backend.store.write (clock 0) (tokenKey payload)
                (expireTime.toNat * 1000)
                (payload.content (tokenTypeMap type)) } =
        (after, .ok result) := by
  unfold storeToken at ran
  rw [StoreProgram.clock_bind] at ran
  simp only [StoreProgram.run, StoreProgram.bind_bind] at ran
  obtain ⟨count, seconds, positive, remaining⟩ :=
    SessionService.addSession_bind_run_ok ran
  cases seconds
  rw [BaseJwtPayload.stringify_stamp_spread, signJwt_token] at remaining
  exact ⟨positive, remaining⟩

/-- A successful run that starts with `createToken`. -/
theorem createToken_bind_run_ok
    {type : TokenType}
    {allowMultipleTokens : Bool}
    {expireTime : Int}
    {rest : String → SessionProgram Result}
    (typed : payload.type = type.text)
    (ran :
      (createToken env jwt drawnId secretGeneration payload
          allowMultipleTokens expireTime >>= rest).run clock backend =
        (after, .ok result)) :
    0 < expireTime ∧
      (rest
          (jwt.sign
            (signedClaims env (ensureId drawnId payload) expireTime
              (clock 1))
            secretGeneration)).run
          (fun index => clock (index + 2))
          { store :=
              backend.store.write (clock 1) (tokenKey payload)
                (expireTime.toNat * 1000)
                (payload.content (tokenTypeMap type))
            chains :=
              backend.chains ++
                startedChains payload allowMultipleTokens
                  (existingKeys payload backend.store (clock 0)) } =
        (after, .ok result) := by
  unfold createToken at ran
  rw [buildTokenPayload_of_type typed] at ran
  simp only [SessionService.getKeys_eq, StoreProgram.keys_bind,
    StoreProgram.ok_bind, StoreProgram.run] at ran
  unfold startedChains
  rw [existingKeys]
  by_cases kept :
      (allowMultipleTokens ||
        (backend.store.scan (clock 0)
          (Glob.accepts
            (SessionService.token.storageKey payload.sessionChannel.text
              (tokenPattern payload)))).isEmpty) = true
  · rw [List.isEmpty_map, if_pos kept] at ran
    rw [if_pos kept, List.append_nil]
    exact storeToken_bind_run_ok ran
  · rw [List.isEmpty_map, if_neg kept] at ran
    rw [if_neg kept]
    simp only [StoreProgram.detach_bind, StoreProgram.run] at ran
    have stored := storeToken_bind_run_ok ran
    simpa [Backend.detach, Function.comp_def] using stored

/-- A run of `createToken`, successful or not. -/
theorem createToken_run
    {type : TokenType}
    {allowMultipleTokens : Bool}
    {expireTime : Int}
    (typed : payload.type = type.text) :
    (createToken env jwt drawnId secretGeneration payload
        allowMultipleTokens expireTime).run clock backend =
      if 0 < expireTime then
        ({ store :=
            backend.store.write (clock 1) (tokenKey payload)
              (expireTime.toNat * 1000)
              (payload.content (tokenTypeMap type))
           chains :=
            backend.chains ++
              startedChains payload allowMultipleTokens
                (existingKeys payload backend.store (clock 0)) },
          .ok (jwt.sign
            (signedClaims env (ensureId drawnId payload) expireTime
              (clock 1))
            secretGeneration))
      else
        ({ backend with
            chains :=
              backend.chains ++
                startedChains payload allowMultipleTokens
                  (existingKeys payload backend.store (clock 0)) },
          .error (.storeFailure .invalidExpire)) := by
  have stores (instants : Nat → Nat) (middle : Backend String JsonObject) :
      (storeToken env jwt drawnId secretGeneration payload
          (payload.properties (tokenTypeMap type)) expireTime).run
          instants middle =
        if 0 < expireTime then
          ({ middle with
              store :=
                middle.store.write (instants 0) (tokenKey payload)
                  (expireTime.toNat * 1000)
                  (payload.content (tokenTypeMap type)) },
            .ok (jwt.sign
              (signedClaims env (ensureId drawnId payload) expireTime
                (instants 0))
              secretGeneration))
        else
          (middle, .error (.storeFailure .invalidExpire)) := by
    unfold storeToken
    simp only [SessionService.addSession_eq, StoreProgram.run,
      StoreProgram.clock_bind, StoreProgram.setex_bind,
      BaseJwtPayload.stringify_stamp_spread]
    by_cases positive : 0 < expireTime
    · rw [Backend.setex_of_pos _ _ _ positive, if_pos positive]
      rfl
    · simp only [Backend.setex, if_neg positive]
      rfl
  unfold createToken
  rw [buildTokenPayload_of_type typed]
  simp only [SessionService.getKeys_eq, StoreProgram.keys_bind,
    StoreProgram.ok_bind, StoreProgram.run, List.isEmpty_map]
  unfold startedChains
  rw [existingKeys]
  by_cases kept :
      (allowMultipleTokens ||
        (backend.store.scan (clock 0)
          (Glob.accepts
            (SessionService.token.storageKey payload.sessionChannel.text
              (tokenPattern payload)))).isEmpty) = true
  · rw [if_pos kept, if_pos kept, List.append_nil, stores]
  · rw [if_neg kept, if_neg kept, List.map_map]
    simp only [StoreProgram.run, stores, Backend.detach]
    rfl

/-- A successful run that starts with `addBoundSession`. -/
theorem addBoundSession_bind_run_ok
    {session : Properties}
    {expireTime : Int}
    {sessionLifeTime : Option Int}
    {rest : Properties → SessionProgram Result}
    (ran :
      (addBoundSession payload session expireTime sessionLifeTime >>=
        rest).run clock backend =
        (after, .ok result)) :
    ∃ earlier,
      tokenIDs session = .ok earlier ∧
        0 < sessionExpiry sessionLifeTime expireTime ∧
        (rest (boundSession session payload earlier)).run
            (fun index => clock (index + 1))
            { backend with
              store :=
                backend.store.write (clock 0) (sessionKey payload)
                  ((sessionExpiry sessionLifeTime expireTime).toNat * 1000)
                  ((SessionService.stamp (clock 0)
                    (some (sessionExpiry sessionLifeTime
                      expireTime))).spread
                    (boundSession session payload earlier)).stringify } =
          (after, .ok result) := by
  unfold addBoundSession at ran
  cases listed : tokenIDs session with
  | error failure =>
      rw [listed] at ran
      simp [StoreProgram.run] at ran
  | ok earlier =>
      rw [listed] at ran
      obtain ⟨count, seconds, positive, remaining⟩ :=
        SessionService.addSession_bind_run_ok ran
      cases seconds
      exact ⟨earlier, rfl, positive, remaining⟩

/-- The two entries that both ways to authenticate write. -/
def writeBoth
    (payload : BaseJwtPayload)
    (type : TokenType)
    (session : Properties)
    (earlier : List Json)
    (expireTime sessionSeconds : Int)
    (tokenWrittenAt sessionWrittenAt : Nat)
    (store : ExpiringStore String JsonObject) :
    ExpiringStore String JsonObject :=
  (store.write tokenWrittenAt (tokenKey payload)
      (expireTime.toNat * 1000)
      (payload.content (tokenTypeMap type))).write
    sessionWrittenAt (sessionKey payload) (sessionSeconds.toNat * 1000)
    ((SessionService.stamp sessionWrittenAt (some sessionSeconds)).spread
      (boundSession session payload earlier)).stringify

/-- A successful run of `authenticate`. -/
theorem authenticate_run_ok
    {type : TokenType}
    {session : Properties}
    {expireTime : Int}
    {sessionLifeTime : Option Int}
    {allowMultipleTokens : Bool}
    {token : String}
    (typed : payload.type = type.text)
    (ran :
      (authenticate env jwt drawnId secretGeneration payload session
        expireTime sessionLifeTime allowMultipleTokens).run clock
          backend =
        (after, .ok token)) :
    ∃ earlier,
      tokenIDs session = .ok earlier ∧
        token =
          jwt.sign
            (signedClaims env (ensureId drawnId payload) expireTime
              (clock 1))
            secretGeneration ∧
        after =
          { store :=
              writeBoth (ensureId drawnId payload) type session earlier
                expireTime (sessionExpiry sessionLifeTime expireTime)
                (clock 1) (clock 2) backend.store
            chains :=
              backend.chains ++
                startedChains (ensureId drawnId payload)
                  allowMultipleTokens
                  (existingKeys (ensureId drawnId payload) backend.store
                    (clock 0)) } := by
  have typedId : (ensureId drawnId payload).type = type.text := by
    rw [ensureId_type, typed]
  unfold authenticate at ran
  obtain ⟨-, remaining⟩ := createToken_bind_run_ok typedId ran
  rw [buildTokenPayload_of_type typedId] at remaining
  obtain ⟨earlier, listed, -, finished⟩ :=
    addBoundSession_bind_run_ok remaining
  rw [ensureId_ensureId] at finished
  simp only [StoreProgram.pure_eq, StoreProgram.run, Prod.mk.injEq,
    Except.ok.injEq] at finished
  exact ⟨earlier, listed, finished.2.symm, finished.1.symm⟩

/-- A successful run of `authenticateWithHardSecret`. -/
theorem authenticateWithHardSecret_run_ok
    {type : TokenType}
    {session : Properties}
    {expireTime : Int}
    {sessionLifeTime : Option Int}
    {token : String}
    (typed : payload.type = type.text)
    (ran :
      (authenticateWithHardSecret env jwt drawnId payload session
        expireTime sessionLifeTime).run clock backend =
        (after, .ok token)) :
    ∃ earlier,
      tokenIDs session = .ok earlier ∧
        token =
          jwt.sign
            (signedClaims env (ensureId drawnId payload) expireTime
              (clock 0))
            env.jwtSecret ∧
        after =
          { backend with
            store :=
              writeBoth (ensureId drawnId payload) type session earlier
                expireTime (sessionExpiry sessionLifeTime expireTime)
                (clock 0) (clock 1) backend.store } := by
  have typedId : (ensureId drawnId payload).type = type.text := by
    rw [ensureId_type, typed]
  unfold authenticateWithHardSecret at ran
  simp only [StoreProgram.run, buildTokenPayload_of_type typedId] at ran
  obtain ⟨count, seconds, -, remaining⟩ :=
    SessionService.addSession_bind_run_ok ran
  cases seconds
  obtain ⟨earlier, listed, -, finished⟩ :=
    addBoundSession_bind_run_ok remaining
  rw [BaseJwtPayload.stringify_stamp_spread, signJwt_token,
    ensureId_ensureId] at finished
  simp only [StoreProgram.pure_eq, StoreProgram.run, Prod.mk.injEq,
    Except.ok.injEq] at finished
  exact ⟨earlier, listed, finished.2.symm, finished.1.symm⟩

/-! ## Deletions that the issuing started -/

/-- The part of a token key before the identifier holds no special character. -/
theorem plain_storageKey_empty (service : SessionService) :
    Glob.Plain
      (service.storageKey JwtSession.token.text "").toList := by
  cases service <;> decide

/-- A scan finds token keys, and no others. -/
theorem existingKeys_shape
    {store : ExpiringStore String JsonObject}
    {now : Nat}
    {key : String}
    (member : key ∈ existingKeys payload store now) :
    (store.read now key).isSome = true ∧
      ∃ boundId,
        key =
          SessionService.token.storageKey payload.sessionChannel.text
            boundId ∧
          Glob.accepts (tokenPattern payload) boundId = true := by
  obtain ⟨readable, accepted⟩ := ExpiringStore.mem_scan.mp member
  refine ⟨readable, ?_⟩
  rw [SessionService.storageKey_eq_append] at accepted
  rw [payload.sessionChannel.eq_token] at accepted ⊢
  obtain ⟨boundId, keyShape, matched⟩ :=
    (Glob.accepts_plain_append
      (plain_storageKey_empty .token) _ _).mp accepted
  refine ⟨boundId, ?_, matched⟩
  rw [keyShape, ← SessionService.storageKey_eq_append]

/-- What a chain of deletions is about. -/
theorem mem_startedChains
    {allowMultipleTokens : Bool}
    {store : ExpiringStore String JsonObject}
    {now : Nat}
    {chain : List String}
    (member :
      chain ∈
        startedChains payload allowMultipleTokens
          (existingKeys payload store now)) :
    ∃ boundId,
      chain = clearChain payload.sessionChannel.text boundId ∧
        (store.read now
          (SessionService.token.storageKey payload.sessionChannel.text
            boundId)).isSome = true ∧
        Glob.accepts (tokenPattern payload) boundId = true := by
  unfold startedChains at member
  split at member
  · cases member
  · obtain ⟨key, keyMember, chainShape⟩ := List.mem_map.mp member
    obtain ⟨readable, boundId, keyShape, matched⟩ :=
      existingKeys_shape keyMember
    subst keyShape
    rw [SessionService.stripKey_storageKey] at chainShape
    exact ⟨boundId, chainShape.symm, readable, matched⟩

/-- Clearing another bound identifier leaves both entries alone. -/
theorem unmentioned_clearChain
    {boundId : String}
    (otherId : payload.sessionBoundId ≠ boundId) :
    tokenKey payload ∉ clearChain payload.sessionChannel.text boundId ∧
      sessionKey payload ∉
        clearChain payload.sessionChannel.text boundId := by
  have otherKey (service : SessionService) :
      service.storageKey payload.sessionChannel.text
          payload.sessionBoundId ≠
        service.storageKey payload.sessionChannel.text boundId :=
    fun same => otherId (SessionService.storageKey_injective same)
  unfold clearChain tokenKey sessionKey
  constructor
  · intro inChain
    rcases List.mem_cons.mp inChain with first | second
    · exact otherKey .token first
    · exact SessionService.storageKey_token_ne_session _ _ _ _
        (List.mem_singleton.mp second)
  · intro inChain
    rcases List.mem_cons.mp inChain with first | second
    · exact SessionService.storageKey_token_ne_session _ _ _ _
        first.symm
    · exact otherKey .session (List.mem_singleton.mp second)

/-- An issuer never starts to delete entries that were not there. -/
theorem startedChains_unmentioned
    {allowMultipleTokens : Bool}
    {store : ExpiringStore String JsonObject}
    {now : Nat}
    (fresh : store.read now (tokenKey payload) = none)
    {chain : List String}
    (member :
      chain ∈
        startedChains payload allowMultipleTokens
          (existingKeys payload store now)) :
    tokenKey payload ∉ chain ∧ sessionKey payload ∉ chain := by
  obtain ⟨boundId, rfl, readable, -⟩ := mem_startedChains member
  apply unmentioned_clearChain
  intro same
  rw [← same] at readable
  rw [tokenKey] at fresh
  rw [fresh] at readable
  cases readable

/-- What the pattern matches and the scan finds is cleared. -/
theorem clearChain_mem_startedChains
    {store : ExpiringStore String JsonObject}
    {now : Nat}
    {boundId : String}
    (readable :
      (store.read now
        (SessionService.token.storageKey payload.sessionChannel.text
          boundId)).isSome = true)
    (matched : Glob.accepts (tokenPattern payload) boundId = true) :
    clearChain payload.sessionChannel.text boundId ∈
      startedChains payload false (existingKeys payload store now) := by
  have found :
      SessionService.token.storageKey payload.sessionChannel.text
          boundId ∈
        existingKeys payload store now := by
    refine ExpiringStore.mem_scan.mpr ⟨readable, ?_⟩
    rw [SessionService.storageKey_eq_append,
      SessionService.token.storageKey_eq_append
        payload.sessionChannel.text boundId,
      payload.sessionChannel.eq_token]
    exact (Glob.accepts_plain_append
      (plain_storageKey_empty .token) _ _).mpr ⟨boundId, rfl, matched⟩
  have notEmpty :
      (existingKeys payload store now).isEmpty = false :=
    List.isEmpty_eq_false_iff.mpr (List.ne_nil_of_mem found)
  unfold startedChains
  rw [notEmpty, if_neg (by decide)]
  refine List.mem_map.mpr ⟨_, found, ?_⟩
  rw [SessionService.stripKey_storageKey]

/-- The token entry that the two writes leave. -/
theorem writeBoth_token
    {type : TokenType}
    {session : Properties}
    {earlier : List Json}
    {expireTime sessionSeconds : Int}
    {tokenWrittenAt sessionWrittenAt : Nat}
    {store : ExpiringStore String JsonObject} :
    (writeBoth payload type session earlier expireTime sessionSeconds
      tokenWrittenAt sessionWrittenAt store).lookup (tokenKey payload) =
      some {
        value := payload.content (tokenTypeMap type)
        writtenAt := tokenWrittenAt
        lifetime := expireTime.toNat * 1000
      } := by
  have different : tokenKey payload ≠ sessionKey payload :=
    SessionService.storageKey_token_ne_session _ _ _ _
  rw [writeBoth, ExpiringStore.lookup_write_other _ different,
    ExpiringStore.lookup_write_same]

/-- The session entry that the two writes leave. -/
theorem writeBoth_session
    {type : TokenType}
    {session : Properties}
    {earlier : List Json}
    {expireTime sessionSeconds : Int}
    {tokenWrittenAt sessionWrittenAt : Nat}
    {store : ExpiringStore String JsonObject} :
    (writeBoth payload type session earlier expireTime sessionSeconds
      tokenWrittenAt sessionWrittenAt store).lookup (sessionKey payload) =
      some {
        value :=
          ((SessionService.stamp sessionWrittenAt
            (some sessionSeconds)).spread
              (boundSession session payload earlier)).stringify
        writtenAt := sessionWrittenAt
        lifetime := sessionSeconds.toNat * 1000
      } := by
  rw [writeBoth, ExpiringStore.lookup_write_same]

/-! ## The guard on an issued token -/

/--
A guard for the class of an issued token, on a store that still holds what was
stored for it.
-/
theorem canActivate_issued_run
    (lawful : jwt.Lawful)
    {type : TokenType}
    (typed : payload.type = type.text)
    (identified : payload.id.isSome = true)
    (iatNumber : PayloadInstance.optionalNumber payload.iat = true)
    (expNumber : PayloadInstance.optionalNumber payload.exp = true)
    {expireTime : Int}
    {instant : Nat}
    {secret : String}
    {request : GuardRequest}
    (presents :
      request.jwtToken? =
        some (jwt.sign (signedClaims env payload expireTime instant)
          secret))
    {session : JsonObject}
    (tokenRead :
      backend.store.read (clock 0) (tokenKey payload) =
        some (payload.content (tokenTypeMap type)))
    (sessionRead :
      backend.store.read (clock 1) (sessionKey payload) =
        some session) :
    (JwtGuard.canActivate env jwt
        (JwtGuard.plainParams (tokenTypeMap type)) request).run clock
          backend =
      (backend,
        if JwtGuard.AcceptsSigned env
            (signedClaims env payload expireTime instant) secret
            (tokenTypeMap type) (clock 0) (clock 1) then
          .ok {
            userClass := tokenTypeMap type
            user :=
              JwtGuard.signedUser
                (signedClaims env payload expireTime instant) payload
            session := session
          }
        else
          .error JwtGuard.unauthorized) := by
  obtain ⟨id, idShape⟩ := Option.isSome_iff_exists.mp identified
  have sameId :
      payload.id =
        some (signedClaims env payload expireTime instant).id := by
    simp [signedClaims, idShape]
  have mapped :
      tokenTypeMap? (signedClaims env payload expireTime instant).type =
        some (tokenTypeMap type) := by
    simp [signedClaims, typed, tokenTypeMap?]
  rw [tokenKey, payload.sessionChannel.eq_token] at tokenRead
  rw [sessionKey, payload.sessionChannel.eq_token] at sessionRead
  rw [JwtGuard.canActivate_run,
    JwtGuard.admission_signed lawful presents mapped rfl sameId rfl
      iatNumber expNumber tokenRead sessionRead]
  by_cases accepted :
      JwtGuard.AcceptsSigned env
        (signedClaims env payload expireTime instant) secret
        (tokenTypeMap type) (clock 0) (clock 1)
  · rw [if_pos accepted, if_pos accepted]
  · rw [if_neg accepted, if_neg accepted]

/-- Without the session the guard turns down whatever was issued for it. -/
theorem canActivate_issued_without_session
    (lawful : jwt.Lawful)
    {type : TokenType}
    (typed : payload.type = type.text)
    {expireTime : Int}
    {instant : Nat}
    {secret : String}
    {request : GuardRequest}
    (presents :
      request.jwtToken? =
        some (jwt.sign (signedClaims env payload expireTime instant)
          secret))
    (missing : backend.store.read (clock 1) (sessionKey payload) = none) :
    (JwtGuard.canActivate env jwt
        (JwtGuard.plainParams (tokenTypeMap type)) request).run clock
          backend =
      (backend, .error JwtGuard.unauthorized) := by
  have mapped :
      tokenTypeMap? (signedClaims env payload expireTime instant).type =
        some (tokenTypeMap type) := by
    simp [signedClaims, typed, tokenTypeMap?]
  have boundId :
      (signedClaims env payload expireTime instant).key ++ ":" ++
          (signedClaims env payload expireTime instant).id =
        payload.sessionBoundId := rfl
  rw [sessionKey, payload.sessionChannel.eq_token, ← boundId] at missing
  rw [JwtGuard.canActivate_run]
  cases admits :
      JwtGuard.admission env jwt
        (JwtGuard.plainParams (tokenTypeMap type)) request (clock 0)
        (clock 1) (backend.store.read (clock 0))
        (backend.store.read (clock 1)) with
  | none => rfl
  | some admitted =>
      obtain ⟨presented, content, found, -, -, sessionRead, -, -⟩ :=
        JwtGuard.admission_eq_some admits
      rw [JwtGuard.present?_signed lawful presents mapped] at found
      split at found
      · cases found
        rw [JwtGuard.storageKey_signed, missing] at sessionRead
        cases sessionRead
      · cases found

end BaseAuthService

namespace Sample

/-- What a login of a user in the first second leaves on an empty store. -/
def sessionStore : ExpiringStore String JsonObject :=
  BaseAuthService.writeBoth (issuedPayload .user "first") .user session []
    10 10 0 0 ∅

end Sample

end NestBackend
