import NestBackend.AuthSessionService
import NestBackend.JwtService

namespace NestBackend

open JavaScript

/-!
# `BaseAuthService`

Issuing, renewing and clearing tokens, with the two payload builders that
`AuthGatewayService` supplies.

Identifiers and secrets that the source draws at random are arguments here;
what is assumed of them stands at each result.  Arguments with a default in the
source are passed explicitly.
-/

namespace BaseAuthService

/-! ## Payloads -/

/-- `if (!payload.id) { payload.id = uuid.v4(); }`. -/
def ensureId (drawnId : String) (payload : BaseJwtPayload) : BaseJwtPayload :=
  match payload.id with
  | none => { payload with id := some drawnId }
  | some id =>
      if id = "" then { payload with id := some drawnId } else payload

/--
`buildTokenPayload`: the properties of an instance of the class that the type
maps to.  The values are those of the payload.
-/
def buildTokenPayload (payload : BaseJwtPayload) : Except Failure Properties :=
  match tokenTypeMap? payload.type with
  | none =>
      .error (.internalServerErrorException
        SystemCode.internalErrorOccurred.text)
  | some tokenClass => .ok (payload.properties tokenClass)

/-- `content.sessionBoundId.replace(content.id, "*")`. -/
def tokenPattern (payload : BaseJwtPayload) : String :=
  replaceFirst payload.sessionBoundId (payload.id.getD "undefined") "*"

/--
`signJwt`: the payload with its identifier, and the token.  The public payload
keeps four properties; the options add the registered claims.
-/
def signJwt
    (env : CoreEnvironment)
    (jwt : JwtService)
    (drawnId : String)
    (payload : BaseJwtPayload)
    (secret : Option String)
    (expireTime : Int)
    (now : Nat) : BaseJwtPayload × String :=
  let payload := ensureId drawnId payload
  (payload,
    jwt.sign {
      key := payload.key
      id := payload.id.getD "undefined"
      sessionChannel := payload.sessionChannel
      type := payload.type
      audience := env.jwtIssuer
      subject := payload.key
      issuer := env.jwtIssuer
      issuedAt := (now / 1000 : Nat)
      expiresAt := (now / 1000 : Nat) + expireTime
    } (secret.getD env.jwtSecret))

/-! ## Sessions -/

/-- `[...(session.tokenIDs || [])]`. -/
def tokenIDs (session : Properties) : Except Failure (List Json) :=
  match session.get "tokenIDs" with
  | none => .ok []
  | some (.arr elements) => .ok elements
  | some (.str text) =>
      .ok (text.toList.map fun char => .str (String.singleton char))
  | some value => if value.truthy then .error .typeError else .ok []

/--
`{ ...session, key: content.sessionBoundId, tokenIDs: [..., content.id] }`.
-/
def boundSession
    (session : Properties)
    (payload : BaseJwtPayload)
    (earlier : List Json) : Properties :=
  (session.set "key" (some (.str payload.sessionBoundId))).set "tokenIDs"
    (some (.arr (earlier ++ (payload.id.map Json.str).toList)))

/-- `sessionLifeTime || expireTime`. -/
def sessionExpiry (sessionLifeTime : Option Int) (expireTime : Int) : Int :=
  match sessionLifeTime with
  | none => expireTime
  | some lifeTime => if lifeTime = 0 then expireTime else lifeTime

/--
The two deletions of `clearSession` for one bound identifier, in their order.
-/
def clearChain (type id : String) : List String :=
  [SessionService.token.storageKey type id,
    SessionService.session.storageKey type id]

/-- `authSessionService.addSession` as both ways to authenticate call it. -/
def addBoundSession
    (payload : BaseJwtPayload)
    (session : Properties)
    (expireTime : Int)
    (sessionLifeTime : Option Int) : SessionProgram Properties :=
  match tokenIDs session with
  | .error failure => throw failure
  | .ok earlier =>
      SessionService.session.addSession payload.sessionChannel.text
        payload.sessionBoundId
        (some (sessionExpiry sessionLifeTime expireTime))
        (boundSession session payload earlier)

/-! ## Operations -/

section Operations

variable (env : CoreEnvironment) (jwt : JwtService)

/-- The end of `createToken`, from `signJwt` on. -/
def storeToken
    (drawnId : String)
    (secretGeneration : String)
    (payload : BaseJwtPayload)
    (content : Properties)
    (expireTime : Int) : SessionProgram String :=
  .clock fun now => do
    let token :=
      (signJwt env jwt drawnId payload (some secretGeneration) expireTime
        now).2
    let _ ← SessionService.token.addSession payload.sessionChannel.text
      payload.sessionBoundId (some expireTime) content
    return token

/--
`createToken`.  The content is built before `signJwt` draws a missing
identifier.  Nobody waits for the deletions that `clearSession` starts.
-/
def createToken
    (drawnId : String)
    (secretGeneration : String)
    (payload : BaseJwtPayload)
    (allowMultipleTokens : Bool)
    (expireTime : Int) : SessionProgram String :=
  match buildTokenPayload payload with
  | .error failure => throw failure
  | .ok content => do
      let existingToken ← SessionService.token.getKeys
        payload.sessionChannel.text (tokenPattern payload)
      if allowMultipleTokens || existingToken.isEmpty then
        storeToken env jwt drawnId secretGeneration payload content
          expireTime
      else
        .detach
          (existingToken.map (clearChain payload.sessionChannel.text))
          (storeToken env jwt drawnId secretGeneration payload content
            expireTime)

/-- `authenticateWithHardSecret`. -/
def authenticateWithHardSecret
    (drawnId : String)
    (givenPayload : BaseJwtPayload)
    (session : Properties)
    (expireTime : Int)
    (sessionLifeTime : Option Int) : SessionProgram String :=
  let payload := ensureId drawnId givenPayload
  .clock fun now => do
    let token := (signJwt env jwt drawnId payload none expireTime now).2
    match buildTokenPayload payload with
    | .error failure => throw failure
    | .ok content =>
        let _ ← SessionService.token.addSession
          payload.sessionChannel.text payload.sessionBoundId
          (some expireTime) content
        let _ ← addBoundSession payload session expireTime sessionLifeTime
        return token

/-- `authenticate`. -/
def authenticate
    (drawnId : String)
    (secretGeneration : String)
    (givenPayload : BaseJwtPayload)
    (session : Properties)
    (expireTime : Int)
    (sessionLifeTime : Option Int)
    (allowMultipleTokens : Bool) : SessionProgram String := do
  let payload := ensureId drawnId givenPayload
  let token ← createToken env jwt drawnId secretGeneration payload
    allowMultipleTokens expireTime
  match buildTokenPayload payload with
  | .error failure => throw failure
  | .ok _ =>
      let _ ← addBoundSession payload session expireTime sessionLifeTime
      return token

/-- `(content.exp || 0) * 1000`. -/
def expiryMilliseconds (content : BaseJwtPayload) : Numeric :=
  if content.exp.any Json.truthy then
    (toNumber? content.exp).scale 1000
  else
    .finite 0

/-- `renewToken` throws at this instant because of `exp`. -/
def outsideRefreshWindow (content : BaseJwtPayload) (now : Nat) : Bool :=
  !(expiryMilliseconds content).truthy ||
    (Numeric.finite now).lessThan
      ((expiryMilliseconds content).minus env.tokenRefreshTimeWindow)

/-- `renewToken`. -/
def renewToken
    (drawnId : String)
    (secretGeneration : String)
    (content : BaseJwtPayload)
    (expireTime : Int)
    (allowMultipleTokens : Bool) : SessionProgram String :=
  if refreshToken.contains content.type then
    .clock fun now =>
      if outsideRefreshWindow env content now then
        throw (.unauthorizedException
          SystemCode.tokenIsNotAllowToRefresh.text)
      else
        createToken env jwt drawnId secretGeneration content
          allowMultipleTokens expireTime
  else
    throw (.unauthorizedException SystemCode.tokenIsNotAllowToRefresh.text)

end Operations

/-- `logout`: the one `clearSession` that is waited for. -/
def logout (content : BaseJwtPayload) : SessionProgram Unit := do
  let _ ← SessionService.token.clearSession content.sessionChannel.text
    content.sessionBoundId
  let _ ← SessionService.session.clearSession content.sessionChannel.text
    content.sessionBoundId
  return ()

/-! ## Payloads with an identifier -/

/-- A payload whose identifier is not falsy keeps it. -/
theorem ensureId_of_id
    {payload : BaseJwtPayload}
    {id : String}
    (present : payload.id = some id)
    (nonempty : id ≠ "")
    (drawnId : String) :
    ensureId drawnId payload = payload := by
  simp [ensureId, present, nonempty]

/-- A payload without an identifier gets the drawn one. -/
theorem ensureId_of_none
    {payload : BaseJwtPayload}
    (missing : payload.id = none)
    (drawnId : String) :
    ensureId drawnId payload = { payload with id := some drawnId } := by
  simp [ensureId, missing]

/-- Drawing an identifier leaves one in place. -/
theorem ensureId_isSome
    (drawnId : String)
    (payload : BaseJwtPayload) :
    (ensureId drawnId payload).id.isSome = true := by
  unfold ensureId
  split
  · rfl
  · rename_i id present
    split
    · rfl
    · rw [present]
      rfl

/-- Drawing an identifier twice is drawing it once. -/
@[simp] theorem ensureId_ensureId
    (drawnId : String)
    (payload : BaseJwtPayload) :
    ensureId drawnId (ensureId drawnId payload) =
      ensureId drawnId payload := by
  cases missing : payload.id with
  | none =>
      by_cases empty : drawnId = "" <;> simp [ensureId, missing, empty]
  | some id =>
      by_cases empty : id = ""
      · by_cases drawnEmpty : drawnId = "" <;>
          simp [ensureId, missing, empty, drawnEmpty]
      · simp [ensureId, missing, empty]

section Unchanged

variable (drawnId : String) (payload : BaseJwtPayload)

@[simp] theorem ensureId_key :
    (ensureId drawnId payload).key = payload.key := by
  unfold ensureId
  split
  · rfl
  · split <;> rfl

@[simp] theorem ensureId_type :
    (ensureId drawnId payload).type = payload.type := by
  unfold ensureId
  split
  · rfl
  · split <;> rfl

@[simp] theorem ensureId_sessionChannel :
    (ensureId drawnId payload).sessionChannel =
      payload.sessionChannel := by
  unfold ensureId
  split
  · rfl
  · split <;> rfl

end Unchanged

/-- When the builder does not throw, the type maps to a class. -/
theorem buildTokenPayload_ok
    {payload : BaseJwtPayload}
    {content : Properties}
    (built : buildTokenPayload payload = .ok content) :
    ∃ type : TokenType,
      payload.type = type.text ∧
        content = payload.properties (tokenTypeMap type) := by
  unfold buildTokenPayload at built
  split at built
  · cases built
  · rename_i tokenClass mapped
    cases built
    unfold tokenTypeMap? at mapped
    obtain ⟨type, found, rfl⟩ := Option.map_eq_some_iff.mp mapped
    exact ⟨type, (TokenType.text_of_ofText? found).symm, rfl⟩

/-- The types of the enumeration are the ones the builder takes. -/
theorem buildTokenPayload_of_type
    {payload : BaseJwtPayload}
    {type : TokenType}
    (typed : payload.type = type.text) :
    buildTokenPayload payload =
      .ok (payload.properties (tokenTypeMap type)) := by
  simp [buildTokenPayload, typed, tokenTypeMap?]

/-! ## What the operations are as command trees -/

/-- `logout` is two deletions, the second only after the first succeeded. -/
theorem logout_eq (content : BaseJwtPayload) :
    logout content =
      .del (SessionService.token.storageKey content.sessionChannel.text
          content.sessionBoundId)
        fun reply =>
          match reply with
          | .ok _ =>
              .del (SessionService.session.storageKey
                  content.sessionChannel.text content.sessionBoundId)
                fun later =>
                  match later with
                  | .ok _ => .done (.ok ())
                  | .error error => .done (.error (.storeFailure error))
          | .error error => .done (.error (.storeFailure error)) := by
  unfold logout
  rw [SessionService.clearSession_eq, SessionService.clearSession_eq,
    StoreProgram.del_bind]
  congr 1
  funext reply
  cases reply with
  | error error => rfl
  | ok count =>
      simp only [StoreProgram.ok_bind, StoreProgram.del_bind]
      congr 1
      funext later
      cases later with
      | ok laterCount => rfl
      | error error => rfl

end BaseAuthService

end NestBackend
