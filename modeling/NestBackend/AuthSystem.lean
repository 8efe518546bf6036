import NestBackend.JwtGuard
import NestBackend.ProgramPool

namespace NestBackend

open JavaScript

/-!
# The authentication system

Every operation on the session store as one call type, the contract each of
them meets under assumptions about its own reads and writes, and the worlds in
which calls of them interleave.
-/

/-- A payload with an identifier, as `request.user` always has one. -/
abbrev IdentifiedPayload :=
  { payload : BaseJwtPayload // payload.id.isSome = true }

/-- A call, with the values that the source draws at random. -/
inductive AuthOperation where
  | authenticate
      (drawnId secretGeneration : String)
      (payload : BaseJwtPayload)
      (session : Properties)
      (expireTime : Int)
      (sessionLifeTime : Option Int)
      (allowMultipleTokens : Bool)
  | authenticateWithHardSecret
      (drawnId : String)
      (payload : BaseJwtPayload)
      (session : Properties)
      (expireTime : Int)
      (sessionLifeTime : Option Int)
  | renewToken
      (drawnId secretGeneration : String)
      (content : IdentifiedPayload)
      (expireTime : Int)
      (allowMultipleTokens : Bool)
  | logout (content : IdentifiedPayload)
  | mutate
      (key : String)
      (sessionType : JwtSession)
      (mutator : AuthSessionService.Mutator)
  | check (params : GuardParams) (request : GuardRequest)

/-- What a call resolves to. -/
inductive AuthAnswer where
  | token (jwtToken : String)
  | loggedOut
  | session (value : Properties)
  | admitted (admission : Admission)

/-- The program of a call. -/
def AuthOperation.behaviour
    (env : CoreEnvironment)
    (jwt : JwtService) :
    AuthOperation → SessionProgram AuthAnswer
  | .authenticate drawnId secretGeneration payload session expireTime
      sessionLifeTime allowMultipleTokens => do
      let token ← BaseAuthService.authenticate env jwt drawnId
        secretGeneration payload session expireTime sessionLifeTime
        allowMultipleTokens
      return .token token
  | .authenticateWithHardSecret drawnId payload session expireTime
      sessionLifeTime => do
      let token ← BaseAuthService.authenticateWithHardSecret env jwt
        drawnId payload session expireTime sessionLifeTime
      return .token token
  | .renewToken drawnId secretGeneration content expireTime
      allowMultipleTokens => do
      let token ← BaseAuthService.renewToken env jwt drawnId
        secretGeneration content.val expireTime allowMultipleTokens
      return .token token
  | .logout content => do
      let _ ← BaseAuthService.logout content.val
      return .loggedOut
  | .mutate key sessionType mutator => do
      let value ← mutator.program key sessionType
      return .session value
  | .check params request => do
      let admission ← JwtGuard.canActivate env jwt params request
      return .admitted admission

/-- The payload under whose bound identifier a call may write. -/
def AuthOperation.issuedPayload? : AuthOperation → Option BaseJwtPayload
  | .authenticate drawnId _ payload _ _ _ _ =>
      some (BaseAuthService.ensureId drawnId payload)
  | .authenticateWithHardSecret drawnId payload _ _ _ =>
      some (BaseAuthService.ensureId drawnId payload)
  | .renewToken _ _ content _ _ => some content.val
  | .logout _ => none
  | .mutate _ _ _ => none
  | .check _ _ => none

/-- An issuer always knows the identifier. -/
theorem AuthOperation.issuedPayload?_id
    {operation : AuthOperation}
    {payload : BaseJwtPayload}
    (issued : operation.issuedPayload? = some payload) :
    payload.id.isSome = true := by
  cases operation with
  | authenticate drawnId _ given _ _ _ _ =>
      cases issued
      exact BaseAuthService.ensureId_isSome drawnId given
  | authenticateWithHardSecret drawnId given _ _ _ =>
      cases issued
      exact BaseAuthService.ensureId_isSome drawnId given
  | renewToken _ _ content _ _ =>
      cases issued
      exact content.property
  | logout _ => cases issued
  | mutate _ _ _ => cases issued
  | check _ _ => cases issued

/-- The calls that write a session of their own. -/
def AuthOperation.authenticates : AuthOperation → Bool
  | .authenticate _ _ _ _ _ _ _ => true
  | .authenticateWithHardSecret _ _ _ _ _ => true
  | .renewToken _ _ _ _ _ => false
  | .logout _ => false
  | .mutate _ _ _ => false
  | .check _ _ => false

/-- The Redis key of one of the two entries of a bound identifier. -/
def boundKey (service : SessionService) (boundId : String) : String :=
  service.storageKey JwtSession.token.text boundId

/-- A world of such calls. -/
abbrev AuthWorld :=
  World AuthOperation String JsonObject Failure AuthAnswer

/-- The world before the first call. -/
def AuthWorld.initial (now : Nat) : AuthWorld where
  now := now
  backend := ⟨∅, []⟩
  threads := []

/-! ## A sample installation -/

namespace Sample

/-- Settings with short names. -/
def environment : CoreEnvironment where
  jwtSecret := "configured"
  jwtIssuer := "issuer"
  tokenExpire := 10
  tokenRefreshTimeWindow := 3000

/-- A payload of a given type, as a caller builds it before a login. -/
def payload (type : TokenType) : BaseJwtPayload where
  iat := none
  exp := none
  key := "alice"
  id := none
  sessionChannel := .token
  type := type.text

/-- The payload of a login after an identifier was drawn. -/
def issuedPayload (type : TokenType) (id : String) : BaseJwtPayload :=
  { payload type with id := some id }

/-- A session without permissions, as a caller builds it before a login. -/
def session : Properties
  | "type" => some (some (.str SessionType.userSession.text))
  | "permissions" => some (some (.arr []))
  | "userId" => some (some (.str "alice"))
  | _ => none

/-- A login with a type, under a given identifier. -/
def login (type : TokenType) (drawnId : String) : AuthOperation :=
  .authenticate drawnId "random" (payload type) session 10 none false

/-- The claims of a token for this key, issued in the first second. -/
def claims
    (type : TokenType)
    (id : String)
    (expiresAt : Int) : SignedClaims where
  key := "alice"
  id := id
  sessionChannel := .token
  type := type.text
  audience := "issuer"
  subject := "alice"
  issuer := "issuer"
  issuedAt := 0
  expiresAt := expiresAt

/-- The token that such a login in the first second returns. -/
def loginToken (type : TokenType) (drawnId : String) : String :=
  JwtService.Marked.sign (claims type drawnId 10) "random"

/-- The behaviour of calls in this installation. -/
abbrev behaviour : AuthOperation → SessionProgram AuthAnswer :=
  AuthOperation.behaviour environment JwtService.Marked.service

end Sample

/-! ## Contracts of the services -/

section Contracts

variable
  {env : CoreEnvironment}
  {jwt : JwtService}
  {rely guarantee : String → JsonObject → Prop}

theorem SessionService.addSession_satisfies
    {service : SessionService}
    {type id : String}
    {expireInSeconds : Option Int}
    {value : Properties}
    {ensures : Except Failure Properties → Prop}
    (ensured : ∀ outcome, ensures outcome)
    (written :
      ∀ now,
        guarantee (service.storageKey type id)
          ((stamp now expireInSeconds).spread value).stringify) :
    (service.addSession type id expireInSeconds value).Satisfies
      rely guarantee ensures := by
  rw [addSession_eq]
  intro now
  refine ⟨written now, ?_⟩
  intro reply
  match reply with
  | .ok true => exact ensured _
  | .ok false => exact ensured _
  | .error error => exact ensured _

theorem SessionService.getKeys_satisfies
    {service : SessionService}
    {type id : String}
    {ensures : Except Failure (List String) → Prop}
    (ensured : ∀ outcome, ensures outcome) :
    (service.getKeys type id).Satisfies rely guarantee ensures := by
  rw [getKeys_eq]
  intro reply
  match reply with
  | .ok keys => exact ensured _
  | .error error => exact ensured _

/-- A rewriting writes one entry, computed from a session it relies on. -/
theorem AuthSessionService.rewriteSession_satisfies
    {readType writeType : JwtSession}
    {key : String}
    {change : JsonObject → Except Failure Properties}
    {ensures : Except Failure Properties → Prop}
    (ensured : ∀ outcome, ensures outcome)
    (written :
      ∀ session value now seconds,
        rely (SessionService.session.storageKey readType.text key)
          session →
        change session = .ok value →
        guarantee (SessionService.session.storageKey writeType.text key)
          ((SessionService.stamp now seconds).spread value).stringify) :
    (rewriteSession readType writeType key change).Satisfies
      rely guarantee ensures := by
  rw [rewriteSession_eq]
  intro reply relied
  match reply with
  | .error error => exact ensured _
  | .ok none => exact ensured _
  | .ok (some session) =>
      simp only
      cases changed : change session with
      | error failure => exact ensured _
      | ok value =>
          intro now
          apply SessionService.addSession_satisfies ensured
          intro later
          exact written session value later _ (relied session rfl) changed

/-- A mutator writes one session, computed from the one it read. -/
theorem AuthSessionService.Mutator.program_satisfies
    {mutator : Mutator}
    {key : String}
    {sessionType : JwtSession}
    {ensures : Except Failure Properties → Prop}
    (ensured : ∀ outcome, ensures outcome)
    (written :
      ∀ session value now seconds,
        rely (SessionService.session.storageKey sessionType.text key)
          session →
        mutator.change session = .ok value →
        guarantee (SessionService.session.storageKey sessionType.text key)
          ((SessionService.stamp now seconds).spread value).stringify) :
    (mutator.program key sessionType).Satisfies
      rely guarantee ensures := by
  rcases mutator.program_cases key sessionType with rewrites | refused
  · rw [rewrites]
    exact rewriteSession_satisfies ensured written
  · rw [refused]
    exact ensured _

namespace BaseAuthService

/-- The one session that both ways to authenticate write. -/
theorem addBoundSession_satisfies
    {payload : BaseJwtPayload}
    {session : Properties}
    {expireTime : Int}
    {sessionLifeTime : Option Int}
    {ensures : Except Failure Properties → Prop}
    (ensured : ∀ outcome, ensures outcome)
    (written :
      ∀ earlier now seconds,
        guarantee
          (SessionService.session.storageKey payload.sessionChannel.text
            payload.sessionBoundId)
          ((SessionService.stamp now seconds).spread
            (boundSession session payload earlier)).stringify) :
    (addBoundSession payload session expireTime
      sessionLifeTime).Satisfies rely guarantee ensures := by
  unfold addBoundSession
  split
  · exact ensured _
  · rename_i earlier listed
    apply SessionService.addSession_satisfies ensured
    intro now
    exact written earlier now _

variable {drawnId secretGeneration : String} {payload : BaseJwtPayload}

/-- The one token that `createToken` writes. -/
theorem createToken_satisfies
    {allowMultipleTokens : Bool}
    {expireTime : Int}
    {ensures : Except Failure String → Prop}
    (ensured : ∀ outcome, ensures outcome)
    (written :
      ∀ content now,
        buildTokenPayload payload = .ok content →
        guarantee
          (SessionService.token.storageKey payload.sessionChannel.text
            payload.sessionBoundId)
          ((SessionService.stamp now (some expireTime)).spread
            content).stringify) :
    (createToken env jwt drawnId secretGeneration payload
      allowMultipleTokens expireTime).Satisfies
      rely guarantee ensures := by
  unfold createToken
  cases built : buildTokenPayload payload with
  | error failure => exact ensured _
  | ok content =>
      have stores :
          (storeToken env jwt drawnId secretGeneration payload content
            expireTime).Satisfies rely guarantee ensures := by
        intro instant
        apply StoreProgram.Satisfies.bind
        apply SessionService.addSession_satisfies
        · intro outcome
          cases outcome with
          | ok value => exact ensured _
          | error failure => exact ensured _
        · intro now
          exact written content now built
      apply StoreProgram.Satisfies.bind
      apply SessionService.getKeys_satisfies
      intro outcome
      cases outcome with
      | error failure => exact ensured _
      | ok existingToken =>
          simp only
          split
          · exact stores
          · exact stores

/-- `renewToken` writes what `createToken` writes. -/
theorem renewToken_satisfies
    {allowMultipleTokens : Bool}
    {expireTime : Int}
    {ensures : Except Failure String → Prop}
    (ensured : ∀ outcome, ensures outcome)
    (written :
      ∀ content now,
        buildTokenPayload payload = .ok content →
        guarantee
          (SessionService.token.storageKey payload.sessionChannel.text
            payload.sessionBoundId)
          ((SessionService.stamp now (some expireTime)).spread
            content).stringify) :
    (renewToken env jwt drawnId secretGeneration payload expireTime
      allowMultipleTokens).Satisfies rely guarantee ensures := by
  unfold renewToken
  split
  · intro now
    simp only
    split
    · exact ensured _
    · exact createToken_satisfies ensured written
  · exact ensured _

/-- `authenticate` writes a token and a session. -/
theorem authenticate_satisfies
    {session : Properties}
    {expireTime : Int}
    {sessionLifeTime : Option Int}
    {allowMultipleTokens : Bool}
    {ensures : Except Failure String → Prop}
    (ensured : ∀ outcome, ensures outcome)
    (tokenWritten :
      ∀ content now,
        buildTokenPayload (ensureId drawnId payload) = .ok content →
        guarantee
          (SessionService.token.storageKey payload.sessionChannel.text
            (ensureId drawnId payload).sessionBoundId)
          ((SessionService.stamp now (some expireTime)).spread
            content).stringify)
    (sessionWritten :
      ∀ earlier now seconds,
        guarantee
          (SessionService.session.storageKey payload.sessionChannel.text
            (ensureId drawnId payload).sessionBoundId)
          ((SessionService.stamp now seconds).spread
            (boundSession session (ensureId drawnId payload)
              earlier)).stringify) :
    (authenticate env jwt drawnId secretGeneration payload session
      expireTime sessionLifeTime allowMultipleTokens).Satisfies
      rely guarantee ensures := by
  unfold authenticate
  apply StoreProgram.Satisfies.bind
  apply createToken_satisfies
  · intro outcome
    cases outcome with
    | error failure => exact ensured _
    | ok token =>
        simp only
        split
        · exact ensured _
        · apply StoreProgram.Satisfies.bind
          apply addBoundSession_satisfies
          · intro later
            cases later with
            | ok value => exact ensured _
            | error failure => exact ensured _
          · simpa using sessionWritten
  · simpa using tokenWritten

/-- `authenticateWithHardSecret` writes the same two entries. -/
theorem authenticateWithHardSecret_satisfies
    {session : Properties}
    {expireTime : Int}
    {sessionLifeTime : Option Int}
    {ensures : Except Failure String → Prop}
    (ensured : ∀ outcome, ensures outcome)
    (tokenWritten :
      ∀ content now,
        buildTokenPayload (ensureId drawnId payload) = .ok content →
        guarantee
          (SessionService.token.storageKey payload.sessionChannel.text
            (ensureId drawnId payload).sessionBoundId)
          ((SessionService.stamp now (some expireTime)).spread
            content).stringify)
    (sessionWritten :
      ∀ earlier now seconds,
        guarantee
          (SessionService.session.storageKey payload.sessionChannel.text
            (ensureId drawnId payload).sessionBoundId)
          ((SessionService.stamp now seconds).spread
            (boundSession session (ensureId drawnId payload)
              earlier)).stringify) :
    (authenticateWithHardSecret env jwt drawnId payload session
      expireTime sessionLifeTime).Satisfies rely guarantee ensures := by
  unfold authenticateWithHardSecret
  intro instant
  simp only
  cases built : buildTokenPayload (ensureId drawnId payload) with
  | error failure => exact ensured _
  | ok content =>
      apply StoreProgram.Satisfies.bind
      apply SessionService.addSession_satisfies
      · intro outcome
        cases outcome with
        | error failure => exact ensured _
        | ok value =>
            apply StoreProgram.Satisfies.bind
            apply addBoundSession_satisfies
            · intro later
              cases later with
              | ok bound => exact ensured _
              | error failure => exact ensured _
            · simpa using sessionWritten
      · intro now
        simpa using tokenWritten content now built

/-- `logout` writes nothing. -/
theorem logout_satisfies
    {ensures : Except Failure Unit → Prop}
    (ensured : ∀ outcome, ensures outcome) :
    (logout payload).Satisfies rely guarantee ensures := by
  rw [logout_eq]
  intro reply
  match reply with
  | .error error => exact ensured _
  | .ok count =>
      intro later
      match later with
      | .error error => exact ensured _
      | .ok laterCount => exact ensured _

end BaseAuthService

/-- The guard writes nothing. -/
theorem JwtGuard.canActivate_satisfies
    {params : GuardParams}
    {request : GuardRequest}
    {ensures : Except Failure Admission → Prop}
    (ensured : ∀ outcome, ensures outcome) :
    (canActivate env jwt params request).Satisfies
      rely guarantee ensures := by
  rw [canActivate_eq]
  intro now
  simp only
  cases present? env jwt params request now with
  | none => exact ensured _
  | some presented =>
      intro reply _
      match reply with
      | .error error => exact ensured _
      | .ok none => exact ensured _
      | .ok (some content) =>
          intro later
          simp only
          cases user? env jwt params presented content later with
          | none => exact ensured _
          | some user =>
              intro reply _
              match reply with
              | .error error => exact ensured _
              | .ok none => exact ensured _
              | .ok (some session) =>
                  simp only
                  split
                  · exact ensured _
                  · exact ensured _

/--
The contract of a call: the issuers write a token entry, those that
authenticate a session as well, and a mutator the session it has read.
-/
theorem AuthOperation.behaviour_contract
    {operation : AuthOperation}
    (tokenWritten :
      ∀ {payload content},
        operation.issuedPayload? = some payload →
        ∀ now seconds,
          BaseAuthService.buildTokenPayload payload = .ok content →
          guarantee
            (SessionService.token.storageKey payload.sessionChannel.text
              payload.sessionBoundId)
            ((SessionService.stamp now seconds).spread content).stringify)
    (sessionWritten :
      ∀ {payload} session,
        operation.issuedPayload? = some payload →
        operation.authenticates = true →
        ∀ earlier now seconds,
          guarantee
            (SessionService.session.storageKey
              payload.sessionChannel.text payload.sessionBoundId)
            ((SessionService.stamp now seconds).spread
              (BaseAuthService.boundSession session payload
                earlier)).stringify)
    (rewritten :
      ∀ {key sessionType mutator session value},
        operation = .mutate key sessionType mutator →
        ∀ now seconds,
          rely (SessionService.session.storageKey sessionType.text key)
            session →
          mutator.change session = .ok value →
          guarantee
            (SessionService.session.storageKey sessionType.text key)
            ((SessionService.stamp now seconds).spread
              value).stringify) :
    (operation.behaviour env jwt).Satisfies rely guarantee
      (fun _ => True) := by
  cases operation with
  | authenticate drawnId secretGeneration payload session expireTime
      sessionLifeTime allowMultipleTokens =>
      apply StoreProgram.Satisfies.bind
      apply BaseAuthService.authenticate_satisfies
      · intro outcome
        cases outcome <;> trivial
      · intro content now built
        simpa using tokenWritten rfl now (some expireTime) built
      · intro earlier now seconds
        simpa using sessionWritten session rfl rfl earlier now seconds
  | authenticateWithHardSecret drawnId payload session expireTime
      sessionLifeTime =>
      apply StoreProgram.Satisfies.bind
      apply BaseAuthService.authenticateWithHardSecret_satisfies
      · intro outcome
        cases outcome <;> trivial
      · intro content now built
        simpa using tokenWritten rfl now (some expireTime) built
      · intro earlier now seconds
        simpa using sessionWritten session rfl rfl earlier now seconds
  | renewToken drawnId secretGeneration content expireTime
      allowMultipleTokens =>
      apply StoreProgram.Satisfies.bind
      apply BaseAuthService.renewToken_satisfies
      · intro outcome
        cases outcome <;> trivial
      · intro built now buildsTo
        exact tokenWritten rfl now (some expireTime) buildsTo
  | logout content =>
      apply StoreProgram.Satisfies.bind
      apply BaseAuthService.logout_satisfies
      intro outcome
      cases outcome <;> trivial
  | mutate key sessionType mutator =>
      apply StoreProgram.Satisfies.bind
      apply AuthSessionService.Mutator.program_satisfies
      · intro outcome
        cases outcome <;> trivial
      · intro session value now seconds relied changed
        exact rewritten rfl now seconds relied changed
  | check params request =>
      apply StoreProgram.Satisfies.bind
      apply JwtGuard.canActivate_satisfies
      intro outcome
      cases outcome <;> trivial

end Contracts

end NestBackend
