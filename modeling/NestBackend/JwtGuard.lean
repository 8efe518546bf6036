import NestBackend.BaseAuthService

namespace NestBackend

open JavaScript

/-!
# `JwtGuard`

`canActivate` as a program over the session store.  It sends two reads and
writes nothing.  `admission` says what it decides in terms of those two reads,
and `canActivate_run` that it decides exactly that.
-/

/-- The parameter `allowTokens`: one class or an array of classes. -/
inductive AllowedTokens where
  | one (tokenClass : TokenClass)
  | anyOf (tokenClasses : List TokenClass)

/-- The test that keeps a token class out, negated. -/
def AllowedTokens.includes
    (allowed : AllowedTokens)
    (tokenClass : TokenClass) : Bool :=
  match allowed with
  | .one allowedClass => allowedClass == tokenClass
  | .anyOf tokenClasses => tokenClasses.contains tokenClass

/-- The parameters of the guard. -/
structure GuardParams where
  allowTokens : AllowedTokens
  allowSessions : Option AllowedSessions
  needVerifyJwtSignature : Bool

/-- The two places of a request that may hold a token. -/
structure GuardRequest where
  authorization : Option String
  queryToken : Option String

/-- What the guard leaves on the request: `request.user`, `request.session`. -/
structure Admission where
  userClass : TokenClass
  user : BaseJwtPayload
  session : JsonObject

/-- The claims that name what the guard looks up. -/
structure PresentedToken where
  jwtToken : String
  rawPayload : JsonObject
  tokenClass : TokenClass

namespace GuardRequest

/-- `request.headers.authorization || request.query[QUERY.TOKEN]`. -/
def token? (request : GuardRequest) : Option String :=
  match request.authorization with
  | none => request.queryToken
  | some header => if header = "" then request.queryToken else some header

/-- The token text, without the scheme. -/
def jwtToken? (request : GuardRequest) : Option String :=
  match request.token? with
  | none => none
  | some text =>
      if text = "" then none
      else if startsWith text "Bearer" then splitSecond text
      else some text

/-- A request with a bearer token. -/
def bearer (jwtToken : String) : GuardRequest where
  authorization := some ("Bearer " ++ jwtToken)
  queryToken := none

end GuardRequest

namespace PresentedToken

/-- `userFromToken`. -/
def userFromToken (presented : PresentedToken) : PayloadInstance :=
  PayloadInstance.plainToInstanceWithDefaults presented.tokenClass
    presented.rawPayload

/-- The first argument of both look-ups. -/
def sessionChannel (presented : PresentedToken) : String :=
  templateText? presented.userFromToken.sessionChannel

/-- The second argument of both look-ups. -/
def sessionBoundId (presented : PresentedToken) : String :=
  presented.userFromToken.sessionBoundId

/-- The Redis key of one of the two look-ups. -/
def storageKey
    (presented : PresentedToken)
    (service : SessionService) : String :=
  service.storageKey presented.sessionChannel presented.sessionBoundId

/-- `plainToInstance(tokenClass, { ...rawPayload, ...content })`. -/
def tokenContent
    (presented : PresentedToken)
    (content : JsonObject) : PayloadInstance :=
  PayloadInstance.plainToInstance presented.tokenClass
    fun name => (content name).or (presented.rawPayload name)

end PresentedToken

namespace JwtGuard

/-- The parameters `{ allowTokens: tokenClass }`. -/
def plainParams (tokenClass : TokenClass) : GuardParams where
  allowTokens := .one tokenClass
  allowSessions := none
  needVerifyJwtSignature := false

section Guard

variable
  (env : CoreEnvironment)
  (jwt : JwtService)
  (params : GuardParams)

/-- The payload: verified if the guard asks for it, else only decoded. -/
def rawPayload? (jwtToken : String) (now : Nat) : Option Json :=
  let payload :=
    if params.needVerifyJwtSignature then
      jwt.verify env.jwtSecret now jwtToken
    else
      jwt.decode jwtToken
  match payload with
  | some (.str text) => jwt.parse text
  | other => other

/--
Everything before the first read.  A payload that is no object has no type, so
no class is allowed for it.
-/
def present? (request : GuardRequest) (now : Nat) : Option PresentedToken := do
  let jwtToken ← request.jwtToken?
  match rawPayload? env jwt params jwtToken now with
  | some (.obj rawPayload) =>
      if ((toNumber? (rawPayload "exp")).scale 1000).lessThan
          (.finite now) then
        none
      else
        let tokenClass ← tokenTypeMap? (templateText? (rawPayload "type"))
        if params.allowTokens.includes tokenClass then
          some { jwtToken, rawPayload, tokenClass }
        else
          none
  | _ => none

/-- Everything between the two reads: `request.user`. -/
def user?
    (presented : PresentedToken)
    (content : JsonObject)
    (now : Nat) : Option BaseJwtPayload :=
  if !params.needVerifyJwtSignature &&
      presented.tokenClass.needVerifyJwtSignature &&
      (jwt.verify env.jwtSecret now presented.jwtToken).isNone then
    none
  else
    (presented.tokenContent content).validate

/-- Everything after the second read. -/
def sessionAllowed (session : JsonObject) : Bool :=
  match params.allowSessions with
  | none => true
  | some allowed => validateSession session allowed

/-- Whatever goes wrong, the guard answers the same. -/
def unauthorized : Failure :=
  .unauthorizedException SystemCode.unauthorized.text

/-- `canActivate`; a result stands for `true`. -/
def canActivate (request : GuardRequest) : SessionProgram Admission :=
  .clock fun now =>
    tryCatchThe Failure
      (match present? env jwt params request now with
      | none => throw unauthorized
      | some presented => do
          let content ← SessionService.token.getSessionValue
            presented.sessionChannel presented.sessionBoundId
          .clock fun later =>
            match user? env jwt params presented content later with
            | none => throw unauthorized
            | some user => do
                let session ← SessionService.session.getSessionValue
                  presented.sessionChannel presented.sessionBoundId
                if sessionAllowed params session then
                  return {
                    userClass := presented.tokenClass
                    user := user
                    session := session
                  }
                else
                  throw unauthorized)
      fun _ => throw unauthorized

/-! ## What the guard decides -/

/--
The decision when the store reads as `tokenEntry` and `sessionEntry` at the two
instants.
-/
def admission
    (request : GuardRequest)
    (now later : Nat)
    (tokenEntry sessionEntry : String → Option JsonObject) :
    Option Admission := do
  let presented ← present? env jwt params request now
  let content ← tokenEntry (presented.storageKey .token)
  let user ← user? env jwt params presented content later
  let session ← sessionEntry (presented.storageKey .session)
  if sessionAllowed params session then
    some {
      userClass := presented.tokenClass
      user := user
      session := session
    }
  else
    none

/-- The command tree of `canActivate`. -/
theorem canActivate_eq (request : GuardRequest) :
    canActivate env jwt params request =
      .clock fun now =>
        match present? env jwt params request now with
        | none => .done (.error unauthorized)
        | some presented =>
            .get (presented.storageKey .token) fun reply =>
              match reply with
              | .ok (some content) =>
                  .clock fun later =>
                    match user? env jwt params presented content later with
                    | none => .done (.error unauthorized)
                    | some user =>
                        .get (presented.storageKey .session) fun reply =>
                          match reply with
                          | .ok (some session) =>
                              if sessionAllowed params session then
                                .done (.ok {
                                  userClass := presented.tokenClass
                                  user := user
                                  session := session
                                })
                              else
                                .done (.error unauthorized)
                          | _ => .done (.error unauthorized)
              | _ => .done (.error unauthorized) := by
  unfold canActivate
  congr 1
  funext now
  cases present? env jwt params request now with
  | none => rfl
  | some presented =>
      simp only [SessionService.getSessionValue_eq, StoreProgram.get_bind,
        StoreProgram.tryCatch_eq, StoreProgram.tryCatch]
      congr 1
      funext reply
      rcases reply with error | (_ | content)
      · rfl
      · rfl
      · simp only [StoreProgram.ok_bind, StoreProgram.tryCatch]
        congr 1
        funext later
        cases user? env jwt params presented content later with
        | none => rfl
        | some user =>
            simp only [StoreProgram.tryCatch]
            congr 1
            funext reply
            rcases reply with error | (_ | session)
            · rfl
            · rfl
            · by_cases allowed : sessionAllowed params session = true
              · simp [allowed, StoreProgram.tryCatch]
              · simp [allowed, StoreProgram.tryCatch]

/-- A run alone changes nothing and answers as `admission` says. -/
theorem canActivate_run
    (request : GuardRequest)
    (clock : Nat → Nat)
    (backend : Backend String JsonObject) :
    (canActivate env jwt params request).run clock backend =
      (backend,
        match admission env jwt params request (clock 0) (clock 1)
            (backend.store.read (clock 0))
            (backend.store.read (clock 1)) with
        | some admitted => .ok admitted
        | none => .error unauthorized) := by
  rw [canActivate_eq]
  simp only [StoreProgram.run, admission]
  cases present? env jwt params request (clock 0) with
  | none => rfl
  | some presented =>
      simp only [StoreProgram.run, Option.bind_eq_bind, Option.bind_some]
      cases backend.store.read (clock 0) (presented.storageKey .token) with
      | none => rfl
      | some content =>
          simp only [StoreProgram.run, Option.bind_some, Nat.zero_add]
          cases user? env jwt params presented content (clock 1) with
          | none => rfl
          | some user =>
              simp only [StoreProgram.run, Option.bind_some]
              cases backend.store.read (clock 1)
                  (presented.storageKey .session) with
              | none => rfl
              | some session =>
                  simp only [Option.bind_some]
                  split <;> rfl

/-- A successful run changed nothing and was an admission. -/
theorem canActivate_run_ok
    {request : GuardRequest}
    {clock : Nat → Nat}
    {backend after : Backend String JsonObject}
    {admitted : Admission}
    (accepted :
      (canActivate env jwt params request).run clock backend =
        (after, .ok admitted)) :
    after = backend ∧
      admission env jwt params request (clock 0) (clock 1)
          (backend.store.read (clock 0))
          (backend.store.read (clock 1)) =
        some admitted := by
  rw [canActivate_run] at accepted
  simp only [Prod.mk.injEq] at accepted
  obtain ⟨unchanged, decided⟩ := accepted
  refine ⟨unchanged.symm, ?_⟩
  split at decided
  · rename_i found admits
    rw [admits]
    exact congrArg some (Except.ok.inj decided)
  · cases decided

/-- A run that did not fail was an admission, and changed nothing. -/
theorem canActivate_run_isOk
    {request : GuardRequest}
    {clock : Nat → Nat}
    {backend : Backend String JsonObject}
    (accepts :
      ((canActivate env jwt params request).run clock backend).2.isOk =
        true) :
    ∃ admitted,
      (canActivate env jwt params request).run clock backend =
        (backend, .ok admitted) := by
  rw [canActivate_run] at accepts ⊢
  split at accepts
  · rename_i admitted admits
    exact ⟨admitted, rfl⟩
  · cases accepts

end Guard

/-! ## What admission needs -/

variable
  {env : CoreEnvironment}
  {jwt : JwtService}
  {params : GuardParams}
  {request : GuardRequest}

/-- A presented token is of an allowed class, the class of its raw type. -/
theorem present?_eq_some
    {now : Nat}
    {presented : PresentedToken}
    (found : present? env jwt params request now = some presented) :
    request.jwtToken? = some presented.jwtToken ∧
      rawPayload? env jwt params presented.jwtToken now =
        some (.obj presented.rawPayload) ∧
      ((toNumber? (presented.rawPayload "exp")).scale 1000).lessThan
        (.finite now) = false ∧
      tokenTypeMap? (templateText? (presented.rawPayload "type")) =
        some presented.tokenClass ∧
      params.allowTokens.includes presented.tokenClass = true := by
  simp only [present?, Option.bind_eq_bind,
    Option.bind_eq_some_iff] at found
  obtain ⟨jwtToken, token, found⟩ := found
  split at found
  · rename_i rawPayload payload
    split at found
    · cases found
    · rename_i unexpired
      obtain ⟨tokenClass, mapped, found⟩ := Option.bind_eq_some_iff.mp found
      split at found
      · rename_i included
        cases found
        exact ⟨token, payload, by simpa using unexpired, mapped, included⟩
      · cases found
  · cases found

/-- The same conditions suffice. -/
theorem present?_of
    {now : Nat}
    {presented : PresentedToken}
    (token : request.jwtToken? = some presented.jwtToken)
    (payload :
      rawPayload? env jwt params presented.jwtToken now =
        some (.obj presented.rawPayload))
    (unexpired :
      ((toNumber? (presented.rawPayload "exp")).scale 1000).lessThan
        (.finite now) = false)
    (mapped :
      tokenTypeMap? (templateText? (presented.rawPayload "type")) =
        some presented.tokenClass)
    (included :
      params.allowTokens.includes presented.tokenClass = true) :
    present? env jwt params request now = some presented := by
  simp [present?, token, payload, unexpired, mapped, included]

/-- What an admission was decided from. -/
theorem admission_eq_some
    {now later : Nat}
    {tokenEntry sessionEntry : String → Option JsonObject}
    {admitted : Admission}
    (admits :
      admission env jwt params request now later tokenEntry sessionEntry =
        some admitted) :
    ∃ presented content,
      present? env jwt params request now = some presented ∧
        tokenEntry (presented.storageKey .token) = some content ∧
        user? env jwt params presented content later =
          some admitted.user ∧
        sessionEntry (presented.storageKey .session) =
          some admitted.session ∧
        sessionAllowed params admitted.session = true ∧
        admitted.userClass = presented.tokenClass := by
  simp only [admission, Option.bind_eq_bind,
    Option.bind_eq_some_iff] at admits
  obtain ⟨presented, found, content, tokenRead, user, checked, session,
    sessionRead, final⟩ := admits
  split at final
  · rename_i allowed
    cases final
    exact ⟨presented, content, found, tokenRead, checked, sessionRead,
      allowed, rfl⟩
  · cases final

/-- `request.user` is the validated overlay, verified if the class asks. -/
theorem user?_eq_some
    {presented : PresentedToken}
    {content : JsonObject}
    {now : Nat}
    {user : BaseJwtPayload}
    (found : user? env jwt params presented content now = some user) :
    (presented.tokenContent content).validate = some user ∧
      (presented.tokenClass.needVerifyJwtSignature = true →
        params.needVerifyJwtSignature = true ∨
          (jwt.verify env.jwtSecret now presented.jwtToken).isSome =
            true) := by
  unfold user? at found
  split at found
  · cases found
  · rename_i verified
    refine ⟨found, ?_⟩
    intro demanded
    by_cases asked : params.needVerifyJwtSignature = true
    · exact Or.inl asked
    · right
      cases checked :
          jwt.verify env.jwtSecret now presented.jwtToken with
      | some payload => rfl
      | none => simp [asked, demanded, checked] at verified

end JwtGuard

end NestBackend
