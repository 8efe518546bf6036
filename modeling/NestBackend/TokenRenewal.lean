import NestBackend.GuardSoundness
import NestBackend.TokenIssuance

namespace NestBackend

open JavaScript

/-!
# Chains of renewals

`renewToken` checks the `exp` of `request.user`, which the guard overlays with
the stored content.  The first renewal stores the `exp` it saw, so from then on
every check is against that one value, whatever token is presented.
-/

namespace BaseAuthService

variable
  {env : CoreEnvironment}
  {jwt : JwtService}
  {drawnId secretGeneration : String}
  {payload : BaseJwtPayload}
  {clock : Nat → Nat}
  {backend : Backend String JsonObject}

/-! ## One renewal -/

/-- A run of `renewToken` for a type that may be renewed. -/
theorem renewToken_run
    {allowMultipleTokens : Bool}
    {expireTime : Int}
    (refreshable : refreshToken.contains payload.type = true) :
    (renewToken env jwt drawnId secretGeneration payload expireTime
        allowMultipleTokens).run clock backend =
      if outsideRefreshWindow env payload (clock 0) = true then
        (backend,
          .error (.unauthorizedException
            SystemCode.tokenIsNotAllowToRefresh.text))
      else
        (createToken env jwt drawnId secretGeneration payload
          allowMultipleTokens expireTime).run clock backend := by
  unfold renewToken
  rw [if_pos refreshable]
  simp only [StoreProgram.run]
  by_cases outside :
      outsideRefreshWindow env payload (clock 0) = true
  · rw [if_pos outside, if_pos outside]
    rfl
  · rw [if_neg outside, if_neg outside]

end BaseAuthService

/-! ## Runs -/

/-- What one client has done so far. -/
structure RenewalHistory where
  /-- The `exp` claims presented at the successful renewals, in order. -/
  presented : List Int
  /-- The tokens that were returned to the client. -/
  held : List String
  backend : Backend String JsonObject

/--
One client issues a token for `payload`, and then makes guarded requests and
renewals with the tokens it was given, in any order, at any instants and with
any guards.  The renewals keep other tokens.
-/
inductive Renewals
    (env : CoreEnvironment)
    (jwt : JwtService)
    (payload : BaseJwtPayload) : RenewalHistory → Prop where
  | issued
      {issuing : Issuing}
      {drawnId : String}
      {given : BaseJwtPayload}
      {session : Properties}
      {expireTime : Int}
      {sessionLifeTime : Option Int}
      {clock : Nat → Nat}
      {before after : Backend String JsonObject}
      {token : String}
      (identified : BaseAuthService.ensureId drawnId given = payload)
      (ran :
        (issuing.program env jwt drawnId given session expireTime
          sessionLifeTime).run clock before =
          (after, .ok token)) :
      Renewals env jwt payload ⟨[], [token], after⟩
  | settled
      {history : RenewalHistory}
      {after : Backend String JsonObject}
      (earlier : Renewals env jwt payload history)
      (settles : history.backend.Settles after) :
      Renewals env jwt payload { history with backend := after }
  | guarded
      {history : RenewalHistory}
      {params : GuardParams}
      {request : GuardRequest}
      {clock : Nat → Nat}
      {after : Backend String JsonObject}
      {outcome : Except Failure Admission}
      (earlier : Renewals env jwt payload history)
      (ran :
        (JwtGuard.canActivate env jwt params request).run clock
          history.backend =
          (after, outcome)) :
      Renewals env jwt payload { history with backend := after }
  | renewed
      {history : RenewalHistory}
      {params : GuardParams}
      {request : GuardRequest}
      {clock instants : Nat → Nat}
      {after : Backend String JsonObject}
      {admitted : Admission}
      {token newToken drawnId secretGeneration : String}
      {rawPayload : JsonObject}
      {expiresAt expireTime : Int}
      (earlier : Renewals env jwt payload history)
      (member : token ∈ history.held)
      (presents : request.jwtToken? = some token)
      (decoded : jwt.decode token = some (.obj rawPayload))
      (claimed : rawPayload "exp" = some (.int expiresAt))
      (accepted :
        (JwtGuard.canActivate env jwt params request).run clock
          history.backend =
          (history.backend, .ok admitted))
      (ran :
        (BaseAuthService.renewToken env jwt drawnId secretGeneration
          admitted.user expireTime true).run instants history.backend =
          (after, .ok newToken)) :
      Renewals env jwt payload
        ⟨history.presented ++ [expiresAt], history.held ++ [newToken],
          after⟩
  | refused
      {history : RenewalHistory}
      {params : GuardParams}
      {request : GuardRequest}
      {clock instants : Nat → Nat}
      {after : Backend String JsonObject}
      {admitted : Admission}
      {token drawnId secretGeneration : String}
      {expireTime : Int}
      {failure : Failure}
      (earlier : Renewals env jwt payload history)
      (member : token ∈ history.held)
      (presents : request.jwtToken? = some token)
      (accepted :
        (JwtGuard.canActivate env jwt params request).run clock
          history.backend =
          (history.backend, .ok admitted))
      (ran :
        (BaseAuthService.renewToken env jwt drawnId secretGeneration
          admitted.user expireTime true).run instants history.backend =
          (after, .error failure)) :
      Renewals env jwt payload { history with backend := after }

/--
The `exp` that the token entry remembers: the one the payload brought along,
or else the claim presented at the first successful renewal.
-/
def rememberedExpiry
    (payload : BaseJwtPayload)
    (presented : List Int) : Option Json :=
  payload.exp.or (presented.head?.map Json.int)

/-- A token was signed for the identity of a payload. -/
def SignedFor
    (jwt : JwtService)
    (payload : BaseJwtPayload)
    (token : String)
    (claims : SignedClaims) : Prop :=
  ∃ secret,
    token = jwt.sign claims secret ∧
      claims.key = payload.key ∧
      payload.id = some claims.id ∧
      claims.type = payload.type

/-- The invariant of a run. -/
structure RenewalInvariant
    (jwt : JwtService)
    (payload : BaseJwtPayload)
    (history : RenewalHistory) : Prop where
  held :
    ∀ token ∈ history.held, ∃ claims, SignedFor jwt payload token claims
  entry :
    ∀ entry,
      history.backend.store.lookup (BaseAuthService.tokenKey payload) =
        some entry →
      TokenContentOf payload entry.value ∧
        entry.value "exp" = rememberedExpiry payload history.presented

/-- What the guard makes of a token that the client holds. -/
structure RenewedUser
    (payload : BaseJwtPayload)
    (remembered : Option Json)
    (expiresAt : Int)
    (user : BaseJwtPayload) : Prop where
  key : user.key = payload.key
  id : user.id = payload.id
  type : user.type = payload.type
  exp : user.exp = remembered.or (some (.int expiresAt))
  expNumber : PayloadInstance.optionalNumber user.exp = true

section Runs

variable
  {env : CoreEnvironment}
  {jwt : JwtService}
  {payload : BaseJwtPayload}
  {history : RenewalHistory}

/-- However a guard reads a signed token, it finds the signed claims. -/
theorem JwtGuard.rawPayload?_signed
    (lawful : jwt.Lawful)
    {params : GuardParams}
    {claims : SignedClaims}
    {secret : String}
    {now : Nat}
    {rawPayload : JsonObject}
    (found :
      rawPayload? env jwt params (jwt.sign claims secret) now =
        some (.obj rawPayload)) :
    rawPayload = claims.payload := by
  unfold rawPayload? at found
  by_cases asked : params.needVerifyJwtSignature = true
  · rw [if_pos asked, lawful.verify_sign] at found
    split at found
    · cases found
      rfl
    · cases found
  · rw [if_neg asked, lawful.decode_sign] at found
    cases found
    rfl

/-- The user of an accepted request with a held token. -/
theorem RenewalInvariant.user
    (lawful : jwt.Lawful)
    (invariant : RenewalInvariant jwt payload history)
    {token : String}
    {claims : SignedClaims}
    (signed : SignedFor jwt payload token claims)
    {params : GuardParams}
    {request : GuardRequest}
    (presents : request.jwtToken? = some token)
    {clock : Nat → Nat}
    {admitted : Admission}
    (accepted :
      (JwtGuard.canActivate env jwt params request).run clock
        history.backend =
        (history.backend, .ok admitted)) :
    RenewedUser payload (rememberedExpiry payload history.presented)
      claims.expiresAt admitted.user := by
  obtain ⟨secret, rfl, sameKey, sameId, sameType⟩ := signed
  obtain ⟨-, admits⟩ := JwtGuard.canActivate_run_ok env jwt params accepted
  obtain ⟨presented, content, found, tokenRead, checked, -, -, -⟩ :=
    JwtGuard.admission_eq_some admits
  obtain ⟨sameToken, raw, -, -, -⟩ := JwtGuard.present?_eq_some found
  have tokenShape : presented.jwtToken = jwt.sign claims secret :=
    Option.some.inj (sameToken.symm.trans presents)
  rw [tokenShape] at raw
  have rawShape := JwtGuard.rawPayload?_signed lawful raw
  obtain ⟨jwtToken, rawPayload, tokenClass⟩ := presented
  have rawIsClaims : rawPayload = claims.payload := rawShape
  subst rawIsClaims
  have keyShape :
      PresentedToken.storageKey
          { jwtToken, rawPayload := claims.payload, tokenClass } .token =
        BaseAuthService.tokenKey payload := by
    rw [JwtGuard.storageKey_signed, BaseAuthService.tokenKey,
      payload.sessionChannel.eq_token]
    simp [BaseJwtPayload.sessionBoundId, sameId, sameKey]
  rw [keyShape] at tokenRead
  obtain ⟨entry, lookup, -, rfl⟩ :=
    ExpiringStore.read_eq_some.mp tokenRead
  obtain ⟨stored, remembered⟩ := invariant.entry entry lookup
  obtain ⟨validated, -⟩ := JwtGuard.user?_eq_some checked
  have identified : payload.id.isSome = true := by
    rw [sameId]
    rfl
  obtain ⟨userStored, userIdentified, -⟩ :=
    tokenContentOf_user identified stored validated
  obtain ⟨-, expShape, -⟩ := PayloadInstance.validate_eq_some validated
  obtain ⟨userKey, userId, userType⟩ := userStored.unique stored
  refine ⟨userKey, userId, userType, ?_, ?_⟩
  · rw [← expShape]
    exact congrArg (fun found => Option.or found _) remembered
  · exact (PayloadInstance.validate_optionalNumber validated).2

/-- A renewed user has the same key for its token entry. -/
theorem RenewedUser.tokenKey
    {remembered : Option Json}
    {expiresAt : Int}
    {user : BaseJwtPayload}
    (renewed : RenewedUser payload remembered expiresAt user) :
    BaseAuthService.tokenKey user = BaseAuthService.tokenKey payload := by
  rw [BaseAuthService.tokenKey, BaseAuthService.tokenKey,
    user.sessionChannel.eq_token.trans
      payload.sessionChannel.eq_token.symm,
    BaseJwtPayload.sessionBoundId, BaseJwtPayload.sessionBoundId,
    renewed.key, renewed.id]

/-- Fewer entries keep the invariant. -/
theorem RenewalInvariant.restrict
    (invariant : RenewalInvariant jwt payload history)
    {after : Backend String JsonObject}
    (fewer :
      ∀ entry,
        after.store.lookup (BaseAuthService.tokenKey payload) =
          some entry →
        history.backend.store.lookup (BaseAuthService.tokenKey payload) =
          some entry) :
    RenewalInvariant jwt payload { history with backend := after } where
  held := invariant.held
  entry entry lookup := invariant.entry entry (fewer entry lookup)

/-- The first token and its entry. -/
theorem RenewalInvariant.issued
    {issuing : Issuing}
    {drawnId : String}
    {given : BaseJwtPayload}
    {session : Properties}
    {expireTime : Int}
    {sessionLifeTime : Option Int}
    {clock : Nat → Nat}
    {before after : Backend String JsonObject}
    {type : TokenType}
    {token : String}
    (typed : payload.type = type.text)
    (identified : BaseAuthService.ensureId drawnId given = payload)
    (ran :
      (issuing.program env jwt drawnId given session expireTime
        sessionLifeTime).run clock before =
        (after, .ok token)) :
    RenewalInvariant jwt payload ⟨[], [token], after⟩ := by
  have givenTyped : given.type = type.text := by
    rw [← typed, ← identified, BaseAuthService.ensureId_type]
  obtain ⟨earlier, _, -, tokenShape, stored, -⟩ :=
    Issuing.run_ok givenTyped ran
  rw [identified] at tokenShape stored
  obtain ⟨id, idShape⟩ : ∃ id, payload.id = some id := by
    rw [← identified]
    exact Option.isSome_iff_exists.mp
      (BaseAuthService.ensureId_isSome drawnId given)
  constructor
  · intro other member
    rw [List.mem_singleton.mp member, tokenShape]
    refine ⟨_, _, rfl, rfl, ?_, rfl⟩
    simp [BaseAuthService.signedClaims, idShape]
  · intro entry lookup
    rw [stored, BaseAuthService.writeBoth_token] at lookup
    cases lookup
    refine ⟨payload.tokenContentOf_content _, ?_⟩
    cases remembered : payload.exp <;>
      simp [rememberedExpiry, BaseJwtPayload.content,
        BaseJwtPayload.properties, Properties.stringify, remembered]

/-- One successful renewal. -/
theorem RenewalInvariant.renewed
    {type : TokenType}
    (typed : payload.type = type.text)
    (refreshable : refreshToken.contains payload.type = true)
    {id : String}
    (identified : payload.id = some id)
    (nonempty : id ≠ "")
    (invariant : RenewalInvariant jwt payload history)
    {user : BaseJwtPayload}
    {expiresAt expireTime : Int}
    (renewed :
      RenewedUser payload (rememberedExpiry payload history.presented)
        expiresAt user)
    {drawnId secretGeneration newToken : String}
    {instants : Nat → Nat}
    {after : Backend String JsonObject}
    (ran :
      (BaseAuthService.renewToken env jwt drawnId secretGeneration user
        expireTime true).run instants history.backend =
        (after, .ok newToken)) :
    RenewalInvariant jwt payload
      ⟨history.presented ++ [expiresAt], history.held ++ [newToken],
        after⟩ := by
  have userTyped : user.type = type.text := renewed.type.trans typed
  have userRefreshable : refreshToken.contains user.type = true := by
    rw [renewed.type]
    exact refreshable
  have userIdentified : user.id = some id := renewed.id.trans identified
  rw [BaseAuthService.renewToken_run userRefreshable,
    BaseAuthService.createToken_run userTyped] at ran
  split at ran
  · cases ran
  · split at ran
    · cases ran
      constructor
      · intro token member
        rcases List.mem_append.mp member with old | isNew
        · exact invariant.held token old
        · rw [List.mem_singleton.mp isNew,
            BaseAuthService.ensureId_of_id userIdentified nonempty]
          refine ⟨_, _, rfl, renewed.key, ?_, renewed.type⟩
          simp [BaseAuthService.signedClaims, userIdentified, identified]
      · intro entry lookup
        rw [← renewed.tokenKey,
          ExpiringStore.lookup_write_same] at lookup
        cases lookup
        have stored := user.tokenContentOf_content (tokenTypeMap type)
        refine ⟨stored.of_same renewed.key renewed.id renewed.type, ?_⟩
        · have content :
              user.content (tokenTypeMap type) "exp" = user.exp := by
            cases exp : user.exp <;>
              simp [BaseJwtPayload.content, BaseJwtPayload.properties,
                Properties.stringify, exp]
          refine content.trans ?_
          rw [renewed.exp]
          -- the first claim presented is the one that stays
          unfold rememberedExpiry
          cases payload.exp <;> cases history.presented <;> rfl
    · cases ran

/-- A renewal that fails leaves the entry as it was. -/
theorem renewToken_refused
    {type : TokenType}
    {user : BaseJwtPayload}
    (typed : user.type = type.text)
    (refreshable : refreshToken.contains user.type = true)
    {drawnId secretGeneration : String}
    {expireTime : Int}
    {allowMultipleTokens : Bool}
    {instants : Nat → Nat}
    {before after : Backend String JsonObject}
    {failure : Failure}
    (ran :
      (BaseAuthService.renewToken env jwt drawnId secretGeneration user
        expireTime allowMultipleTokens).run instants before =
        (after, .error failure)) :
    after.store = before.store := by
  rw [BaseAuthService.renewToken_run refreshable,
    BaseAuthService.createToken_run typed] at ran
  split at ran
  · cases ran
    rfl
  · split at ran
    · cases ran
    · cases ran
      rfl

/-- The invariant holds after every run. -/
theorem Renewals.invariant
    (lawful : jwt.Lawful)
    {type : TokenType}
    (typed : payload.type = type.text)
    (refreshable : refreshToken.contains payload.type = true)
    {id : String}
    (identified : payload.id = some id)
    (nonempty : id ≠ "")
    (renewals : Renewals env jwt payload history) :
    RenewalInvariant jwt payload history := by
  induction renewals with
  | issued identifies ran =>
      exact RenewalInvariant.issued typed identifies ran
  | settled earlier settles inductionHypothesis =>
      exact inductionHypothesis.restrict
        (fun entry lookup => settles.lookup_some lookup)
  | guarded earlier ran inductionHypothesis =>
      rw [JwtGuard.canActivate_run] at ran
      cases ran
      exact inductionHypothesis
  | @renewed history params request clock instants after admitted token
      newToken drawnId secretGeneration rawPayload expiresAt expireTime
      earlier member presents decoded claimed accepted ran
      inductionHypothesis =>
      obtain ⟨claims, signed⟩ := inductionHypothesis.held token member
      have user := inductionHypothesis.user lawful signed presents accepted
      obtain ⟨secret, rfl, -, -, -⟩ := signed
      have sameExpiry : claims.expiresAt = expiresAt := by
        rw [lawful.decode_sign] at decoded
        cases decoded
        exact Json.int_injective (Option.some.inj claimed)
      rw [sameExpiry] at user
      exact inductionHypothesis.renewed typed refreshable identified
        nonempty user ran
  | @refused history params request clock instants after admitted token
      drawnId secretGeneration expireTime failure earlier member presents
      accepted ran inductionHypothesis =>
      obtain ⟨claims, signed⟩ := inductionHypothesis.held token member
      have user := inductionHypothesis.user lawful signed presents accepted
      have userTyped := user.type.trans typed
      have userRefreshable :
          refreshToken.contains admitted.user.type = true := by
        rw [user.type]
        exact refreshable
      apply inductionHypothesis.restrict
      intro entry lookup
      rw [renewToken_refused userTyped userRefreshable ran] at lookup
      exact lookup

end Runs

namespace Sample

/-- A login with a type that may be renewed. -/
def webLogin : SessionProgram String :=
  Issuing.program environment JwtService.Marked.service "first"
    (payload .octoWeb) session 10 none (.authenticate "random" true)

/-- A guarded request with a token at one instant. -/
def webGuard (jwtToken : String) : SessionProgram Admission :=
  JwtGuard.canActivate environment JwtService.Marked.service
    (JwtGuard.plainParams .octoWebJwtPayload) (.bearer jwtToken)

end Sample

end NestBackend
