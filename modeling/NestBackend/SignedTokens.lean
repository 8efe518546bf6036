import NestBackend.JwtGuard

namespace NestBackend

open JavaScript

/-!
# Tokens that the service signed

What the stored content of a token is, and what the guard decides about a token
that the service signed for that content.
-/

namespace BaseJwtPayload

/-- What `addSession` stores for a token of this payload. -/
def content (payload : BaseJwtPayload) (tokenClass : TokenClass) : JsonObject :=
  (payload.properties tokenClass).stringify

/--
The instance owns `exp` and `iat`, undefined or not, so nothing is left of the
stamp that `addSession` starts from.
-/
theorem stringify_stamp_spread
    (payload : BaseJwtPayload)
    (tokenClass : TokenClass)
    (now : Nat)
    (seconds : Option Int) :
    ((SessionService.stamp now seconds).spread
        (payload.properties tokenClass)).stringify =
      payload.content tokenClass := by
  funext name
  unfold content Properties.stringify Properties.spread
  cases owned : payload.properties tokenClass name with
  | some value => rfl
  | none =>
      have notStamped : SessionService.stamp now seconds name = none := by
        unfold SessionService.stamp
        split
        · cases owned
        · cases owned
        · rfl
      rw [notStamped]
      rfl

end BaseJwtPayload

/-- A bearer request presents its token. -/
theorem GuardRequest.jwtToken?_bearer
    {jwtToken : String}
    (spaceless : ' ' ∉ jwtToken.toList) :
    (bearer jwtToken).jwtToken? = some jwtToken := by
  have notEmpty : "Bearer " ++ jwtToken ≠ "" := by
    intro empty
    have chars := congrArg String.toList empty
    simp [String.toList_append] at chars
  have leading : startsWith ("Bearer " ++ jwtToken) "Bearer" = true := by
    simp [startsWith, String.toList_append, List.isPrefixOf]
  have schemeSpaceless : ' ' ∉ "Bearer".toList := by decide
  have scheme : "Bearer" ++ " " = "Bearer " := by decide
  have second :
      splitSecond ("Bearer" ++ " " ++ jwtToken) = some jwtToken :=
    splitSecond_append schemeSpaceless spaceless
  rw [scheme] at second
  have header :
      (bearer jwtToken).token? = some ("Bearer " ++ jwtToken) := by
    unfold token? bearer
    exact if_neg notEmpty
  simp only [jwtToken?, header]
  rw [if_neg notEmpty, if_pos leading]
  exact second

namespace JwtGuard

/--
When such a guard accepts a signed token whose two entries are live: the token
has not expired by its own claim, the class admits its type, and where the
class demands a signature it is the configured one and not expired either.
-/
def AcceptsSigned
    (env : CoreEnvironment)
    (claims : SignedClaims)
    (secret : String)
    (tokenClass : TokenClass)
    (now later : Nat) : Prop :=
  (now : Int) ≤ claims.expiresAt * 1000 ∧
    tokenClass.admits claims.type = true ∧
    (tokenClass.needVerifyJwtSignature = true →
      env.jwtSecret = secret ∧
        ((later / 1000 : Nat) : Int) < claims.expiresAt)

instance
    (env : CoreEnvironment)
    (claims : SignedClaims)
    (secret : String)
    (tokenClass : TokenClass)
    (now later : Nat) :
    Decidable (AcceptsSigned env claims secret tokenClass now later) :=
  inferInstanceAs (Decidable (_ ∧ _ ∧ (_ → _)))

/-- The user that a guard makes of a signed token and stored content. -/
def signedUser
    (claims : SignedClaims)
    (payload : BaseJwtPayload) : BaseJwtPayload where
  iat := payload.iat.or (some (.int claims.issuedAt))
  exp := payload.exp.or (some (.int claims.expiresAt))
  key := claims.key
  id := some claims.id
  sessionChannel := claims.sessionChannel
  type := claims.type

section Signed

variable
  {env : CoreEnvironment}
  {jwt : JwtService}
  {request : GuardRequest}
  {claims : SignedClaims}
  {secret : String}

/-- The comparison that finds a token expired, on an integral claim. -/
theorem expired_iff
    (expiresAt : Int)
    (now : Nat) :
    ((toNumber? (some (.int expiresAt))).scale 1000).lessThan
        (.finite now) = true ↔
      expiresAt * 1000 < (now : Int) := by
  have compared :
      ((toNumber? (some (.int expiresAt))).scale 1000).lessThan
          (.finite now) =
        decide ((expiresAt : Rat) * 1000 < (now : Rat)) := rfl
  have scaled :
      (expiresAt : Rat) * 1000 = ((expiresAt * 1000 : Int) : Rat) :=
    (Rat.intCast_mul expiresAt 1000).symm
  rw [compared, decide_eq_true_eq, scaled, ← Rat.intCast_natCast]
  exact Rat.intCast_lt_intCast

/-- What a guard makes of a signed token before it reads anything. -/
theorem present?_signed
    {tokenClass : TokenClass}
    (lawful : jwt.Lawful)
    (presents : request.jwtToken? = some (jwt.sign claims secret))
    (mapped : tokenTypeMap? claims.type = some tokenClass)
    {now : Nat} :
    present? env jwt (plainParams tokenClass) request now =
      if (now : Int) ≤ claims.expiresAt * 1000 then
        some {
          jwtToken := jwt.sign claims secret
          rawPayload := claims.payload
          tokenClass := tokenClass
        }
      else
        none := by
  have raw :
      rawPayload? env jwt (plainParams tokenClass)
          (jwt.sign claims secret) now =
        some (.obj claims.payload) := by
    simp only [rawPayload?, plainParams, lawful.decode_sign]
    rfl
  have rawExp :
      claims.payload "exp" = some (.int claims.expiresAt) := rfl
  have rawType : claims.payload "type" = some (.str claims.type) := rfl
  have included :
      (plainParams tokenClass).allowTokens.includes tokenClass =
        true := by
    simp [plainParams, AllowedTokens.includes]
  by_cases unexpired : (now : Int) ≤ claims.expiresAt * 1000
  · rw [if_pos unexpired]
    apply present?_of presents raw
    · simp only [rawExp]
      rw [← Bool.not_eq_true, expired_iff]
      omega
    · simp only [rawType]
      exact mapped
    · exact included
  · rw [if_neg unexpired]
    cases found :
        present? env jwt (plainParams tokenClass) request now with
    | none => rfl
    | some presented =>
        exfalso
        obtain ⟨token, payload, notExpired, -, -⟩ :=
          present?_eq_some found
        rw [presents] at token
        rw [← Option.some.inj token, raw] at payload
        injection payload with payload
        injection payload with payload
        rw [← Bool.not_eq_true, ← payload, rawExp, expired_iff]
          at notExpired
        omega

/-- What the guard looks up for a signed token. -/
theorem names_signed
    {jwtToken : String}
    {tokenClass : TokenClass} :
    PresentedToken.sessionChannel
          { jwtToken, rawPayload := claims.payload, tokenClass } =
        JwtSession.token.text ∧
      PresentedToken.sessionBoundId
          { jwtToken, rawPayload := claims.payload, tokenClass } =
        claims.key ++ ":" ++ claims.id := by
  cases channel : claims.sessionChannel
  have rawChannel :
      claims.payload "sessionChannel" =
        some (.str JwtSession.token.text) := by
    simp [SignedClaims.payload, channel]
  simp only [PresentedToken.sessionChannel,
    PresentedToken.sessionBoundId, PresentedToken.userFromToken,
    PayloadInstance.plainToInstanceWithDefaults,
    PayloadInstance.sessionBoundId, rawChannel]
  exact ⟨rfl, rfl⟩

/-- The keys under which it does so. -/
theorem storageKey_signed
    {jwtToken : String}
    {tokenClass : TokenClass}
    (service : SessionService) :
    PresentedToken.storageKey
        { jwtToken, rawPayload := claims.payload, tokenClass } service =
      service.storageKey JwtSession.token.text
        (claims.key ++ ":" ++ claims.id) := by
  unfold PresentedToken.storageKey
  rw [names_signed.1, names_signed.2]

/-- Validation of a signed token overlaid with the content stored for it. -/
theorem validate_signed
    {payload : BaseJwtPayload}
    {tokenClass : TokenClass}
    {jwtToken : String}
    (sameKey : payload.key = claims.key)
    (sameId : payload.id = some claims.id)
    (sameType : payload.type = claims.type)
    (iatNumber : PayloadInstance.optionalNumber payload.iat = true)
    (expNumber : PayloadInstance.optionalNumber payload.exp = true) :
    (PresentedToken.tokenContent
        { jwtToken, rawPayload := claims.payload, tokenClass }
        (payload.content tokenClass)).validate =
      if tokenClass.admits claims.type = true then
        some (signedUser claims payload)
      else
        none := by
  have sameChannel : payload.sessionChannel = claims.sessionChannel := by
    cases payload.sessionChannel
    cases claims.sessionChannel
    rfl
  have overlaid :
      PresentedToken.tokenContent
          { jwtToken, rawPayload := claims.payload, tokenClass }
          (payload.content tokenClass) =
        { tokenClass := tokenClass
          iat := payload.iat.or (some (.int claims.issuedAt))
          exp := payload.exp.or (some (.int claims.expiresAt))
          key := some (.str claims.key)
          id := some (.str claims.id)
          sessionChannel := some (.str claims.sessionChannel.text)
          type := some (.str claims.type) } := by
    rw [← sameKey, ← sameType, ← sameChannel]
    have storedId :
        payload.content tokenClass "id" = some (.str claims.id) := by
      simp [BaseJwtPayload.content, BaseJwtPayload.properties,
        Properties.stringify, sameId]
    simp only [PresentedToken.tokenContent,
      PayloadInstance.plainToInstance, storedId]
    rfl
  have mergedIat :
      PayloadInstance.optionalNumber
        (payload.iat.or (some (.int claims.issuedAt))) = true := by
    cases iat : payload.iat with
    | none => rfl
    | some value =>
        rw [iat] at iatNumber
        exact iatNumber
  have mergedExp :
      PayloadInstance.optionalNumber
        (payload.exp.or (some (.int claims.expiresAt))) = true := by
    cases exp : payload.exp with
    | none => rfl
    | some value =>
        rw [exp] at expNumber
        exact expNumber
  rw [overlaid]
  by_cases admitted : tokenClass.admits claims.type = true
  · rw [if_pos admitted]
    exact PayloadInstance.validate_of_wellTyped rfl rfl rfl rfl mergedIat
      mergedExp admitted
  · rw [if_neg admitted]
    by_contra accepted
    obtain ⟨user, validated⟩ := Option.ne_none_iff_exists'.mp accepted
    obtain ⟨-, -, -, -, -, -, typeShape, userAdmitted⟩ :=
      PayloadInstance.validate_eq_some validated
    injection typeShape with typeShape
    injection typeShape with typeShape
    rw [← typeShape] at userAdmitted
    exact admitted userAdmitted

/-- What a guard makes of a signed token and the content stored for it. -/
theorem user?_signed
    {payload : BaseJwtPayload}
    {tokenClass : TokenClass}
    (lawful : jwt.Lawful)
    (sameKey : payload.key = claims.key)
    (sameId : payload.id = some claims.id)
    (sameType : payload.type = claims.type)
    (iatNumber : PayloadInstance.optionalNumber payload.iat = true)
    (expNumber : PayloadInstance.optionalNumber payload.exp = true)
    {later : Nat} :
    user? env jwt (plainParams tokenClass)
        { jwtToken := jwt.sign claims secret
          rawPayload := claims.payload
          tokenClass := tokenClass }
        (payload.content tokenClass) later =
      if tokenClass.admits claims.type = true ∧
          (tokenClass.needVerifyJwtSignature = true →
            env.jwtSecret = secret ∧
              ((later / 1000 : Nat) : Int) < claims.expiresAt) then
        some (signedUser claims payload)
      else
        none := by
  have merged :
      (PresentedToken.tokenContent
          { jwtToken := jwt.sign claims secret
            rawPayload := claims.payload
            tokenClass := tokenClass }
          (payload.content tokenClass)).validate =
        if tokenClass.admits claims.type = true then
          some (signedUser claims payload)
        else
          none :=
    validate_signed sameKey sameId sameType iatNumber expNumber
  unfold user?
  rw [lawful.verify_sign, merged]
  by_cases demanded : tokenClass.needVerifyJwtSignature = true
  · by_cases verified :
        env.jwtSecret = secret ∧
          ((later / 1000 : Nat) : Int) < claims.expiresAt
    · rw [if_pos verified]
      simp [plainParams, demanded, verified.1, verified.2,
        -Int.natCast_ediv]
    · rw [if_neg verified]
      have refused :
          ¬ (tokenClass.admits claims.type = true ∧
            (tokenClass.needVerifyJwtSignature = true →
              env.jwtSecret = secret ∧
                ((later / 1000 : Nat) : Int) < claims.expiresAt)) :=
        fun accepted => verified (accepted.2 demanded)
      rw [if_neg refused, demanded]
      rfl
  · simp [plainParams, demanded]

/--
The decision of a guard for one class about a token that the service signed
for the content that is stored.
-/
theorem admission_signed
    {payload : BaseJwtPayload}
    {tokenClass : TokenClass}
    (lawful : jwt.Lawful)
    (presents : request.jwtToken? = some (jwt.sign claims secret))
    (mapped : tokenTypeMap? claims.type = some tokenClass)
    (sameKey : payload.key = claims.key)
    (sameId : payload.id = some claims.id)
    (sameType : payload.type = claims.type)
    (iatNumber : PayloadInstance.optionalNumber payload.iat = true)
    (expNumber : PayloadInstance.optionalNumber payload.exp = true)
    {now later : Nat}
    {tokenEntry sessionEntry : String → Option JsonObject}
    {session : JsonObject}
    (tokenRead :
      tokenEntry
          (SessionService.token.storageKey JwtSession.token.text
            payload.sessionBoundId) =
        some (payload.content tokenClass))
    (sessionRead :
      sessionEntry
          (SessionService.session.storageKey JwtSession.token.text
            payload.sessionBoundId) =
        some session) :
    admission env jwt (plainParams tokenClass) request now later
        tokenEntry sessionEntry =
      if AcceptsSigned env claims secret tokenClass now later then
        some {
          userClass := tokenClass
          user := signedUser claims payload
          session := session
        }
      else
        none := by
  have boundId :
      payload.sessionBoundId = claims.key ++ ":" ++ claims.id := by
    simp [BaseJwtPayload.sessionBoundId, sameKey, sameId]
  rw [boundId] at tokenRead sessionRead
  unfold admission
  rw [present?_signed lawful presents mapped]
  by_cases unexpired : (now : Int) ≤ claims.expiresAt * 1000
  · rw [if_pos unexpired]
    simp only [Option.bind_eq_bind, Option.bind_some, storageKey_signed,
      tokenRead, sessionRead,
      user?_signed lawful sameKey sameId sameType iatNumber expNumber]
    split
    · rename_i accepted
      have acceptsSigned :
          AcceptsSigned env claims secret tokenClass now later :=
        ⟨unexpired, accepted⟩
      rw [if_pos acceptsSigned]
      rfl
    · rename_i refused
      have notAccepted :
          ¬ AcceptsSigned env claims secret tokenClass now later :=
        fun accepted => refused accepted.2
      rw [if_neg notAccepted]
      rfl
  · have notAccepted :
        ¬ AcceptsSigned env claims secret tokenClass now later :=
      fun accepted => unexpired accepted.1
    rw [if_neg unexpired, if_neg notAccepted]
    rfl

end Signed

end JwtGuard

end NestBackend
