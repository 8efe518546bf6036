import NestBackend.JavaScript

namespace NestBackend

open JavaScript

/-!
# Token payloads

The payload classes of `auth.payload.ts`: which class a token type maps to,
what `plainToInstance` makes of a plain object, and what the validators accept.

All payload classes expose the same six properties.  They differ in the types
they admit, in the default type, and in whether the guard must verify the
signature.
-/

/-- `JWT_SESSION`. -/
inductive JwtSession where
  | token
  deriving DecidableEq, Repr

/-- `TOKEN_TYPE`. -/
inductive TokenType where
  | user
  | octoGuest
  | octoWeb
  | onboardingEmailOtp
  | onboardingEmailOtpVerified
  deriving DecidableEq, Repr

/-- The concrete payload classes. -/
inductive TokenClass where
  | jwtGatewayPayload
  | userJwtPayload
  | octoWebUserJwtPayload
  | octoWebJwtPayload
  | octoGuestJwtPayload
  | signContractJwtPayload
  deriving DecidableEq, Repr

namespace JwtSession

/-- The enumeration value. -/
def text : JwtSession → String
  | .token => "JWT_SESSION"

/-- The member with a given value. -/
def ofText? (text : String) : Option JwtSession :=
  if text = JwtSession.token.text then some .token else none

/-- There is only one session channel. -/
theorem eq_token (channel : JwtSession) :
    channel = .token := by
  cases channel
  rfl

end JwtSession

namespace TokenType

/-- The enumeration value. -/
def text : TokenType → String
  | .user => "USER"
  | .octoGuest => "OCTO_GUEST"
  | .octoWeb => "OCTO_WEB"
  | .onboardingEmailOtp => "ONBOARDING_EMAIL_OTP"
  | .onboardingEmailOtpVerified => "ONBOARDING_EMAIL_OTP_VERIFIED"

/-- Every member. -/
def all : List TokenType :=
  [.user, .octoGuest, .octoWeb, .onboardingEmailOtp,
    .onboardingEmailOtpVerified]

/-- The member with a given value. -/
def ofText? (text : String) : Option TokenType :=
  all.find? (fun type => type.text == text)

theorem mem_all (type : TokenType) : type ∈ all := by
  cases type <;> simp [all]

/-- Looking a member up by its value finds it. -/
@[simp] theorem ofText?_text (type : TokenType) :
    ofText? type.text = some type := by
  cases type <;> decide

/-- Only the value of a member finds it. -/
theorem text_of_ofText?
    {text : String}
    {type : TokenType}
    (found : ofText? text = some type) :
    type.text = text := by
  simpa using List.find?_some found

theorem text_injective
    {first second : TokenType}
    (same : first.text = second.text) :
    first = second := by
  have found := ofText?_text first
  rw [same, ofText?_text] at found
  exact (Option.some.inj found).symm

end TokenType

/-- `REFRESH_TOKEN`. -/
def refreshToken : List String :=
  [TokenType.octoGuest.text, TokenType.octoWeb.text]

/-- `TOKEN_TYPE_MAP` on the members of the enumeration. -/
def tokenTypeMap : TokenType → TokenClass
  | .user => .userJwtPayload
  | .octoGuest => .octoGuestJwtPayload
  | .octoWeb => .octoWebJwtPayload
  | .onboardingEmailOtp => .octoGuestJwtPayload
  | .onboardingEmailOtpVerified => .octoGuestJwtPayload

/--
`TOKEN_TYPE_MAP[name]` for any property name.  What the map inherits from
`Object.prototype` is no payload class, so it counts as nothing.
-/
def tokenTypeMap? (name : String) : Option TokenClass :=
  (TokenType.ofText? name).map tokenTypeMap

namespace TokenClass

/-- The class field `needVerifyJwtSignature`. -/
def needVerifyJwtSignature : TokenClass → Bool
  | .octoGuestJwtPayload => true
  | _ => false

/-- The types that the validator on `type` admits. -/
def admittedTypes : TokenClass → List TokenType
  | .jwtGatewayPayload => TokenType.all
  | .userJwtPayload => [.user]
  | .octoWebUserJwtPayload => [.octoWeb]
  | .octoWebJwtPayload => [.octoWeb]
  | .octoGuestJwtPayload => [.octoGuest]
  | .signContractJwtPayload => [.user]

/-- The default of the class field `type`, if it has one. -/
def defaultType : TokenClass → Option TokenType
  | .jwtGatewayPayload => none
  | .userJwtPayload => some .user
  | .octoWebUserJwtPayload => some .octoWeb
  | .octoWebJwtPayload => some .octoWeb
  | .octoGuestJwtPayload => some .octoGuest
  | .signContractJwtPayload => some .user

/-- Whether the validator on `type` accepts a text. -/
def admits (tokenClass : TokenClass) (text : String) : Bool :=
  tokenClass.admittedTypes.any (fun type => type.text == text)

/-- Every class admits its own default type. -/
theorem admits_defaultType
    {tokenClass : TokenClass}
    {type : TokenType}
    (default : tokenClass.defaultType = some type) :
    tokenClass.admits type.text = true := by
  cases tokenClass <;> cases default <;> decide

/--
A type that the class of a token type admits maps to that same class.  The
converse fails: `OctoGuestJWTPayload` is the class of types it does not admit.
-/
theorem tokenTypeMap?_of_admits
    {type : TokenType}
    {text : String}
    (admitted : (tokenTypeMap type).admits text = true) :
    tokenTypeMap? text = some (tokenTypeMap type) := by
  obtain ⟨other, member, sameText⟩ := List.any_eq_true.mp admitted
  have otherText : other.text = text := by
    simpa using sameText
  subst otherText
  have sameClass : tokenTypeMap other = tokenTypeMap type := by
    cases type <;> simp [tokenTypeMap, admittedTypes] at member <;>
      subst member <;> rfl
  simp [tokenTypeMap?, sameClass]

end TokenClass

/--
A payload as the services receive it, with the declared property types.  The
identifier is missing until an issuer draws one.  A missing or null `iat` or
`exp` passes the validators.
-/
structure BaseJwtPayload where
  iat : Option Json
  exp : Option Json
  key : String
  id : Option String
  sessionChannel : JwtSession
  type : String

namespace BaseJwtPayload

/-- The getter `sessionBoundId`. -/
def sessionBoundId (payload : BaseJwtPayload) : String :=
  payload.key ++ ":" ++ payload.id.getD "undefined"

/--
The own properties of a class instance with these values: the exposed ones,
undefined or not, and the class field.
-/
def properties
    (payload : BaseJwtPayload)
    (tokenClass : TokenClass) : Properties
  | "iat" => some payload.iat
  | "exp" => some payload.exp
  | "key" => some (some (.str payload.key))
  | "id" => some (payload.id.map .str)
  | "sessionChannel" => some (some (.str payload.sessionChannel.text))
  | "type" => some (some (.str payload.type))
  | "needVerifyJwtSignature" =>
      some (some (.bool tokenClass.needVerifyJwtSignature))
  | _ => none

end BaseJwtPayload

/-- A class instance built from a plain object; nothing is validated yet. -/
structure PayloadInstance where
  tokenClass : TokenClass
  iat : Option Json
  exp : Option Json
  key : Option Json
  id : Option Json
  sessionChannel : Option Json
  type : Option Json

namespace PayloadInstance

/-- `plainToInstance(tokenClass, plain)`: every exposed property is set. -/
def plainToInstance
    (tokenClass : TokenClass)
    (plain : JsonObject) : PayloadInstance where
  tokenClass := tokenClass
  iat := plain "iat"
  exp := plain "exp"
  key := plain "key"
  id := plain "id"
  sessionChannel := plain "sessionChannel"
  type := plain "type"

/-- The same with `exposeDefaultValues`: class defaults fill what is missing. -/
def plainToInstanceWithDefaults
    (tokenClass : TokenClass)
    (plain : JsonObject) : PayloadInstance where
  tokenClass := tokenClass
  iat := plain "iat"
  exp := plain "exp"
  key := plain "key"
  id := plain "id"
  sessionChannel :=
    (plain "sessionChannel").or (some (.str JwtSession.token.text))
  type :=
    (plain "type").or
      (tokenClass.defaultType.map fun type => .str type.text)

/-- The getter `sessionBoundId` on unvalidated properties. -/
def sessionBoundId (payload : PayloadInstance) : String :=
  templateText? payload.key ++ ":" ++ templateText? payload.id

/-- The validators `IsNumber` and `IsOptional` together. -/
def optionalNumber : Option Json → Bool
  | none => true
  | some .null => true
  | some value => value.isNumber

/--
`validate`: the payload with its declared types, when there are no validation
errors.
-/
def validate (payload : PayloadInstance) : Option BaseJwtPayload :=
  match payload.key, payload.id, payload.sessionChannel, payload.type with
  | some (.str key), some (.str id), some (.str channel),
      some (.str type) =>
      match JwtSession.ofText? channel with
      | none => none
      | some sessionChannel =>
          if optionalNumber payload.iat && optionalNumber payload.exp &&
              payload.tokenClass.admits type then
            some {
              iat := payload.iat
              exp := payload.exp
              key := key
              id := some id
              sessionChannel := sessionChannel
              type := type
            }
          else
            none
  | _, _, _, _ => none

/-- What a validated payload was before validation. -/
theorem validate_eq_some
    {payload : PayloadInstance}
    {validated : BaseJwtPayload}
    (accepted : payload.validate = some validated) :
    payload.iat = validated.iat ∧
      payload.exp = validated.exp ∧
      payload.key = some (.str validated.key) ∧
      payload.id = validated.id.map .str ∧
      validated.id.isSome = true ∧
      payload.sessionChannel =
        some (.str validated.sessionChannel.text) ∧
      payload.type = some (.str validated.type) ∧
      payload.tokenClass.admits validated.type = true := by
  unfold validate at accepted
  split at accepted
  · rename_i key id channel type keyShape idShape channelShape typeShape
    split at accepted
    · cases accepted
    · rename_i sessionChannel member
      split at accepted
      · rename_i valid
        cases accepted
        have channelText : channel = sessionChannel.text := by
          unfold JwtSession.ofText? at member
          split at member
          · rename_i sameText
            cases member
            exact sameText
          · cases member
        simp only [Bool.and_eq_true] at valid
        exact ⟨rfl, rfl, keyShape, idShape, rfl,
          by rw [channelShape, channelText], typeShape, valid.2⟩
      · cases accepted
  · cases accepted

/-- The numbers of a validated payload are numbers, or missing. -/
theorem validate_optionalNumber
    {payload : PayloadInstance}
    {validated : BaseJwtPayload}
    (accepted : payload.validate = some validated) :
    optionalNumber validated.iat = true ∧
      optionalNumber validated.exp = true := by
  unfold validate at accepted
  split at accepted
  · split at accepted
    · cases accepted
    · split at accepted
      · rename_i valid
        cases accepted
        simp only [Bool.and_eq_true] at valid
        exact valid.1
      · cases accepted
  · cases accepted

/-- Well-typed properties of an admitted type are validated. -/
theorem validate_of_wellTyped
    {payload : PayloadInstance}
    {key id type : String}
    {sessionChannel : JwtSession}
    (keyShape : payload.key = some (.str key))
    (idShape : payload.id = some (.str id))
    (channelShape :
      payload.sessionChannel = some (.str sessionChannel.text))
    (typeShape : payload.type = some (.str type))
    (iatNumber : optionalNumber payload.iat = true)
    (expNumber : optionalNumber payload.exp = true)
    (admitted : payload.tokenClass.admits type = true) :
    payload.validate =
      some {
        iat := payload.iat
        exp := payload.exp
        key := key
        id := some id
        sessionChannel := sessionChannel
        type := type
      } := by
  have member :
      JwtSession.ofText? sessionChannel.text = some sessionChannel := by
    cases sessionChannel
    rfl
  simp [validate, keyShape, idShape, channelShape, typeShape, member,
    iatNumber, expNumber, admitted]

end PayloadInstance

end NestBackend
