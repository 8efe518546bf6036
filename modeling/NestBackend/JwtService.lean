import NestBackend.TokenPayload

namespace NestBackend

open JavaScript

/-!
# The JWT service

Signing, verifying and decoding belong to `@nestjs/jwt` and stay a parameter.
What the services rely on is `JwtService.Lawful`; results about arbitrary
tokens do without it.  The last section builds a service that has the laws.
-/

/-- The claims of a signed token, as `signJwt` hands them to the service. -/
structure SignedClaims where
  key : String
  id : String
  sessionChannel : JwtSession
  type : String
  audience : String
  subject : String
  issuer : String
  issuedAt : Int
  expiresAt : Int

/-- The payload object of a token with these claims. -/
def SignedClaims.payload (claims : SignedClaims) : JsonObject
  | "key" => some (.str claims.key)
  | "id" => some (.str claims.id)
  | "sessionChannel" => some (.str claims.sessionChannel.text)
  | "type" => some (.str claims.type)
  | "aud" => some (.str claims.audience)
  | "sub" => some (.str claims.subject)
  | "iss" => some (.str claims.issuer)
  | "iat" => some (.int claims.issuedAt)
  | "exp" => some (.int claims.expiresAt)
  | _ => none

/--
The JWT service.  `verify` is given the secret to check with and the instant;
it and `decode` give nothing where the library throws or returns null.
`parse` is `JSON.parse`, for payloads that decode to a plain text.
-/
structure JwtService where
  sign : SignedClaims → String → String
  verify : String → Nat → String → Option Json
  decode : String → Option Json
  parse : String → Option Json

/--
The documented laws: a signed token decodes to its claims, it verifies exactly
under the secret it was signed with and before its expiry second, and the
compact form holds no space.
-/
structure JwtService.Lawful (jwt : JwtService) : Prop where
  decode_sign :
    ∀ claims secret,
      jwt.decode (jwt.sign claims secret) = some (.obj claims.payload)
  verify_sign :
    ∀ claims secret checkedWith now,
      jwt.verify checkedWith now (jwt.sign claims secret) =
        if checkedWith = secret ∧ ((now / 1000 : Nat) : Int) < claims.expiresAt
        then some (.obj claims.payload)
        else none
  sign_spaceless :
    ∀ claims secret, ' ' ∉ (jwt.sign claims secret).toList

/-- The settings that the services read. -/
structure CoreEnvironment where
  jwtSecret : String
  jwtIssuer : String
  tokenExpire : Int
  tokenRefreshTimeWindow : Int

/-! ## A lawful service -/

namespace JwtService.Marked

/-- A text with every character marked, so that no space is left. -/
def encodeField : List Char → List Char
  | [] => ['e']
  | char :: rest =>
      if char = ' ' then
        's' :: encodeField rest
      else
        'c' :: char :: encodeField rest

/-- The text that was marked, and what follows it. -/
def decodeField : List Char → Option (List Char × List Char)
  | 'e' :: rest => some ([], rest)
  | 's' :: rest =>
      (decodeField rest).map fun decoded => (' ' :: decoded.1, decoded.2)
  | 'c' :: char :: rest =>
      (decodeField rest).map fun decoded => (char :: decoded.1, decoded.2)
  | _ => none

theorem decodeField_encodeField (text rest : List Char) :
    decodeField (encodeField text ++ rest) = some (text, rest) := by
  induction text with
  | nil => rfl
  | cons char later inductionHypothesis =>
      by_cases space : char = ' '
      · subst space
        simp [encodeField, decodeField, inductionHypothesis]
      · simp [encodeField, space, decodeField, inductionHypothesis]

theorem spaceless_encodeField (text : List Char) :
    ' ' ∉ encodeField text := by
  induction text with
  | nil => decide
  | cons char later inductionHypothesis =>
      by_cases space : char = ' '
      · simp [encodeField, space, inductionHypothesis]
      · simp [encodeField, space, inductionHypothesis, Ne.symm space]

/-- An integer as a sign and as many strokes as its absolute value. -/
def strokes (value : Int) : List Char :=
  (if value < 0 then '-' else '+') :: List.replicate value.natAbs '1'

/-- The integer behind a sign and strokes. -/
def ofStrokes : List Char → Int
  | '-' :: rest => -(rest.length : Int)
  | _ :: rest => rest.length
  | [] => 0

theorem ofStrokes_strokes (value : Int) :
    ofStrokes (strokes value) = value := by
  by_cases negative : value < 0
  · simp only [strokes, negative, ↓reduceIte, ofStrokes,
      List.length_replicate]
    omega
  · have positive :
        ofStrokes ('+' :: List.replicate value.natAbs '1') =
          (List.replicate value.natAbs '1').length := rfl
    simp only [strokes, negative, ↓reduceIte, positive,
      List.length_replicate]
    omega

/-- Everything a token has to remember, field by field. -/
def fields (claims : SignedClaims) (secret : String) : List (List Char) :=
  [claims.key.toList, claims.id.toList, claims.type.toList,
    claims.audience.toList, claims.subject.toList, claims.issuer.toList,
    strokes claims.issuedAt, strokes claims.expiresAt, secret.toList]

/-- A token is its marked fields. -/
def sign (claims : SignedClaims) (secret : String) : String :=
  String.ofList ((fields claims secret).flatMap encodeField)

/-- Decode a given number of fields that make up the whole text. -/
def decodeFields : Nat → List Char → Option (List (List Char))
  | 0, [] => some []
  | 0, _ => none
  | count + 1, text =>
      match decodeField text with
      | none => none
      | some (field, rest) => (decodeFields count rest).map (field :: ·)

theorem decodeFields_flatMap (texts : List (List Char)) :
    decodeFields texts.length (texts.flatMap encodeField) =
      some texts := by
  induction texts with
  | nil => rfl
  | cons text rest inductionHypothesis =>
      simp [decodeFields, decodeField_encodeField, inductionHypothesis]

/-- The claims and the secret behind a token. -/
def open? (token : String) : Option (SignedClaims × String) :=
  match decodeFields 9 token.toList with
  | some [key, id, type, audience, subject, issuer, issuedAt, expiresAt,
      secret] =>
      some ({
        key := String.ofList key
        id := String.ofList id
        sessionChannel := .token
        type := String.ofList type
        audience := String.ofList audience
        subject := String.ofList subject
        issuer := String.ofList issuer
        issuedAt := ofStrokes issuedAt
        expiresAt := ofStrokes expiresAt
      }, String.ofList secret)
  | _ => none

theorem open?_sign (claims : SignedClaims) (secret : String) :
    open? (sign claims secret) = some (claims, secret) := by
  have channel : claims.sessionChannel = .token := by
    cases claims.sessionChannel
    rfl
  have decoded :
      decodeFields 9 ((fields claims secret).flatMap encodeField) =
        some (fields claims secret) :=
    decodeFields_flatMap (fields claims secret)
  rw [open?, sign, String.toList_ofList, decoded]
  simp only [fields, String.ofList_toList, ofStrokes_strokes, ← channel]

/-- The service that signs in this way. -/
def service : JwtService where
  sign := sign
  verify checkedWith now token :=
    (open? token).bind fun opened =>
      if checkedWith = opened.2 ∧
          ((now / 1000 : Nat) : Int) < opened.1.expiresAt
      then some (.obj opened.1.payload)
      else none
  decode token := (open? token).map fun opened => .obj opened.1.payload
  parse _ := none

/-- The laws can be met. -/
theorem lawful : service.Lawful where
  decode_sign claims secret := by
    simp [service, open?_sign]
  verify_sign claims secret checkedWith now := by
    simp [service, open?_sign]
  sign_spaceless claims secret := by
    intro member
    simp only [service, sign, String.toList_ofList,
      List.mem_flatMap] at member
    obtain ⟨field, -, inField⟩ := member
    exact spaceless_encodeField field inField

end JwtService.Marked

end NestBackend
