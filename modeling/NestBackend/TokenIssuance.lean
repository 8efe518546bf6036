import NestBackend.IssuingRuns

namespace NestBackend

open JavaScript

/-!
# Which issued tokens the guard accepts

Issuing and checking are written independently.  They agree for the types whose
class admits them and demands no signature; for the guest type they agree only
on the path that signs with the configured secret; and always only as long as
the whole-second expiry claim of the token has not passed.
-/

/-! ## The two issuing operations -/

/-- An issuing operation, with the arguments that only it has. -/
inductive Issuing where
  | authenticate
      (secretGeneration : String)
      (allowMultipleTokens : Bool)
  | authenticateWithHardSecret

namespace Issuing

/-- The program of the operation. -/
def program
    (env : CoreEnvironment)
    (jwt : JwtService)
    (drawnId : String)
    (payload : BaseJwtPayload)
    (session : Properties)
    (expireTime : Int)
    (sessionLifeTime : Option Int) : Issuing → SessionProgram String
  | .authenticate secretGeneration allowMultipleTokens =>
      BaseAuthService.authenticate env jwt drawnId secretGeneration
        payload session expireTime sessionLifeTime allowMultipleTokens
  | .authenticateWithHardSecret =>
      BaseAuthService.authenticateWithHardSecret env jwt drawnId payload
        session expireTime sessionLifeTime

/-- The secret that the token is signed with. -/
def secret (env : CoreEnvironment) : Issuing → String
  | .authenticate secretGeneration _ => secretGeneration
  | .authenticateWithHardSecret => env.jwtSecret

/-- The instant at which the token is signed and its entry written. -/
def tokenWrittenAt (clock : Nat → Nat) : Issuing → Nat
  | .authenticate _ _ => clock 1
  | .authenticateWithHardSecret => clock 0

/-- The instant at which the session is written. -/
def sessionWrittenAt (clock : Nat → Nat) : Issuing → Nat
  | .authenticate _ _ => clock 2
  | .authenticateWithHardSecret => clock 1

/-- The operation was given the configured secret. -/
def hardSecret : Issuing → Bool
  | .authenticate _ _ => false
  | .authenticateWithHardSecret => true

/-- A random secret is not the configured one. -/
def SecretsDiffer (env : CoreEnvironment) (issuing : Issuing) : Prop :=
  issuing.hardSecret = false → env.jwtSecret ≠ issuing.secret env

/-- What a successful run leaves, whichever the operation. -/
theorem run_ok
    {env : CoreEnvironment}
    {jwt : JwtService}
    {drawnId : String}
    {payload : BaseJwtPayload}
    {session : Properties}
    {expireTime : Int}
    {sessionLifeTime : Option Int}
    {issuing : Issuing}
    {clock : Nat → Nat}
    {before after : Backend String JsonObject}
    {type : TokenType}
    {token : String}
    (typed : payload.type = type.text)
    (ran :
      (issuing.program env jwt drawnId payload session expireTime
        sessionLifeTime).run clock before =
        (after, .ok token)) :
    ∃ earlier allowMultipleTokens,
      BaseAuthService.tokenIDs session = .ok earlier ∧
        token =
          jwt.sign
            (BaseAuthService.signedClaims env
              (BaseAuthService.ensureId drawnId payload) expireTime
              (issuing.tokenWrittenAt clock))
            (issuing.secret env) ∧
        after.store =
          BaseAuthService.writeBoth
            (BaseAuthService.ensureId drawnId payload) type session
            earlier expireTime
            (BaseAuthService.sessionExpiry sessionLifeTime expireTime)
            (issuing.tokenWrittenAt clock)
            (issuing.sessionWrittenAt clock) before.store ∧
        (after.chains = before.chains ∨
          after.chains =
            before.chains ++
              BaseAuthService.startedChains
                (BaseAuthService.ensureId drawnId payload)
                allowMultipleTokens
                (BaseAuthService.existingKeys
                  (BaseAuthService.ensureId drawnId payload)
                  before.store (clock 0))) := by
  cases issuing with
  | authenticate secretGeneration allowMultipleTokens =>
      obtain ⟨earlier, listed, tokenShape, rfl⟩ :=
        BaseAuthService.authenticate_run_ok typed ran
      exact ⟨earlier, allowMultipleTokens, listed, tokenShape, rfl,
        Or.inr rfl⟩
  | authenticateWithHardSecret =>
      obtain ⟨earlier, listed, tokenShape, rfl⟩ :=
        BaseAuthService.authenticateWithHardSecret_run_ok typed ran
      exact ⟨earlier, false, listed, tokenShape, rfl, Or.inl rfl⟩

end Issuing

/-! ## Acceptance -/

/-- A stored session is a given one, bound to an identifier. -/
structure ExtendsSession
    (session : Properties)
    (boundId id : String)
    (stored : JsonObject) : Prop where
  key : stored "key" = some (.str boundId)
  tokenIDs :
    ∃ earlier,
      BaseAuthService.tokenIDs session = .ok earlier ∧
        stored "tokenIDs" = some (.arr (earlier ++ [.str id]))
  others :
    ∀ name value,
      name ≠ "key" →
      name ≠ "tokenIDs" →
      session name = some value →
      stored name = value

/-- What the issuing operations write extends the session they were given. -/
theorem BaseAuthService.extendsSession_stored
    {session : Properties}
    {payload : BaseJwtPayload}
    {id : String}
    {earlier : List Json}
    (identified : payload.id = some id)
    (listed : tokenIDs session = .ok earlier)
    (now : Nat)
    (seconds : Option Int) :
    ExtendsSession session payload.sessionBoundId id
      ((SessionService.stamp now seconds).spread
        (boundSession session payload earlier)).stringify where
  key := by
    rw [SessionService.stringify_stamp_spread (by decide) (by decide)]
    rfl
  tokenIDs := by
    refine ⟨earlier, listed, ?_⟩
    rw [SessionService.stringify_stamp_spread (by decide) (by decide)]
    simp [Properties.stringify, boundSession, identified]
  others := by
    intro name value notKey notTokenIDs own
    have kept : boundSession session payload earlier name = some value := by
      unfold boundSession
      rw [Properties.set_other notTokenIDs, Properties.set_other notKey]
      exact own
    simp [Properties.stringify, Properties.spread, kept]

/-- The guard admits the user and the session that were issued. -/
structure AdmitsIssued
    (payload : BaseJwtPayload)
    (drawnId : String)
    (session : Properties)
    (admitted : Admission) : Prop where
  key : admitted.user.key = payload.key
  id : admitted.user.id = some drawnId
  type : admitted.user.type = payload.type
  sessionChannel : admitted.user.sessionChannel = payload.sessionChannel
  session :
    ExtendsSession session (payload.key ++ ":" ++ drawnId) drawnId
      admitted.session

/--
The condition: a type that the guard takes without a signature, or a guest
token signed with the configured secret, and a token that has not expired by
its own claim, which is counted in whole seconds from the second of issue.
-/
def Issuing.Accepted
    (issuing : Issuing)
    (type : TokenType)
    (expireTime : Int)
    (clock guardClock : Nat → Nat) : Prop :=
  (guardClock 0 : Int) ≤
      ((issuing.tokenWrittenAt clock / 1000 : Nat) + expireTime) * 1000 ∧
    (type = .user ∨ type = .octoWeb ∨
      type = .octoGuest ∧ issuing.hardSecret = true ∧
        ((guardClock 1 / 1000 : Nat) : Int) <
          (issuing.tokenWrittenAt clock / 1000 : Nat) + expireTime)

/-- The guard's own condition comes down to this one. -/
theorem acceptsSigned_iff
    {env : CoreEnvironment}
    {issuing : Issuing}
    (secretsDiffer : issuing.SecretsDiffer env)
    {claims : SignedClaims}
    {type : TokenType}
    {expireTime : Int}
    {clock guardClock : Nat → Nat}
    (typed : claims.type = type.text)
    (expiry :
      claims.expiresAt =
        (issuing.tokenWrittenAt clock / 1000 : Nat) + expireTime) :
    JwtGuard.AcceptsSigned env claims (issuing.secret env)
        (tokenTypeMap type) (guardClock 0) (guardClock 1) ↔
      issuing.Accepted type expireTime clock guardClock := by
  have sameSecret :
      env.jwtSecret = issuing.secret env ↔ issuing.hardSecret = true := by
    cases issuing with
    | authenticate secretGeneration allowMultipleTokens =>
        constructor
        · intro same
          exact (secretsDiffer rfl same).elim
        · intro hard
          cases hard
    | authenticateWithHardSecret =>
        exact ⟨fun _ => rfl, fun _ => rfl⟩
  unfold JwtGuard.AcceptsSigned Issuing.Accepted
  rw [typed, expiry, sameSecret]
  apply and_congr_right
  intro _
  cases type with
  | user =>
      simp [tokenTypeMap, TokenClass.needVerifyJwtSignature,
        TokenClass.admits, TokenClass.admittedTypes]
  | octoWeb =>
      simp [tokenTypeMap, TokenClass.needVerifyJwtSignature,
        TokenClass.admits, TokenClass.admittedTypes]
  | octoGuest =>
      simp [tokenTypeMap, TokenClass.needVerifyJwtSignature,
        TokenClass.admits, TokenClass.admittedTypes]
  | onboardingEmailOtp =>
      have notAdmitted :
          (tokenTypeMap .onboardingEmailOtp).admits
            TokenType.onboardingEmailOtp.text = false := by decide
      simp [notAdmitted]
  | onboardingEmailOtpVerified =>
      have notAdmitted :
          (tokenTypeMap .onboardingEmailOtpVerified).admits
            TokenType.onboardingEmailOtpVerified.text = false := by
        decide
      simp [notAdmitted]

section Issued

variable
  {env : CoreEnvironment}
  {jwt : JwtService}
  {issuing : Issuing}
  {drawnId : String}
  {payload : BaseJwtPayload}
  {type : TokenType}
  {session : Properties}
  {expireTime : Int}
  {sessionLifeTime : Option Int}
  {clock guardClock : Nat → Nat}
  {before after current : Backend String JsonObject}
  {token : String}

/-- Neither older nor newly started deletions touch the two entries. -/
theorem Issuing.chains_unmentioned
    (typed : payload.type = type.text)
    (fresh :
      before.store.read (clock 0)
        (BaseAuthService.tokenKey
          (BaseAuthService.ensureId drawnId payload)) = none)
    (unmentioned :
      ∀ chain ∈ before.chains,
        BaseAuthService.tokenKey
            (BaseAuthService.ensureId drawnId payload) ∉ chain ∧
          BaseAuthService.sessionKey
            (BaseAuthService.ensureId drawnId payload) ∉ chain)
    (issued :
      (issuing.program env jwt drawnId payload session expireTime
        sessionLifeTime).run clock before =
        (after, .ok token)) :
    ∀ chain ∈ after.chains,
      BaseAuthService.tokenKey
          (BaseAuthService.ensureId drawnId payload) ∉ chain ∧
        BaseAuthService.sessionKey
          (BaseAuthService.ensureId drawnId payload) ∉ chain := by
  obtain ⟨-, allowMultipleTokens, -, -, -, chains⟩ :=
    Issuing.run_ok typed issued
  intro chain member
  rcases chains with kept | started
  · rw [kept] at member
    exact unmentioned chain member
  · rw [started] at member
    rcases List.mem_append.mp member with old | new
    · exact unmentioned chain old
    · exact BaseAuthService.startedChains_unmentioned fresh new

/-- The guard takes an issued token from its two entries under `Accepted`. -/
theorem Issuing.admits_iff
    (lawful : jwt.Lawful)
    (secretsDiffer : issuing.SecretsDiffer env)
    (typed : payload.type = type.text)
    (iatNumber : PayloadInstance.optionalNumber payload.iat = true)
    (expNumber : PayloadInstance.optionalNumber payload.exp = true)
    {earlier : List Json}
    (listed : BaseAuthService.tokenIDs session = .ok earlier)
    {request : GuardRequest}
    (presents :
      request.jwtToken? =
        some
          (jwt.sign
            (BaseAuthService.signedClaims env
              { payload with id := some drawnId } expireTime
              (issuing.tokenWrittenAt clock))
            (issuing.secret env)))
    (tokenRead :
      current.store.read (guardClock 0)
          (BaseAuthService.tokenKey { payload with id := some drawnId }) =
        some
          (BaseJwtPayload.content { payload with id := some drawnId }
            (tokenTypeMap type)))
    {instant : Nat}
    {seconds : Option Int}
    (sessionRead :
      current.store.read (guardClock 1)
          (BaseAuthService.sessionKey { payload with id := some drawnId }) =
        some
          ((SessionService.stamp instant seconds).spread
            (BaseAuthService.boundSession session
              { payload with id := some drawnId } earlier)).stringify) :
    (∃ admitted,
      (JwtGuard.canActivate env jwt
          (JwtGuard.plainParams (tokenTypeMap type)) request).run
          guardClock current =
        (current, .ok admitted) ∧
        AdmitsIssued payload drawnId session admitted) ↔
      issuing.Accepted type expireTime clock guardClock := by
  have typedId :
      BaseJwtPayload.type { payload with id := some drawnId } =
        type.text :=
    typed
  have sameId :
      BaseJwtPayload.id { payload with id := some drawnId } =
        some drawnId :=
    rfl
  rw [BaseAuthService.canActivate_issued_run lawful typedId rfl iatNumber
    expNumber presents tokenRead sessionRead]
  have sameCondition :
      JwtGuard.AcceptsSigned env
          (BaseAuthService.signedClaims env
            { payload with id := some drawnId } expireTime
            (issuing.tokenWrittenAt clock))
          (issuing.secret env) (tokenTypeMap type) (guardClock 0)
          (guardClock 1) ↔
        issuing.Accepted type expireTime clock guardClock :=
    acceptsSigned_iff secretsDiffer typed rfl
  rw [← sameCondition]
  constructor
  · rintro ⟨admitted, decided, -⟩
    by_contra refused
    rw [if_neg refused] at decided
    cases decided
  · intro accepted
    rw [if_pos accepted]
    have extended :=
      BaseAuthService.extendsSession_stored sameId listed instant seconds
    exact ⟨_, rfl, rfl, rfl, rfl, rfl, extended⟩

end Issued

/--
A token that was just issued under a fresh identifier, whatever the store held
before, is accepted by the guard for its class exactly under `Accepted`: while
both entries live, after any part of the deletions that the issuing started,
and after anything else that left the two entries alone.  An accepted request
carries the issued user and the given session.
-/
theorem Issuing.accepted_iff
    {env : CoreEnvironment}
    {jwt : JwtService}
    (lawful : jwt.Lawful)
    {issuing : Issuing}
    (secretsDiffer : issuing.SecretsDiffer env)
    {drawnId : String}
    {payload : BaseJwtPayload}
    {type : TokenType}
    (typed : payload.type = type.text)
    (missingId : payload.id = none)
    (iatNumber : PayloadInstance.optionalNumber payload.iat = true)
    (expNumber : PayloadInstance.optionalNumber payload.exp = true)
    {session : Properties}
    {expireTime : Int}
    {sessionLifeTime : Option Int}
    {clock : Nat → Nat}
    {before after : Backend String JsonObject}
    (fresh :
      before.store.read (clock 0)
        (BaseAuthService.tokenKey
          (BaseAuthService.ensureId drawnId payload)) = none)
    (unmentioned :
      ∀ chain ∈ before.chains,
        BaseAuthService.tokenKey
            (BaseAuthService.ensureId drawnId payload) ∉ chain ∧
          BaseAuthService.sessionKey
            (BaseAuthService.ensureId drawnId payload) ∉ chain)
    {token : String}
    (issued :
      (issuing.program env jwt drawnId payload session expireTime
        sessionLifeTime).run clock before =
        (after, .ok token))
    {settled current : Backend String JsonObject}
    (settles : after.Settles settled)
    (undisturbed :
      current.store.lookup
            (BaseAuthService.tokenKey
              (BaseAuthService.ensureId drawnId payload)) =
          settled.store.lookup
            (BaseAuthService.tokenKey
              (BaseAuthService.ensureId drawnId payload)) ∧
        current.store.lookup
            (BaseAuthService.sessionKey
              (BaseAuthService.ensureId drawnId payload)) =
          settled.store.lookup
            (BaseAuthService.sessionKey
              (BaseAuthService.ensureId drawnId payload)))
    {request : GuardRequest}
    (presents : request.jwtToken? = some token)
    {guardClock : Nat → Nat}
    (tokenLive :
      guardClock 0 <
        issuing.tokenWrittenAt clock + expireTime.toNat * 1000)
    (sessionLive :
      guardClock 1 <
        issuing.sessionWrittenAt clock +
          (BaseAuthService.sessionExpiry sessionLifeTime
            expireTime).toNat * 1000) :
    (∃ admitted,
      (JwtGuard.canActivate env jwt
          (JwtGuard.plainParams (tokenTypeMap type)) request).run
          guardClock current =
        (current, .ok admitted) ∧
        AdmitsIssued payload drawnId session admitted) ↔
      issuing.Accepted type expireTime clock guardClock := by
  have untouched :=
    Issuing.chains_unmentioned typed fresh unmentioned issued
  have identified := BaseAuthService.ensureId_of_none missingId drawnId
  obtain ⟨earlier, -, listed, tokenShape, stored, -⟩ :=
    Issuing.run_ok typed issued
  rw [identified] at untouched undisturbed tokenShape stored
  have tokenEntry :
      current.store.lookup
          (BaseAuthService.tokenKey { payload with id := some drawnId }) =
        some {
          value :=
            BaseJwtPayload.content { payload with id := some drawnId }
              (tokenTypeMap type)
          writtenAt := issuing.tokenWrittenAt clock
          lifetime := expireTime.toNat * 1000
        } := by
    rw [undisturbed.1,
      settles.lookup_other (fun chain member =>
        (untouched chain member).1),
      stored, BaseAuthService.writeBoth_token]
  have sessionEntry :
      current.store.lookup
          (BaseAuthService.sessionKey
            { payload with id := some drawnId }) =
        some {
          value :=
            ((SessionService.stamp (issuing.sessionWrittenAt clock)
              (some (BaseAuthService.sessionExpiry sessionLifeTime
                expireTime))).spread
                (BaseAuthService.boundSession session
                  { payload with id := some drawnId }
                  earlier)).stringify
          writtenAt := issuing.sessionWrittenAt clock
          lifetime :=
            (BaseAuthService.sessionExpiry sessionLifeTime
              expireTime).toNat * 1000
        } := by
    rw [undisturbed.2,
      settles.lookup_other (fun chain member =>
        (untouched chain member).2),
      stored, BaseAuthService.writeBoth_session]
  exact
    Issuing.admits_iff lawful secretsDiffer typed iatNumber expNumber listed
      (tokenShape ▸ presents)
      (ExpiringStore.read_eq_some.mpr ⟨_, tokenEntry, tokenLive, rfl⟩)
      (ExpiringStore.read_eq_some.mpr ⟨_, sessionEntry, sessionLive, rfl⟩)

/-- A user who logged in five seconds ago. -/
theorem Issuing.accepted_iff_login :
    ∃ after admitted,
      (Issuing.program Sample.environment JwtService.Marked.service
          "first" (Sample.payload .user) Sample.session 10 none
          (.authenticate "random" false)).run (fun _ => 0) ⟨∅, []⟩ =
        (after, .ok (Sample.loginToken .user "first")) ∧
        (JwtGuard.canActivate Sample.environment
            JwtService.Marked.service
            (JwtGuard.plainParams .userJwtPayload)
            (.bearer (Sample.loginToken .user "first"))).run
            (fun _ => 5000) after =
          (after, .ok admitted) ∧
        AdmitsIssued (Sample.payload .user) "first" Sample.session
          admitted := by
  have outcome :
      ((Issuing.program Sample.environment JwtService.Marked.service
          "first" (Sample.payload .user) Sample.session 10 none
          (.authenticate "random" false)).run
            (fun _ => 0) ⟨∅, []⟩).2.toOption =
        some (Sample.loginToken .user "first") := by
    decide +kernel
  cases issued :
      (Issuing.program Sample.environment JwtService.Marked.service
        "first" (Sample.payload .user) Sample.session 10 none
        (.authenticate "random" false)).run (fun _ => 0) ⟨∅, []⟩ with
  | mk after result =>
      rw [issued] at outcome
      cases result with
      | error failure => cases outcome
      | ok token =>
          have tokenShape : token = Sample.loginToken .user "first" :=
            Option.some.inj outcome
          subst tokenShape
          have typed :
              (Sample.payload .user).type = TokenType.user.text := rfl
          have admits :
              ∃ admitted,
                (JwtGuard.canActivate Sample.environment
                    JwtService.Marked.service
                    (JwtGuard.plainParams (tokenTypeMap .user))
                    (.bearer (Sample.loginToken .user "first"))).run
                    (fun _ => 5000) after =
                  (after, .ok admitted) ∧
                  AdmitsIssued (Sample.payload .user) "first"
                    Sample.session admitted := by
            refine (Issuing.accepted_iff JwtService.Marked.lawful
              (fun _ => by decide) typed rfl rfl rfl
              (ExpiringStore.read_of_lookup_none rfl 0)
              (fun chain member => (List.not_mem_nil member).elim)
              issued (.refl after) ⟨rfl, rfl⟩
              (GuardRequest.jwtToken?_bearer
                (JwtService.Marked.lawful.sign_spaceless _ _))
              ?_ ?_).mpr ⟨?_, Or.inl rfl⟩
            · decide
            · decide
            · decide
          obtain ⟨admitted, decided, admitsIssued⟩ := admits
          exact ⟨after, admitted, rfl, decided, admitsIssued⟩

/--
A guest who logged in through `authenticate` five seconds ago: both entries
live, and the guard for the guest class turns the token down.
-/
theorem Issuing.guest_login_rejected :
    let issued :=
      (Issuing.program Sample.environment JwtService.Marked.service
        "first" (Sample.payload .octoGuest) Sample.session 10 none
        (.authenticate "random" false)).run (fun _ => 0) ⟨∅, []⟩
    issued.2.toOption = some (Sample.loginToken .octoGuest "first") ∧
      (issued.1.store.read 5000
        (SessionService.token.storageKey JwtSession.token.text
          "alice:first")).isSome = true ∧
      (issued.1.store.read 5000
        (SessionService.session.storageKey JwtSession.token.text
          "alice:first")).isSome = true ∧
      ((JwtGuard.canActivate Sample.environment
          JwtService.Marked.service
          (JwtGuard.plainParams (tokenTypeMap .octoGuest))
          (.bearer (Sample.loginToken .octoGuest "first"))).run
          (fun _ => 5000) issued.1).2.isOk =
        false := by
  decide +kernel

end NestBackend
