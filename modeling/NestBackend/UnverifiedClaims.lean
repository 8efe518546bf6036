import NestBackend.AuthSystem
import NestBackend.SignedTokens

namespace NestBackend

open JavaScript

/-!
# Claims that reach the user

Two requests that name the same entry meet the same stored content, but what
the content leaves open is filled from the claims.  Only `iat` and `exp` can be
left open, and an issued entry does leave them open when the payload did not
carry them.
-/

/-- Two tokens make the same claims about type, channel, key and identifier. -/
structure SameIdentity (first second : PresentedToken) : Prop where
  type : first.rawPayload "type" = second.rawPayload "type"
  sessionChannel :
    first.rawPayload "sessionChannel" = second.rawPayload "sessionChannel"
  key : first.rawPayload "key" = second.rawPayload "key"
  id : first.rawPayload "id" = second.rawPayload "id"

/-- The content settles a property, or the claims agree about it. -/
def Settled
    (content : JsonObject)
    (first second : PresentedToken)
    (name : String) : Prop :=
  (content name).isSome = true ∨
    first.rawPayload name = second.rawPayload name

/-- Overlaying agrees exactly where the property is settled. -/
theorem settled_iff
    {content : JsonObject}
    {first second : PresentedToken}
    {name : String} :
    Settled content first second name ↔
      (content name).or (first.rawPayload name) =
        (content name).or (second.rawPayload name) := by
  unfold Settled
  cases content name with
  | none => simp
  | some value => simp

namespace SameIdentity

variable {first second : PresentedToken}

/-- Same types map to the same class. -/
theorem tokenClass
    (same : SameIdentity first second)
    (firstMapped :
      tokenTypeMap? (templateText? (first.rawPayload "type")) =
        some first.tokenClass)
    (secondMapped :
      tokenTypeMap? (templateText? (second.rawPayload "type")) =
        some second.tokenClass) :
    first.tokenClass = second.tokenClass := by
  rw [same.type, secondMapped] at firstMapped
  exact (Option.some.inj firstMapped).symm

/-- Tokens that name the same entry look it up under the same keys. -/
theorem storageKey
    (same : SameIdentity first second)
    (service : SessionService) :
    first.storageKey service = second.storageKey service := by
  simp only [PresentedToken.storageKey, PresentedToken.sessionChannel,
    PresentedToken.sessionBoundId, PresentedToken.userFromToken,
    PayloadInstance.plainToInstanceWithDefaults,
    PayloadInstance.sessionBoundId, same.sessionChannel, same.key,
    same.id]

/-- The users agree exactly when `iat` and `exp` are settled. -/
theorem user_eq_iff
    (same : SameIdentity first second)
    {content : JsonObject}
    {firstUser secondUser : BaseJwtPayload}
    (firstValidated :
      (first.tokenContent content).validate = some firstUser)
    (secondValidated :
      (second.tokenContent content).validate = some secondUser) :
    firstUser = secondUser ↔
      Settled content first second "iat" ∧
        Settled content first second "exp" := by
  obtain ⟨firstIat, firstExp, firstKey, firstId, firstSome, firstChannel,
    firstType, -⟩ := PayloadInstance.validate_eq_some firstValidated
  obtain ⟨secondIat, secondExp, secondKey, secondId, secondSome,
    secondChannel, secondType, -⟩ :=
    PayloadInstance.validate_eq_some secondValidated
  have overlaid
      (name : String)
      (agree : first.rawPayload name = second.rawPayload name) :
      (content name).or (first.rawPayload name) =
        (content name).or (second.rawPayload name) := by
    rw [agree]
  rw [settled_iff, settled_iff]
  constructor
  · intro sameUser
    subst sameUser
    exact ⟨firstIat.trans secondIat.symm, firstExp.trans secondExp.symm⟩
  · rintro ⟨sameIat, sameExp⟩
    have iat : firstUser.iat = secondUser.iat :=
      firstIat.symm.trans (sameIat.trans secondIat)
    have exp : firstUser.exp = secondUser.exp :=
      firstExp.symm.trans (sameExp.trans secondExp)
    have key := firstKey.symm.trans
      ((overlaid "key" same.key).trans secondKey)
    have id := firstId.symm.trans
      ((overlaid "id" same.id).trans secondId)
    have type := firstType.symm.trans
      ((overlaid "type" same.type).trans secondType)
    have channel :
        firstUser.sessionChannel = secondUser.sessionChannel :=
      firstUser.sessionChannel.eq_token.trans
        secondUser.sessionChannel.eq_token.symm
    cases firstUser
    cases secondUser
    simp_all [Option.map_inj_right]

end SameIdentity

/-- What an accepted request was decided from, once its token is known. -/
theorem JwtGuard.canActivate_ok
    {env : CoreEnvironment}
    {jwt : JwtService}
    {params : GuardParams}
    {request : GuardRequest}
    {clock : Nat → Nat}
    {backend : Backend String JsonObject}
    {admitted : Admission}
    (accepted :
      (canActivate env jwt params request).run clock backend =
        (backend, .ok admitted))
    {presented : PresentedToken}
    (found :
      present? env jwt params request (clock 0) = some presented) :
    ∃ content,
      backend.store.read (clock 0) (presented.storageKey .token) =
          some content ∧
        user? env jwt params presented content (clock 1) =
          some admitted.user ∧
        admitted.userClass = presented.tokenClass := by
  obtain ⟨-, admits⟩ := canActivate_run_ok env jwt params accepted
  obtain ⟨chosen, content, chosenFound, tokenRead, checked, -, -,
    sameClass⟩ := admission_eq_some admits
  have samePresented : chosen = presented :=
    Option.some.inj (chosenFound.symm.trans found)
  subst samePresented
  exact ⟨content, tokenRead, checked, sameClass⟩

/--
Two requests with the same identity, both accepted at the same instants on the
same store, yield the same user, and the same verdict of the refresh window at
every time, exactly when the stored entry settles `iat` and `exp` or the two
tokens agree about them.  It does not matter whether signatures were asked for.
-/
theorem JwtGuard.canActivate_noninterference
    {env : CoreEnvironment}
    {jwt : JwtService}
    {params : GuardParams}
    {firstRequest secondRequest : GuardRequest}
    {clock : Nat → Nat}
    {backend : Backend String JsonObject}
    {firstAdmitted secondAdmitted : Admission}
    (firstAccepted :
      (canActivate env jwt params firstRequest).run clock backend =
        (backend, .ok firstAdmitted))
    (secondAccepted :
      (canActivate env jwt params secondRequest).run clock backend =
        (backend, .ok secondAdmitted))
    {first second : PresentedToken}
    (firstPresented :
      present? env jwt params firstRequest (clock 0) = some first)
    (secondPresented :
      present? env jwt params secondRequest (clock 0) = some second)
    (same : SameIdentity first second) :
    ∃ content,
      backend.store.read (clock 0) (first.storageKey .token) =
          some content ∧
        ((firstAdmitted.user = secondAdmitted.user ∧
            firstAdmitted.userClass = secondAdmitted.userClass ∧
            ∀ now,
              BaseAuthService.outsideRefreshWindow env firstAdmitted.user
                  now =
                BaseAuthService.outsideRefreshWindow env
                  secondAdmitted.user now) ↔
          Settled content first second "iat" ∧
            Settled content first second "exp") := by
  obtain ⟨firstContent, firstRead, firstChecked, firstClass⟩ :=
    canActivate_ok firstAccepted firstPresented
  obtain ⟨secondContent, secondRead, secondChecked, secondClass⟩ :=
    canActivate_ok secondAccepted secondPresented
  -- both look up the same entry, so both overlay the same content
  rw [← same.storageKey .token, firstRead] at secondRead
  cases secondRead
  have agree :=
    same.user_eq_iff (user?_eq_some firstChecked).1
      (user?_eq_some secondChecked).1
  obtain ⟨-, -, -, firstMapped, -⟩ := present?_eq_some firstPresented
  obtain ⟨-, -, -, secondMapped, -⟩ := present?_eq_some secondPresented
  have sameClass := same.tokenClass firstMapped secondMapped
  refine ⟨firstContent, firstRead, ?_⟩
  rw [← agree]
  constructor
  · intro everything
    exact everything.1
  · intro sameUser
    refine ⟨sameUser, ?_, ?_⟩
    · rw [firstClass, secondClass, sameClass]
    · intro now
      rw [sameUser]

/-- A guard, eight seconds after a login, on a token with a given `exp`. -/
def Sample.guard (secret : String) (expiresAt : Int) :
    SessionProgram Admission :=
  JwtGuard.canActivate environment JwtService.Marked.service
    (JwtGuard.plainParams .userJwtPayload)
    (.bearer (JwtService.Marked.sign (claims .user "first" expiresAt)
      secret))

/-- The store after a login in the first second. -/
def Sample.storeAfterLogin : Option (Backend String JsonObject) :=
  ((AuthWorld.initial 0).run? behaviour
    [.invoke (login .user "first"), .advance 0, .advance 0,
      .advance 0]).map World.backend

/-- A token with the claims of the genuine one and another signature. -/
theorem JwtGuard.canActivate_noninterference_resigned :
    ∃ backend firstAdmitted secondAdmitted,
      Sample.storeAfterLogin = some backend ∧
        (Sample.guard "random" 10).run (fun _ => 8000) backend =
          (backend, .ok firstAdmitted) ∧
        (Sample.guard "forged" 10).run (fun _ => 8000) backend =
          (backend, .ok secondAdmitted) ∧
        firstAdmitted.user = secondAdmitted.user := by
  have runs :
      Sample.storeAfterLogin.any (fun backend =>
        ((Sample.guard "random" 10).run
            (fun _ => 8000) backend).2.isOk &&
          ((Sample.guard "forged" 10).run
            (fun _ => 8000) backend).2.isOk) = true := by
    decide +kernel
  obtain ⟨backend, stored, accepts⟩ := (Option.any_eq_true _ _).mp runs
  obtain ⟨firstAccepts, secondAccepts⟩ := Bool.and_eq_true_iff.mp accepts
  obtain ⟨firstAdmitted, firstAccepted⟩ :=
    canActivate_run_isOk _ _ _ firstAccepts
  obtain ⟨secondAdmitted, secondAccepted⟩ :=
    canActivate_run_isOk _ _ _ secondAccepts
  have lawful := JwtService.Marked.lawful
  have presented (secret : String) :
      present? Sample.environment JwtService.Marked.service
          (plainParams .userJwtPayload)
          (.bearer (JwtService.Marked.sign (Sample.claims .user "first" 10)
            secret)) 8000 =
        some {
          jwtToken :=
            JwtService.Marked.sign (Sample.claims .user "first" 10) secret
          rawPayload := (Sample.claims .user "first" 10).payload
          tokenClass := .userJwtPayload
        } :=
    present?_signed lawful
      (GuardRequest.jwtToken?_bearer (lawful.sign_spaceless _ _)) rfl
  obtain ⟨content, -, agree⟩ :=
    canActivate_noninterference firstAccepted secondAccepted
      (presented "random") (presented "forged") ⟨rfl, rfl, rfl, rfl⟩
  exact ⟨backend, firstAdmitted, secondAdmitted, stored, firstAccepted,
    secondAccepted, (agree.mpr ⟨Or.inr rfl, Or.inr rfl⟩).1⟩

/--
The genuine token and one that a stranger signed with a later expiry: both are
accepted, the users differ, and the refresh window is open for one only.
-/
theorem JwtGuard.forged_expiry_reaches_user :
    (Sample.storeAfterLogin.map fun backend =>
      [("random", 10), ("forged", 12)].map fun (secret, expiresAt) =>
        (((Sample.guard secret expiresAt).run
          (fun _ => 8000) backend).2.toOption.map fun admitted =>
            (templateText? admitted.user.exp,
              BaseAuthService.outsideRefreshWindow Sample.environment
                admitted.user 8000))) =
      some [some ("10", false), some ("12", true)] := by
  decide +kernel

end NestBackend
