import NestBackend.AuthSystem
import NestBackend.SignedTokens

namespace NestBackend

open JavaScript

/-!
# Soundness of the guard

The invariant of the store is about single entries: each was written by one of
the calls made so far, under the key that its own content spells.  The guard
builds the same key from claims it does not trust, so what it reads under that
key outranks the claims.
-/

/-! ## The invariant of single entries -/

/-- The content of a token entry is that of the payload it was issued for. -/
structure TokenContentOf
    (payload : BaseJwtPayload)
    (value : JsonObject) : Prop where
  key : value "key" = some (.str payload.key)
  id : value "id" = payload.id.map .str
  sessionChannel :
    value "sessionChannel" = some (.str payload.sessionChannel.text)
  type : value "type" = some (.str payload.type)

/-- Stored content belongs to one identity only. -/
theorem TokenContentOf.unique
    {first second : BaseJwtPayload}
    {value : JsonObject}
    (firstStored : TokenContentOf first value)
    (secondStored : TokenContentOf second value) :
    first.key = second.key ∧ first.id = second.id ∧
      first.type = second.type := by
  have sameKey := firstStored.key.symm.trans secondStored.key
  have sameId := firstStored.id.symm.trans secondStored.id
  have sameType := firstStored.type.symm.trans secondStored.type
  refine ⟨?_, ?_, ?_⟩
  · injection sameKey with sameKey
    injection sameKey
  · have strInjective : Function.Injective Json.str :=
      fun _ _ same => Json.str.inj same
    exact Option.map_injective strInjective sameId
  · injection sameType with sameType
    injection sameType

/-- Stored content belongs to every payload of that identity. -/
theorem TokenContentOf.of_same
    {first second : BaseJwtPayload}
    {value : JsonObject}
    (stored : TokenContentOf first value)
    (sameKey : first.key = second.key)
    (sameId : first.id = second.id)
    (sameType : first.type = second.type) :
    TokenContentOf second value where
  key := by rw [stored.key, sameKey]
  id := by rw [stored.id, sameId]
  sessionChannel := by
    rw [stored.sessionChannel,
      first.sessionChannel.eq_token.trans
        second.sessionChannel.eq_token.symm]
  type := by rw [stored.type, sameType]

/--
One of `operations` wrote the token entry, or the session entry under `key`
names the bound identifier that `key` ends with.
-/
inductive IssuedEntry
    (operations : List AuthOperation)
    (key : String)
    (value : JsonObject) : Prop where
  | token
      (operation : AuthOperation)
      (member : operation ∈ operations)
      (payload : BaseJwtPayload)
      (issued : operation.issuedPayload? = some payload)
      (keyShape :
        key =
          SessionService.token.storageKey JwtSession.token.text
            payload.sessionBoundId)
      (content : TokenContentOf payload value)
  | session
      (boundId : String)
      (keyShape :
        key =
          SessionService.session.storageKey JwtSession.token.text boundId)
      (names : value "key" = some (.str boundId))

/-- The content stored for a payload is that of the payload. -/
theorem BaseJwtPayload.tokenContentOf_content
    (payload : BaseJwtPayload)
    (tokenClass : TokenClass) :
    TokenContentOf payload (payload.content tokenClass) where
  key := rfl
  id := by
    unfold content properties Properties.stringify
    rfl
  sessionChannel := rfl
  type := rfl

/-- What the token writers write has the content of their payload. -/
theorem tokenContentOf_stored
    {payload : BaseJwtPayload}
    {content : Properties}
    (built : BaseAuthService.buildTokenPayload payload = .ok content)
    (now : Nat)
    (seconds : Option Int) :
    TokenContentOf payload
      ((SessionService.stamp now seconds).spread content).stringify := by
  obtain ⟨type, -, rfl⟩ := BaseAuthService.buildTokenPayload_ok built
  rw [BaseJwtPayload.stringify_stamp_spread]
  exact payload.tokenContentOf_content (tokenTypeMap type)

variable
  {env : CoreEnvironment}
  {jwt : JwtService}
  {operations : List AuthOperation}

/-- Every call writes issued entries only, if it reads issued entries only. -/
theorem AuthOperation.behaviour_satisfies
    {operation : AuthOperation}
    (member : operation ∈ operations) :
    (operation.behaviour env jwt).Satisfies
      (IssuedEntry operations) (IssuedEntry operations)
      (fun _ => True) := by
  apply operation.behaviour_contract
  · intro payload content issued now seconds built
    refine .token operation member payload issued ?_
      (tokenContentOf_stored built now seconds)
    rw [payload.sessionChannel.eq_token]
  · intro payload session issued _ earlier now seconds
    refine .session payload.sessionBoundId ?_ ?_
    · rw [payload.sessionChannel.eq_token]
    · rw [SessionService.stringify_stamp_spread (by decide) (by decide)]
      rfl
  · intro key sessionType mutator session value isMutate now seconds relied
      changed
    -- the session read names its bound identifier, and keeps its name
    cases relied with
    | token issuer issuerMember payload issued keyShape content =>
        exact (SessionService.storageKey_token_ne_session _ _ _ _
          keyShape.symm).elim
    | session boundId keyShape names =>
        refine .session boundId keyShape ?_
        rw [SessionService.stringify_stamp_spread (by decide) (by decide)]
        have kept :
            value "key" = JsonObject.properties session "key" :=
          AuthSessionService.Mutator.change_other changed
            (by decide) (by decide)
        simp [Properties.stringify, kept, JsonObject.properties, names]

/-- The calls that a schedule makes. -/
def invoked (actions : List (Action AuthOperation)) : List AuthOperation :=
  actions.filterMap fun action =>
    match action with
    | .invoke operation => some operation
    | _ => none

/-- Every entry of every reachable store was issued by a call. -/
theorem issuedEntry_of_run
    {now : Nat}
    {actions : List (Action AuthOperation)}
    {world : AuthWorld}
    (ran :
      (AuthWorld.initial now).run? (AuthOperation.behaviour env jwt)
        actions = some world) :
    world.backend.store.Conforms (IssuedEntry (invoked actions)) := by
  have initially :
      (AuthWorld.initial now).Abides (IssuedEntry (invoked actions))
        (fun _ => IssuedEntry (invoked actions)) (fun _ _ => True) := by
    constructor
    · intro key entry lookup
      cases lookup
    · intro thread member
      cases member
  have eventually := initially.run (fun good => good) ?_ ran
  · exact eventually.store
  · intro operation member
    apply AuthOperation.behaviour_satisfies
    exact List.mem_filterMap.mpr ⟨.invoke operation, member, rfl⟩

/-! ## What an admission establishes -/

/--
An admission of `request`, decided at `now` and `later` on `store`, is backed
by the entry under the key that the claims spell.
-/
structure SoundAdmission
    (env : CoreEnvironment)
    (jwt : JwtService)
    (params : GuardParams)
    (operations : List AuthOperation)
    (store : ExpiringStore String JsonObject)
    (now later : Nat)
    (presented : PresentedToken)
    (entry : Entry JsonObject)
    (admitted : Admission) : Prop where
  /-- A live token entry lies under the key built from the claims. -/
  tokenEntry :
    store.lookup (presented.storageKey .token) = some entry ∧
      entry.LiveAt now
  /-- The user is what that entry says, whatever the claims say. -/
  userStored : TokenContentOf admitted.user entry.value
  /-- One of the calls issued that entry for exactly this user. -/
  userIssued :
    ∃ operation ∈ operations, ∃ payload,
      operation.issuedPayload? = some payload ∧
        TokenContentOf payload entry.value
  /-- The class that the type of the user maps to is allowed. -/
  classAllowed :
    ∃ tokenClass,
      tokenTypeMap? admitted.user.type = some tokenClass ∧
        params.allowTokens.includes tokenClass = true ∧
        (tokenClass.needVerifyJwtSignature = true →
          ∃ instant,
            (instant = now ∨ instant = later) ∧
              (jwt.verify env.jwtSecret instant
                presented.jwtToken).isSome = true)
  /-- The session is the live entry under the same suffix. -/
  sessionEntry :
    store.read later (presented.storageKey .session) =
      some admitted.session
  /-- The session is bound to the user. -/
  sessionKey :
    admitted.session "key" = some (.str admitted.user.sessionBoundId)
  /-- The lifetime given to the last write has not elapsed. -/
  withinLifetime : now - entry.writtenAt ≤ entry.lifetime

/-- Stored content outranks the claims of the token. -/
theorem PresentedToken.tokenContent_of_stored
    (presented : PresentedToken)
    {payload : BaseJwtPayload}
    {content : JsonObject}
    (identified : payload.id.isSome = true)
    (stored : TokenContentOf payload content) :
    (presented.tokenContent content).key = some (.str payload.key) ∧
      (presented.tokenContent content).id = payload.id.map .str ∧
      (presented.tokenContent content).sessionChannel =
        some (.str payload.sessionChannel.text) ∧
      (presented.tokenContent content).type = some (.str payload.type) := by
  obtain ⟨id, idShape⟩ := Option.isSome_iff_exists.mp identified
  simp [PresentedToken.tokenContent, PayloadInstance.plainToInstance,
    stored.key, stored.id, stored.sessionChannel, stored.type, idShape]

/-- A validated user is determined by the stored content. -/
theorem tokenContentOf_user
    {presented : PresentedToken}
    {payload user : BaseJwtPayload}
    {content : JsonObject}
    (identified : payload.id.isSome = true)
    (stored : TokenContentOf payload content)
    (validated :
      (presented.tokenContent content).validate = some user) :
    TokenContentOf user content ∧ user.id.isSome = true ∧
      user.sessionBoundId = payload.sessionBoundId := by
  obtain ⟨-, -, keyShape, idShape, userIdentified, channelShape,
    typeShape, -⟩ := PayloadInstance.validate_eq_some validated
  obtain ⟨storedKey, storedId, storedChannel, storedType⟩ :=
    presented.tokenContent_of_stored identified stored
  have userStored : TokenContentOf user content := by
    constructor
    · rw [stored.key, ← storedKey, keyShape]
    · rw [stored.id, ← storedId, idShape]
    · rw [stored.sessionChannel, ← storedChannel, channelShape]
    · rw [stored.type, ← storedType, typeShape]
  obtain ⟨sameKey, sameId, -⟩ := userStored.unique stored
  refine ⟨userStored, userIdentified, ?_⟩
  rw [BaseJwtPayload.sessionBoundId, BaseJwtPayload.sessionBoundId,
    sameKey, sameId]

/-- The class of a validated user is the class of the presented token. -/
theorem PresentedToken.tokenTypeMap?_user
    {presented : PresentedToken}
    {content : JsonObject}
    {user : BaseJwtPayload}
    (mapped :
      tokenTypeMap? (templateText? (presented.rawPayload "type")) =
        some presented.tokenClass)
    (validated :
      (presented.tokenContent content).validate = some user) :
    tokenTypeMap? user.type = some presented.tokenClass := by
  obtain ⟨type, -, classShape⟩ := Option.map_eq_some_iff.mp mapped
  have admitted : presented.tokenClass.admits user.type = true := by
    obtain ⟨-, -, -, -, -, -, -, admitted⟩ :=
      PayloadInstance.validate_eq_some validated
    exact admitted
  rw [← classShape] at admitted ⊢
  exact TokenClass.tokenTypeMap?_of_admits admitted

/-- A guard that asks for verification got its payload from `verify`. -/
theorem JwtGuard.verify_isSome_of_asked
    {params : GuardParams}
    {jwtToken : String}
    {now : Nat}
    {payload : Json}
    (asked : params.needVerifyJwtSignature = true)
    (found : rawPayload? env jwt params jwtToken now = some payload) :
    (jwt.verify env.jwtSecret now jwtToken).isSome = true := by
  simp only [rawPayload?, asked, ↓reduceIte] at found
  cases verified : jwt.verify env.jwtSecret now jwtToken with
  | some verifiedPayload => rfl
  | none =>
      rw [verified] at found
      cases found

/--
On every reachable store, and for every request, an admission by the guard is
sound.  Nothing is assumed of the JWT service.
-/
theorem JwtGuard.canActivate_sound
    {start : Nat}
    {actions : List (Action AuthOperation)}
    {world : AuthWorld}
    (ran :
      (AuthWorld.initial start).run? (AuthOperation.behaviour env jwt)
        actions = some world)
    {params : GuardParams}
    {request : GuardRequest}
    {clock : Nat → Nat}
    {after : Backend String JsonObject}
    {admitted : Admission}
    (accepted :
      (canActivate env jwt params request).run clock world.backend =
        (after, .ok admitted)) :
    ∃ presented entry,
      present? env jwt params request (clock 0) = some presented ∧
        SoundAdmission env jwt params (invoked actions)
          world.backend.store (clock 0) (clock 1) presented entry
          admitted := by
  obtain ⟨-, admits⟩ := canActivate_run_ok env jwt params accepted
  obtain ⟨presented, content, presentedFound, tokenRead, checked,
    sessionRead, allowed, sameClass⟩ := admission_eq_some admits
  obtain ⟨validated, verified⟩ := user?_eq_some checked
  obtain ⟨entry, lookup, live, rfl⟩ :=
    ExpiringStore.read_eq_some.mp tokenRead
  have conforms := issuedEntry_of_run ran
  refine ⟨presented, entry, presentedFound, ?_⟩
  cases conforms _ entry lookup with
  | session boundId keyShape names =>
      exact (SessionService.storageKey_token_ne_session _ _ _ _
        keyShape).elim
  | token operation member payload issued keyShape content =>
      have identified := AuthOperation.issuedPayload?_id issued
      obtain ⟨userStored, userIdentified, sameBoundId⟩ :=
        tokenContentOf_user identified content validated
      obtain ⟨-, rawShape, -, mapped, included⟩ :=
        present?_eq_some presentedFound
      have sessionKeyShape :
          presented.storageKey .session =
            SessionService.session.storageKey JwtSession.token.text
              payload.sessionBoundId :=
        SessionService.storageKey_transfer keyShape _
      constructor
      · exact ⟨lookup, live⟩
      · exact userStored
      · exact ⟨operation, member, payload, issued, content⟩
      · refine ⟨presented.tokenClass, ?_, included, ?_⟩
        · exact presented.tokenTypeMap?_user mapped validated
        · intro demanded
          rcases verified demanded with asked | laterVerified
          · exact ⟨clock 0, Or.inl rfl,
              verify_isSome_of_asked asked rawShape⟩
          · exact ⟨clock 1, Or.inr rfl, laterVerified⟩
      · exact sessionRead
      · cases conforms.read sessionRead with
        | token _ _ other _ otherShape _ =>
            exact (SessionService.storageKey_token_ne_session _ _ _ _
              otherShape.symm).elim
        | session boundId boundShape names =>
            have sameSuffix : payload.sessionBoundId = boundId :=
              SessionService.storageKey_injective
                (sessionKeyShape.symm.trans boundShape)
            rw [names, sameBoundId, sameSuffix]
      · have elapsed : clock 0 < entry.writtenAt + entry.lifetime :=
          live
        omega

/-- An admission of a user who logged in five seconds ago. -/
theorem JwtGuard.canActivate_sound_login :
    ∃ world admitted,
      (AuthWorld.initial 0).run? Sample.behaviour
          [.invoke (Sample.login .user "first"), .advance 0, .advance 0,
            .advance 0] =
        some world ∧
        ∃ presented entry,
          SoundAdmission Sample.environment JwtService.Marked.service
            (plainParams .userJwtPayload)
            [Sample.login .user "first"] world.backend.store 5000 5000
            presented entry admitted := by
  have runs :
      ((AuthWorld.initial 0).run? Sample.behaviour
        [.invoke (Sample.login .user "first"), .advance 0, .advance 0,
          .advance 0]).any (fun world =>
        ((canActivate Sample.environment JwtService.Marked.service
          (plainParams .userJwtPayload)
          (.bearer (Sample.loginToken .user "first"))).run
            (fun _ => 5000) world.backend).2.isOk) = true := by
    decide +kernel
  obtain ⟨world, ran, accepts⟩ := (Option.any_eq_true _ _).mp runs
  cases outcome :
      (canActivate Sample.environment JwtService.Marked.service
        (plainParams .userJwtPayload)
        (.bearer (Sample.loginToken .user "first"))).run
          (fun _ => 5000) world.backend with
  | mk after result =>
      rw [outcome] at accepts
      cases result with
      | error failure => cases accepts
      | ok admitted =>
          obtain ⟨presented, entry, -, sound⟩ :=
            canActivate_sound ran outcome
          exact ⟨world, admitted, ran, presented, entry, sound⟩

end NestBackend
