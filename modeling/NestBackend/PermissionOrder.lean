import NestBackend.LoginRevocation
import NestBackend.SeenProperty
import NestBackend.SignContractFlow

namespace NestBackend

open JavaScript

/-!
# The requests of `AuthController`

`OTP_VERIFIED` is what one request grants and another one requires, and every
grant reads the session and writes it back without a lock.  Nevertheless no
interleaving of these requests loses the permission again or grants what comes
after it without it: the one request adds it in any case, and the other goes on
only after it has seen it.
-/

/-! ## `AuthController` -/

/--
A request to the controller.  The identifier and the secret of a login are
drawn at random.
-/
inductive AuthRequest where
  | login (drawnId secretGeneration userId : String)
  | logout (http : GuardRequest)
  | exampleAddPermissionFlow (http : GuardRequest)
  | exampleAddSessionLocalFlow (http : GuardRequest)

namespace AuthController

/-- The parameters of the guard of `logout`. -/
def logoutGuard : GuardParams where
  allowTokens := .anyOf [.userJwtPayload]
  allowSessions := some (.anyOf [.userSession])
  needVerifyJwtSignature := false

/-- The parameters of the guard of the two examples. -/
def exampleGuard : GuardParams where
  allowTokens := .one .userJwtPayload
  allowSessions := some (.one .userSession)
  needVerifyJwtSignature := false

/-- `PermissionGuard` of a handler whose class has none. -/
def permissionGuard
    (requiredPermissions providePermissions :
      Option (List UserPermission)) : GuardMetadata where
  permission := some { providePermissions, requiredPermissions }
  flowPermission := none

/-- A handler without a permission guard. -/
def unguarded : GuardMetadata where
  permission := none
  flowPermission := none

/-- A request that the guard and both interceptors stand around. -/
def guarded
    (env : CoreEnvironment)
    (jwt : JwtService)
    (params : GuardParams)
    (metadata : GuardMetadata)
    (http : GuardRequest)
    (handle : BaseJwtPayload → SessionProgram Unit) :
    SessionProgram (Option ResponseDTO) := do
  let admission ← JwtGuard.canActivate env jwt params http
  PermissionInterceptor.intercept metadata admission.session
    (BaseResponseInterceptor.intercept (handle admission.user))

end AuthController

namespace AuthRequest

/-- The metadata of a handler. -/
def metadata : AuthRequest → GuardMetadata
  | .login _ _ _ => AuthController.unguarded
  | .logout _ => AuthController.unguarded
  | .exampleAddPermissionFlow _ =>
      AuthController.permissionGuard none (some [.otpVerified])
  | .exampleAddSessionLocalFlow _ =>
      AuthController.permissionGuard (some [.otpVerified])
        (some [.forgotPassword])

/--
The whole request.  Without permission metadata the permission interceptor only
passes on; the handlers of the two examples only log.
-/
def program
    (env : CoreEnvironment)
    (jwt : JwtService)
    (hashingSHA256 : String → String)
    (request : AuthRequest) : SessionProgram (Option ResponseDTO) :=
  match request with
  | .login drawnId secretGeneration userId => do
      let login := AuthService.login env hashingSHA256 drawnId
        secretGeneration userId
      let res ← BaseResponseInterceptor.intercept
        (BaseAuthService.authenticate env jwt login.drawnId
          login.secretGeneration login.givenPayload login.session
          login.expireTime login.sessionLifeTime false)
      return some res
  | .logout http =>
      AuthController.guarded env jwt AuthController.logoutGuard
        request.metadata http BaseAuthService.logout
  | .exampleAddPermissionFlow http =>
      AuthController.guarded env jwt AuthController.exampleGuard
        request.metadata http fun _ => return ()
  | .exampleAddSessionLocalFlow http =>
      AuthController.guarded env jwt AuthController.exampleGuard
        request.metadata http fun _ => return ()

/-- The bound identifier under which a login stores its entries. -/
def boundId?
    (env : CoreEnvironment)
    (hashingSHA256 : String → String) : AuthRequest → Option String
  | .login drawnId secretGeneration userId =>
      some (AuthService.login env hashingSHA256 drawnId secretGeneration
        userId).payload.sessionBoundId
  | _ => none

end AuthRequest

/-! ## Sessions with their permissions -/

/-- The session holds the permission. -/
def HoldsPermission
    (permission : UserPermission)
    (session : JsonObject) : Prop :=
  ∃ listed,
    session "permissions" = some (.arr listed) ∧
      includes listed permission.text = true

/--
The entries of the controller: of a session entry it is known that it names its
bound identifier and has a list of permissions.
-/
inductive PermissionEntry (key : String) (value : JsonObject) : Prop where
  | token
      (boundId : String)
      (keyShape : key = boundKey .token boundId)
  | session
      (boundId : String)
      (listed : List Json)
      (keyShape : key = boundKey .session boundId)
      (names : value "key" = some (.str boundId))
      (permissions : value "permissions" = some (.arr listed))

/-- What is known of a session entry. -/
theorem PermissionEntry.of_session
    {channel storedId : String}
    {value : JsonObject}
    (entry :
      PermissionEntry (SessionService.session.storageKey channel storedId)
        value) :
    ∃ boundId listed,
      SessionService.session.storageKey channel storedId =
          boundKey .session boundId ∧
        value "key" = some (.str boundId) ∧
        value "permissions" = some (.arr listed) := by
  cases entry with
  | token boundId keyShape =>
      exact (SessionService.storageKey_token_ne_session _ _ _ _
        keyShape.symm).elim
  | session boundId listed keyShape names permissions =>
      exact ⟨boundId, listed, keyShape, names, permissions⟩

/-- What is written back after a grant. -/
theorem PermissionEntry.of_granted
    {permissions : List UserPermission}
    {boundId : String}
    {session : JsonObject}
    {value : Properties}
    (entry : PermissionEntry (boundKey .session boundId) session)
    (changed :
      AuthSessionService.withPermissions permissions session = .ok value)
    (now : Nat)
    (seconds : Option Int) :
    PermissionEntry (boundKey .session boundId)
        ((SessionService.stamp now seconds).spread value).stringify ∧
      ∀ permission,
        HoldsPermission permission session ∨ permission ∈ permissions →
          HoldsPermission permission
            ((SessionService.stamp now seconds).spread value).stringify := by
  obtain ⟨sameId, listed, keyShape, names, present⟩ := entry.of_session
  have stored :
      ((SessionService.stamp now seconds).spread value).stringify
          "permissions" =
        some (.arr
          (AuthSessionService.pushMissing listed
            (permissions.map UserPermission.text))) := by
    obtain ⟨updated, pushed, rfl⟩ := AuthSessionService.map_ok changed
    have isArray : (session "permissions").any Json.truthy = true := by
      rw [present]
      rfl
    rw [if_pos isArray, present] at pushed
    have updatedIs :
        updated =
          some (.arr
            (AuthSessionService.pushMissing listed
              (permissions.map UserPermission.text))) := by
      cases texts : permissions.map UserPermission.text with
      | nil =>
          rw [texts] at pushed
          exact (Except.ok.inj pushed).symm
      | cons text rest =>
          rw [texts] at pushed
          exact (Except.ok.inj pushed).symm
    rw [SessionService.stringify_stamp_spread (by decide) (by decide),
      updatedIs]
    simp [Properties.stringify]
  have kept :
      ((SessionService.stamp now seconds).spread value).stringify "key" =
        session "key" :=
    AuthSessionService.Mutator.stored_other
      (show
        (AuthSessionService.Mutator.addPermissions permissions).change
            session =
          .ok value from changed)
      (by decide) (by decide)
  refine ⟨.session sameId _ keyShape (kept.trans names) stored, ?_⟩
  rintro permission (⟨found, foundIs, held⟩ | provided)
  · refine ⟨_, stored, AuthSessionService.includes_pushMissing.mpr ?_⟩
    rw [present] at foundIs
    obtain rfl := Json.arr.inj (Option.some.inj foundIs)
    exact Or.inl held
  · exact ⟨_, stored, AuthSessionService.includes_pushMissing.mpr
      (Or.inr (List.mem_map_of_mem provided))⟩

section Contracts

variable
  {env : CoreEnvironment}
  {jwt : JwtService}
  {hashingSHA256 : String → String}
  {rely guarantee : String → JsonObject → Prop}
  {metadata : GuardMetadata}
  {session : JsonObject}

/-- What the permission interceptor adds to the contract of a handler. -/
theorem PermissionInterceptor.intercept_satisfies
    {handle : SessionProgram ResponseDTO}
    (noFlow : metadata.flowPermission = none)
    (handled : handle.Satisfies rely guarantee (fun _ => True))
    (granted :
      check metadata session = .ok () →
      metadata.provided ≠ [] →
        (AuthSessionService.addPermissions
          (templateText? (session "key")) metadata.provided
          .token).Satisfies rely guarantee (fun _ => True)) :
    (intercept metadata session handle).Satisfies rely guarantee
      (fun _ => True) := by
  unfold intercept
  cases checked : check metadata session with
  | error failure => trivial
  | ok passed =>
      apply StoreProgram.Satisfies.bind
      refine handled.mono id id ?_
      intro outcome _
      cases outcome with
      | error failure => trivial
      | ok res =>
          simp only
          split
          · rw [StoreProgram.tryCatch_eq]
            apply StoreProgram.Satisfies.tryCatch
            apply StoreProgram.Satisfies.bind
            have grants :
                (grantPermissions metadata
                  (templateText? (session "key"))).Satisfies rely guarantee
                  (fun _ => True) := by
              unfold grantPermissions
              split
              · trivial
              · rename_i provides
                apply StoreProgram.Satisfies.bind
                refine (granted checked (by simpa using provides)).mono
                  id id ?_
                intro granting _
                cases granting <;> trivial
            refine grants.mono id id ?_
            intro granting _
            cases granting with
            | error failure => trivial
            | ok done =>
                unfold grantFlowPermissions
                rw [noFlow]
                trivial
          · trivial

/-- Turning what a handler does into an answer writes nothing. -/
theorem BaseResponseInterceptor.intercept_satisfies
    {Result : Type}
    {handle : SessionProgram Result}
    (handled : handle.Satisfies rely guarantee (fun _ => True)) :
    (intercept handle).Satisfies rely guarantee (fun _ => True) := by
  unfold intercept
  rw [StoreProgram.tryCatch_eq]
  apply StoreProgram.Satisfies.tryCatch
  apply StoreProgram.Satisfies.bind
  refine handled.mono id id ?_
  intro outcome _
  cases outcome <;> trivial

/-- A grant to the session that was read. -/
theorem AuthSessionService.addPermissions_satisfies
    {permissions : List UserPermission}
    {boundId : String}
    (written :
      ∀ session value now seconds,
        rely (boundKey .session boundId) session →
        withPermissions permissions session = .ok value →
        guarantee (boundKey .session boundId)
          ((SessionService.stamp now seconds).spread value).stringify) :
    (addPermissions boundId permissions .token).Satisfies rely guarantee
      (fun _ => True) :=
  rewriteSession_satisfies (fun _ => trivial) written

/-- The session of an admission was read as such. -/
def JwtGuard.AdmittedFrom
    (rely : String → JsonObject → Prop)
    (outcome : Except Failure Admission) : Prop :=
  ∀ admitted,
    outcome = .ok admitted →
      ∃ channel storedId,
        rely (SessionService.session.storageKey channel storedId)
          admitted.session

/-- The guard hands on a session that it has read. -/
theorem JwtGuard.canActivate_admittedFrom
    {params : GuardParams}
    {http : GuardRequest} :
    (canActivate env jwt params http).Satisfies rely guarantee
      (AdmittedFrom rely) := by
  have refused :
      ∀ failure : Failure, AdmittedFrom rely (.error failure) := by
    intro failure admitted same
    cases same
  rw [canActivate_eq]
  intro now
  simp only
  cases present? env jwt params http now with
  | none => exact refused _
  | some presented =>
      intro reply _
      match reply with
      | .error error => exact refused _
      | .ok none => exact refused _
      | .ok (some content) =>
          intro later
          simp only
          cases user? env jwt params presented content later with
          | none => exact refused _
          | some user =>
              intro reply relied
              match reply with
              | .error error => exact refused _
              | .ok none => exact refused _
              | .ok (some session) =>
                  simp only
                  split
                  · intro admitted same
                    obtain rfl := Except.ok.inj same
                    exact ⟨_, _, relied session rfl⟩
                  · exact refused _

/--
The guard has seen the property if the session that it hands on is of the key
and has it.
-/
theorem JwtGuard.canActivate_heeds
    {params : GuardParams}
    {http : GuardRequest}
    {key : String}
    {has : JsonObject → Prop} :
    (canActivate env jwt params http).Heeds rely key has
      (AdmittedFrom
        (fun query session => rely query session ∧
          (query = key → ¬ has session)))
      (AdmittedFrom
        (fun query session => rely query session ∧ query = key)) := by
  have refused :
      ∀ {good} (failure : Failure), AdmittedFrom good (.error failure) := by
    intro good failure admitted same
    cases same
  rw [canActivate_eq]
  intro now
  simp only
  cases present? env jwt params http now with
  | none => exact refused _
  | some presented =>
      intro reply _
      left
      match reply with
      | .error error => exact refused _
      | .ok none => exact refused _
      | .ok (some content) =>
          intro later
          simp only
          cases user? env jwt params presented content later with
          | none => exact refused _
          | some user =>
              intro reply relied
              match reply with
              | .error error => exact Or.inl (refused _)
              | .ok none => exact Or.inl (refused _)
              | .ok (some session) =>
                  simp only
                  by_cases shown :
                      presented.storageKey .session = key ∧ has session
                  · refine Or.inr ⟨⟨session, shown.1, rfl, shown.2⟩, ?_⟩
                    split
                    · intro admitted same
                      obtain rfl := Except.ok.inj same
                      exact ⟨_, _, relied session rfl, shown.1⟩
                    · exact refused _
                  · left
                    split
                    · intro admitted same
                      obtain rfl := Except.ok.inj same
                      refine ⟨_, _, relied session rfl, ?_⟩
                      exact fun isKey hasIt => shown ⟨isKey, hasIt⟩
                    · exact refused _

end Contracts

/-! ## What the requests do to a session -/

section Requests

variable
  {env : CoreEnvironment}
  {jwt : JwtService}
  {hashingSHA256 : String → String}
  {params : GuardParams}
  {metadata : GuardMetadata}
  {http : GuardRequest}
  {handle : BaseJwtPayload → SessionProgram Unit}
  {permission : UserPermission}
  {boundId : String}

/-- The entries of the controller, and who has the permission. -/
abbrev SessionWith
    (permission : UserPermission)
    (boundId : String) : String → JsonObject → Prop :=
  WithProperty PermissionEntry (boundKey .session boundId)
    (HoldsPermission permission)

/-- A guarded request goes on only with a session that is stored. -/
theorem guarded_spares
    (noFlow : metadata.flowPermission = none)
    (handled :
      ∀ user,
        (handle user).Satisfies
          (Elsewhere PermissionEntry (boundKey .session boundId))
          (Elsewhere PermissionEntry (boundKey .session boundId))
          (fun _ => True)) :
    (AuthController.guarded env jwt params metadata http handle).Satisfies
      (Elsewhere PermissionEntry (boundKey .session boundId))
      (Elsewhere PermissionEntry (boundKey .session boundId))
      (fun _ => True) := by
  apply StoreProgram.Satisfies.bind
  refine JwtGuard.canActivate_admittedFrom.mono id id ?_
  intro outcome admittedFrom
  cases outcome with
  | error failure => trivial
  | ok admitted =>
      obtain ⟨channel, storedId, entry, other⟩ := admittedFrom admitted rfl
      obtain ⟨ownId, listed, keyShape, names, -⟩ := entry.of_session
      rw [keyShape] at other
      apply PermissionInterceptor.intercept_satisfies noFlow
      · exact BaseResponseInterceptor.intercept_satisfies
          (handled admitted.user)
      · intro _ _
        rw [names]
        apply AuthSessionService.addPermissions_satisfies
        intro session value now seconds relied changed
        exact ⟨(relied.1.of_granted changed now seconds).1, other⟩

/-- What the check has found of the permissions that are required. -/
theorem holds_of_check
    {session : JsonObject}
    {listed : List Json}
    (passed : PermissionInterceptor.check metadata session = .ok ())
    (present : session "permissions" = some (.arr listed))
    (required : permission ∈ metadata.required) :
    HoldsPermission permission session := by
  unfold PermissionInterceptor.check at passed
  rw [present] at passed
  split at passed
  · cases passed
  · rename_i all
    exact ⟨listed, present,
      PermissionInterceptor.includes_of_requireAll all
        (List.mem_map_of_mem required)⟩

/--
A request that grants anything heeds a permission if it grants that one, too,
or requires it.
-/
theorem guarded_heeds
    (noFlow : metadata.flowPermission = none)
    (dependable :
      metadata.provided ≠ [] →
        permission ∈ metadata.provided ∨ permission ∈ metadata.required)
    (handled :
      ∀ rely user,
        (handle user).Satisfies rely (SessionWith permission boundId)
          (fun _ => True)) :
    (AuthController.guarded env jwt params metadata http handle).Heeds
      PermissionEntry (boundKey .session boundId)
      (HoldsPermission permission) (fun _ => True) (fun _ => True) := by
  apply StoreProgram.Heeds.bind
  refine JwtGuard.canActivate_heeds.mono ?_ ?_
  · intro outcome admittedFrom
    cases outcome with
    | error failure => trivial
    | ok admitted =>
        obtain ⟨channel, storedId, entry, notHeld⟩ := admittedFrom admitted rfl
        obtain ⟨ownId, listed, keyShape, names, present⟩ := entry.of_session
        rw [keyShape] at notHeld
        apply StoreProgram.Satisfies.heeds
        apply PermissionInterceptor.intercept_satisfies noFlow
        · exact BaseResponseInterceptor.intercept_satisfies
            (handled _ admitted.user)
        · intro passed provides
          rw [names]
          apply AuthSessionService.addPermissions_satisfies
          intro session value now seconds relied changed
          obtain ⟨stored, grants⟩ := relied.of_granted changed now seconds
          refine ⟨stored, ?_⟩
          intro isKey
          rcases dependable provides with provided | required
          · exact grants permission (Or.inr provided)
          · exact absurd (holds_of_check passed present required)
              (notHeld isKey)
  · intro outcome admittedFrom
    cases outcome with
    | error failure => trivial
    | ok admitted =>
        obtain ⟨channel, storedId, entry, isKey⟩ := admittedFrom admitted rfl
        obtain ⟨ownId, listed, keyShape, names, -⟩ := entry.of_session
        rw [keyShape] at isKey
        apply PermissionInterceptor.intercept_satisfies noFlow
        · exact BaseResponseInterceptor.intercept_satisfies
            (handled _ admitted.user)
        · intro _ _
          rw [names]
          apply AuthSessionService.addPermissions_satisfies
          intro session value now seconds relied changed
          obtain ⟨stored, grants⟩ := relied.1.of_granted changed now seconds
          exact ⟨stored,
            fun _ => grants permission (Or.inl (relied.2 isKey))⟩

/-- A guarded request whose handler writes nothing. -/
theorem guarded_awaits
    (noFlow : metadata.flowPermission = none)
    (dependable :
      metadata.provided ≠ [] →
        permission ∈ metadata.provided ∨ permission ∈ metadata.required)
    (handled :
      ∀ rely guarantee user,
        (handle user).Satisfies rely guarantee (fun _ => True)) :
    (AuthController.guarded env jwt params metadata http handle).Awaits
      PermissionEntry (boundKey .session boundId)
      (HoldsPermission permission) where
  heeds := guarded_heeds noFlow dependable fun rely => handled rely _
  spares := guarded_spares noFlow (handled _ _)

/-- The session that a login stores. -/
theorem loginSession_entry
    (drawnId secretGeneration userId : String)
    (earlier : List Json)
    (now : Nat)
    (seconds : Option Int) :
    let login := AuthService.login env hashingSHA256 drawnId
      secretGeneration userId
    let stored := ((SessionService.stamp now seconds).spread
      (BaseAuthService.boundSession login.session login.payload
        earlier)).stringify
    PermissionEntry (boundKey .session login.payload.sessionBoundId) stored ∧
      stored "permissions" = some (.arr []) := by
  intro login stored
  have names : stored "key" = some (.str login.payload.sessionBoundId) := by
    unfold stored
    rw [SessionService.stringify_stamp_spread (by decide) (by decide)]
    rfl
  have permissions : stored "permissions" = some (.arr []) := by
    unfold stored
    rw [SessionService.stringify_stamp_spread (by decide) (by decide)]
    rfl
  exact ⟨.session _ [] rfl names permissions, permissions⟩

/-- A login of another session. -/
theorem login_satisfies
    {drawnId secretGeneration userId : String}
    {guarantee : String → JsonObject → Prop}
    {rely : String → JsonObject → Prop}
    (written :
      let login := AuthService.login env hashingSHA256 drawnId
        secretGeneration userId
      ∀ service value,
        PermissionEntry (boundKey service login.payload.sessionBoundId)
          value →
        guarantee (boundKey service login.payload.sessionBoundId) value) :
    ((AuthRequest.login drawnId secretGeneration userId).program env jwt
      hashingSHA256).Satisfies rely guarantee (fun _ => True) := by
  unfold AuthRequest.program
  apply StoreProgram.Satisfies.bind
  refine StoreProgram.Satisfies.mono
    (BaseResponseInterceptor.intercept_satisfies ?_) id id ?_
  · apply BaseAuthService.authenticate_satisfies (fun _ => trivial)
    · intro content now _
      exact written .token _ (.token _ rfl)
    · intro earlier now seconds
      exact written .session _
        (loginSession_entry drawnId secretGeneration userId earlier now
          seconds).1
  · intro outcome _
    cases outcome <;> trivial

/-- Every request but the login of this session waits for it. -/
theorem program_awaits
    {request : AuthRequest}
    (noFounder :
      request.boundId? env hashingSHA256 ≠ some boundId) :
    (request.program env jwt hashingSHA256).Awaits PermissionEntry
      (boundKey .session boundId) (HoldsPermission .otpVerified) := by
  cases request with
  | login drawnId secretGeneration userId =>
      have otherKey :
          ∀ service,
            boundKey service
                (AuthService.login env hashingSHA256 drawnId
                  secretGeneration userId).payload.sessionBoundId ≠
              boundKey .session boundId := by
        intro service same
        cases service with
        | token =>
            exact SessionService.storageKey_token_ne_session _ _ _ _ same
        | session =>
            exact noFounder
              (congrArg some (SessionService.storageKey_injective same))
      refine ⟨StoreProgram.Satisfies.heeds (login_satisfies ?_),
        login_satisfies ?_⟩
      · exact fun service value entry =>
          ⟨entry, fun same => absurd same (otherKey service)⟩
      · exact fun service value entry => ⟨entry, otherKey service⟩
  | logout http =>
      exact guarded_awaits rfl (fun provides => absurd rfl provides)
        (fun _ _ _ => BaseAuthService.logout_satisfies (fun _ => trivial))
  | exampleAddPermissionFlow http =>
      unfold AuthRequest.program
      exact guarded_awaits rfl (fun _ => Or.inl List.mem_cons_self)
        (fun _ _ _ => trivial)
  | exampleAddSessionLocalFlow http =>
      unfold AuthRequest.program
      exact guarded_awaits rfl (fun _ => Or.inr List.mem_cons_self)
        (fun _ _ _ => trivial)

/-- The session of a login is written once, and without permissions. -/
theorem login_founds
    {request : AuthRequest}
    (founder : request.boundId? env hashingSHA256 = some boundId) :
    (request.program env jwt hashingSHA256).Founds PermissionEntry
      (boundKey .session boundId)
      (fun value => ¬ HoldsPermission permission value) := by
  cases request with
  | login drawnId secretGeneration userId =>
      let login := AuthService.login env hashingSHA256 drawnId
        secretGeneration userId
      have ownKey :
          boundKey .session login.payload.sessionBoundId =
            boundKey .session boundId :=
        congrArg _ (Option.some.inj founder)
      have sessionFounds :
          (BaseAuthService.addBoundSession login.payload login.session
            login.expireTime login.sessionLifeTime).Founds PermissionEntry
            (boundKey .session boundId)
            (fun value => ¬ HoldsPermission permission value) := by
        rw [← ownKey]
        unfold BaseAuthService.addBoundSession
        split
        · trivial
        · rename_i earlier _
          rw [SessionService.addSession_eq]
          intro now
          obtain ⟨entry, noPermissions⟩ :=
            loginSession_entry drawnId secretGeneration userId earlier now
              (some (BaseAuthService.sessionExpiry login.sessionLifeTime
                login.expireTime))
          refine ⟨entry, Or.inr ⟨rfl, ?_, ?_⟩⟩
          · rintro ⟨listed, present, held⟩
            rw [noPermissions] at present
            obtain rfl := Json.arr.inj (Option.some.inj present)
            cases held
          · intro reply
            match reply with
            | .ok true => trivial
            | .ok false => trivial
            | .error error => trivial
      unfold AuthRequest.program
      refine StoreProgram.Founds.bind_last ?_ (fun _ => trivial)
      unfold BaseResponseInterceptor.intercept
      rw [StoreProgram.tryCatch_eq]
      refine StoreProgram.Founds.tryCatch ?_ (fun _ => trivial)
      refine StoreProgram.Founds.bind_last ?_ (fun _ => trivial)
      unfold BaseAuthService.authenticate
      apply StoreProgram.Founds.bind
      apply BaseAuthService.createToken_satisfies
      · intro outcome
        cases outcome with
        | error failure => trivial
        | ok token =>
            simp only
            split
            · trivial
            · exact sessionFounds.bind_last (fun _ => trivial)
      · intro content now _
        exact ⟨.token _ rfl,
          SessionService.storageKey_token_ne_session _ _ _ _⟩
  | logout http => cases founder
  | exampleAddPermissionFlow http => cases founder
  | exampleAddSessionLocalFlow http => cases founder

end Requests

/-! ## Every interleaving -/

/-- `FORGOT_PASSWORD` comes after `OTP_VERIFIED`. -/
def PermissionsInOrder (session : JsonObject) : Prop :=
  HoldsPermission .forgotPassword session →
    HoldsPermission .otpVerified session

/-- The requests to the controller. -/
abbrev AuthRequestWorld :=
  World AuthRequest String JsonObject Failure (Option ResponseDTO)

/--
Where a schedule of requests begins: nothing is under way, the sessions are in
order, and every login takes a bound identifier that neither a session nor
another login has.
-/
structure AuthRequestWorld.Begins
    (env : CoreEnvironment)
    (hashingSHA256 : String → String)
    (world : AuthRequestWorld)
    (actions : List (Action AuthRequest)) : Prop where
  idle : world.threads = []
  entries : world.backend.store.Conforms PermissionEntry
  ordered :
    ∀ boundId,
      world.backend.store.Shows (boundKey .session boundId)
        PermissionsInOrder
  distinct :
    ((World.calls actions).filterMap
      (AuthRequest.boundId? env hashingSHA256)).Nodup
  unused :
    ∀ boundId ∈
        (World.calls actions).filterMap
          (AuthRequest.boundId? env hashingSHA256),
      world.backend.store.lookup (boundKey .session boundId) = none

section Runs

variable
  {env : CoreEnvironment}
  {jwt : JwtService}
  {hashingSHA256 : String → String}
  {world middle final : AuthRequestWorld}
  {actions first second : List (Action AuthRequest)}
  {boundId : String}

/-- The login that stores the session. -/
def logsIn
    (env : CoreEnvironment)
    (hashingSHA256 : String → String)
    (boundId : String)
    (request : AuthRequest) : Bool :=
  request.boundId? env hashingSHA256 = some boundId

/-- What each request does about one session. -/
theorem logsIn_founds
    (request : AuthRequest) :
    if logsIn env hashingSHA256 boundId request then
      (request.program env jwt hashingSHA256).Founds PermissionEntry
        (boundKey .session boundId)
        (fun value => ¬ HoldsPermission .forgotPassword value)
    else
      (request.program env jwt hashingSHA256).Awaits PermissionEntry
        (boundKey .session boundId) (HoldsPermission .otpVerified) := by
  by_cases founder : request.boundId? env hashingSHA256 = some boundId
  · rw [if_pos (by simpa [logsIn] using founder)]
    exact login_founds founder
  · rw [if_neg (by simpa [logsIn] using founder)]
    exact program_awaits founder

/--
A session at any point of a schedule.  Once it may be there, no further login
stores it.
-/
theorem AuthRequestWorld.Begins.phase
    (begins :
      AuthRequestWorld.Begins env hashingSHA256 world (first ++ second))
    (ran :
      world.run? (AuthRequest.program env jwt hashingSHA256) first =
        some middle)
    (boundId : String) :
    middle.Unfounded PermissionEntry (boundKey .session boundId)
        (fun value => ¬ HoldsPermission .forgotPassword value)
        (HoldsPermission .otpVerified)
        (logsIn env hashingSHA256 boundId) ∨
      middle.Founded PermissionEntry (boundKey .session boundId)
          (fun value => ¬ HoldsPermission .forgotPassword value)
          (HoldsPermission .otpVerified) ∧
        ∀ request,
          .invoke request ∈ second →
            request.boundId? env hashingSHA256 ≠ some boundId := by
  have invokedIn :
      ∀ {request : AuthRequest} {actions : List (Action AuthRequest)},
        .invoke request ∈ actions → request ∈ World.calls actions :=
    fun member => List.mem_filterMap.mpr ⟨_, member, rfl⟩
  cases present : world.backend.store.lookup (boundKey .session boundId) with
  | none =>
      have unfounded :
          world.Unfounded PermissionEntry (boundKey .session boundId)
            (fun value => ¬ HoldsPermission .forgotPassword value)
            (HoldsPermission .otpVerified)
            (logsIn env hashingSHA256 boundId) := by
        refine ⟨ExpiringStore.conforms_elsewhere_iff.mpr
          ⟨begins.entries, present⟩, ?_⟩
        rw [begins.idle]
        exact fun thread member => absurd member List.not_mem_nil
      have ledgerIs :
          ∀ actions : List (Action AuthRequest),
            world.ledger actions = World.calls actions := by
        intro actions
        unfold World.ledger
        rw [begins.idle]
        rfl
      have one :
          World.OneFounder (logsIn env hashingSHA256 boundId)
            (World.calls (first ++ second)) := by
        refine (List.pairwise_filterMap.mp begins.distinct).imp ?_
        intro earlier later different isFounder
        cases founder : logsIn env hashingSHA256 boundId later with
        | false => rfl
        | true =>
            exact (different boundId (by simpa [logsIn] using isFounder)
              boundId (by simpa [logsIn] using founder) rfl).elim
      have split :
          World.calls (first ++ second) =
            World.calls first ++ World.calls second :=
        List.filterMap_append ..
      rw [split] at one
      have parts := List.pairwise_append.mp one
      rcases unfounded.run (by rw [ledgerIs]; exact parts.1)
          (fun request _ => logsIn_founds request) ran with
        still | ⟨founded, founder, member, isFounder⟩
      · exact Or.inl still
      · refine Or.inr ⟨founded, ?_⟩
        intro request inSecond isLogin
        rw [ledgerIs] at member
        have notFounder :=
          parts.2.2 founder member request (invokedIn inSecond) isFounder
        simp [logsIn, isLogin] at notFounder
  | some entry =>
      have noLogin :
          ∀ request,
            .invoke request ∈ first ++ second →
              request.boundId? env hashingSHA256 ≠ some boundId := by
        intro request member isLogin
        have absent :=
          begins.unused boundId
            (List.mem_filterMap.mpr ⟨request, invokedIn member, isLogin⟩)
        rw [present] at absent
        cases absent
      have founded :
          world.Founded PermissionEntry (boundKey .session boundId)
            (fun value => ¬ HoldsPermission .forgotPassword value)
            (HoldsPermission .otpVerified) := by
        refine ⟨begins.entries, ?_, ?_⟩
        · intro stored found
          by_cases holds : HoldsPermission .forgotPassword stored.value
          · exact Or.inr (begins.ordered boundId stored found holds)
          · exact Or.inl holds
        · rw [begins.idle]
          exact fun thread member => absurd member List.not_mem_nil
      refine Or.inr ⟨founded.run ?_ ran, ?_⟩
      · exact fun request member =>
          program_awaits
            (noLogin request (List.mem_append_left _ member))
      · exact fun request member =>
          noLogin request (List.mem_append_right _ member)

/--
Whatever requests to the controller interleave, command by command, no session
has `FORGOT_PASSWORD` without `OTP_VERIFIED`, and a session that has once had
`OTP_VERIFIED` has it as long as it is stored.
-/
theorem otpVerified_kept
    (begins :
      AuthRequestWorld.Begins env hashingSHA256 world (first ++ second))
    (ranFirst :
      world.run? (AuthRequest.program env jwt hashingSHA256) first =
        some middle)
    (ranSecond :
      middle.run? (AuthRequest.program env jwt hashingSHA256) second =
        some final)
    (boundId : String) :
    middle.backend.store.Shows (boundKey .session boundId)
        PermissionsInOrder ∧
      ∀ entry,
        middle.backend.store.lookup (boundKey .session boundId) =
            some entry →
          HoldsPermission .otpVerified entry.value →
            final.backend.store.Shows (boundKey .session boundId)
              (HoldsPermission .otpVerified) := by
  rcases begins.phase ranFirst boundId with unfounded | ⟨founded, noLogin⟩
  · obtain ⟨-, absent⟩ :=
      ExpiringStore.conforms_elsewhere_iff.mp unfounded.store
    refine ⟨?_, ?_⟩
    · intro entry found
      rw [absent] at found
      cases found
    · intro entry found
      rw [absent] at found
      cases found
  · refine ⟨?_, ?_⟩
    · intro entry found forgot
      rcases founded.entry entry found with notForgot | verified
      · exact absurd forgot notForgot
      · exact verified
    · intro entry found verified
      refine founded.shows ?_ (fun request member =>
        program_awaits (noLogin request member)) ranSecond
      intro other otherFound
      obtain rfl := Option.some.inj (found.symm.trans otherFound)
      exact verified

end Runs

namespace Sample

/-- A request with the token of the first login. -/
def aliceHttp : GuardRequest := .bearer (loginToken .user "first")

/-- The user logs in and gets `OTP_VERIFIED`. -/
def verifiedFirst : List (Action AuthRequest) :=
  [.invoke (.login "first" "random" "alice"), .advance 0, .advance 0,
    .advance 0, .invoke (.exampleAddPermissionFlow aliceHttp), .advance 1,
    .advance 1, .advance 1, .advance 1]

/-- The grant of `FORGOT_PASSWORD` is overwritten by an older session. -/
def grantsInterleaved : List (Action AuthRequest) :=
  [.invoke (.exampleAddSessionLocalFlow aliceHttp), .advance 2, .advance 2,
    .invoke (.exampleAddPermissionFlow aliceHttp), .advance 3, .advance 3,
    .advance 3, .advance 2, .advance 2, .advance 3]

/-- Nobody has logged in yet. -/
def noRequests : AuthRequestWorld where
  now := 0
  backend := ⟨∅, []⟩
  threads := []

/-- Requests to this installation. -/
abbrev requestProgram : AuthRequest → SessionProgram (Option ResponseDTO) :=
  AuthRequest.program environment JwtService.Marked.service id

/-- The stored session has `OTP_VERIFIED`. -/
def verified (world : AuthRequestWorld) : Bool :=
  (world.backend.store.lookup (boundKey .session "alice:first")).any
    fun entry =>
      match entry.value "permissions" with
      | some (.arr listed) => includes listed UserPermission.otpVerified.text
      | _ => false

end Sample

/-- Two grants that interleave. -/
theorem otpVerified_kept_alice :
    ∃ middle final,
      Sample.noRequests.run? Sample.requestProgram Sample.verifiedFirst =
          some middle ∧
        middle.run? Sample.requestProgram Sample.grantsInterleaved =
          some final ∧
        Sample.verified final = true ∧
        final.backend.store.Shows (boundKey .session "alice:first")
          (HoldsPermission .otpVerified) := by
  have outcome :
      ((Sample.noRequests.run? Sample.requestProgram
          Sample.verifiedFirst).bind fun middle =>
        (middle.run? Sample.requestProgram Sample.grantsInterleaved).map
          fun final => (Sample.verified middle, Sample.verified final)) =
        some (true, true) := by
    decide +kernel
  obtain ⟨middle, ranFirst, rest⟩ := Option.bind_eq_some_iff.mp outcome
  obtain ⟨final, ranSecond, both⟩ := Option.map_eq_some_iff.mp rest
  obtain ⟨verifiedMiddle, verifiedFinal⟩ := Prod.mk.inj both
  have begins :
      AuthRequestWorld.Begins Sample.environment id Sample.noRequests
        (Sample.verifiedFirst ++ Sample.grantsInterleaved) := by
    refine ⟨rfl, ?_, ?_, by decide +kernel, fun _ _ => rfl⟩
    · intro key entry found
      cases found
    · intro boundId entry found
      cases found
  obtain ⟨entry, found, held⟩ :=
    (Option.any_eq_true _ _).mp verifiedMiddle
  have holds : HoldsPermission .otpVerified entry.value := by
    split at held
    · rename_i listed present
      exact ⟨listed, present, held⟩
    · cases held
  exact ⟨middle, final, ranFirst, ranSecond, verifiedFinal,
    (otpVerified_kept begins ranFirst ranSecond "alice:first").2 entry found
      holds⟩

end NestBackend
