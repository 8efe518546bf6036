import NestBackend.SequentialRun
import NestBackend.SignContract

namespace NestBackend

open JavaScript

/-!
# What a request of the sign-contract controller leaves behind

A request may die after any of its commands.  What it leaves then is the store
it found, or that store after the session write of its handler, or after the
grant as well; nothing else ever happens to the store.
-/

namespace AuthSessionService.Mutator

/-- What a call of this kind may reject with. -/
inductive Raises (mutator : Mutator) : Failure → Prop where
  | read :
      Raises mutator
        (.unauthorizedException "Failed to get session value")
  | store (error : StoreError) : Raises mutator (.storeFailure error)
  | refused :
      Raises mutator
        (.badRequestException SystemCode.sessionNotAvailable.text)
  | untyped :
      Raises mutator
        (.internalServerErrorException
          SystemCode.sorrySomethingWentWrong.text)
  | change
      {session : JsonObject}
      {failure : Failure}
      (fails : mutator.change session = .error failure) :
      Raises mutator failure

/-- The session under a bound identifier was read, changed and written back. -/
def Rewrote
    (mutator : Mutator)
    (boundId : String)
    (backend after : Backend String JsonObject) : Prop :=
  ∃ entry value now seconds instant lifetime,
    backend.store.lookup
        (SessionService.session.storageKey JwtSession.token.text
          boundId) =
      some entry ∧
      mutator.change entry.value = .ok value ∧
      after =
        { backend with
          store :=
            backend.store.write instant
              (SessionService.session.storageKey JwtSession.token.text
                boundId)
              lifetime
              ((SessionService.stamp now seconds).spread
                value).stringify }

section Alone

variable
  {mutator : Mutator}
  {boundId : String}
  {keeps : Backend String JsonObject → Prop}
  {ensures :
    Except Failure Properties → Backend String JsonObject → Prop}
  {backend : Backend String JsonObject}

/-- Alone, a call rejects without a trace or rewrites its session. -/
theorem program_alone
    (kept : keeps backend)
    (failed :
      ∀ failure, mutator.Raises failure → ensures (.error failure) backend)
    (rewrote :
      ∀ value after,
        mutator.Rewrote boundId backend after →
        keeps after ∧ ensures (.ok value) after) :
    (mutator.program boundId .token).Alone keeps ensures backend := by
  rcases mutator.program_cases boundId .token with rewrites | refused
  · rw [rewrites, rewriteSession_eq]
    refine ⟨kept, ?_⟩
    intro read
    cases found :
        backend.store.read read
          (SessionService.session.storageKey JwtSession.token.text
            boundId) with
    | none => exact ⟨kept, failed _ .read⟩
    | some session =>
        obtain ⟨entry, lookup, -, rfl⟩ :=
          ExpiringStore.read_eq_some.mp found
        simp only
        cases changed : mutator.change entry.value with
        | error failure => exact ⟨kept, failed _ (.change changed)⟩
        | ok value =>
            simp only [SessionService.addSession_eq]
            intro counted now
            refine ⟨kept, ?_⟩
            intro instant
            cases seconds : secondsLeft entry.value counted with
            | none => exact ⟨kept, failed _ (.store .invalidExpire)⟩
            | some count =>
                by_cases positive : 0 < count
                · rw [Backend.setex_of_pos _ _ _ positive]
                  exact rewrote value _
                    ⟨entry, value, now, some count, instant, _, lookup,
                      changed, rfl⟩
                · simp only [Backend.setex, if_neg positive]
                  exact ⟨kept, failed _ (.store .invalidExpire)⟩
  · rw [refused]
    exact ⟨kept, failed _ .untyped⟩

end Alone

end AuthSessionService.Mutator

namespace JwtGuard

/-- The guard admits a request on this store, whenever it reads. -/
def Admits
    (env : CoreEnvironment)
    (jwt : JwtService)
    (params : GuardParams)
    (request : GuardRequest)
    (store : ExpiringStore String JsonObject)
    (admitted : Admission) : Prop :=
  ∃ now later tokenAt sessionAt,
    admission env jwt params request now later (store.read tokenAt)
        (store.read sessionAt) =
      some admitted

/-- Alone, the guard leaves the store as it is and admits or rejects. -/
theorem canActivate_alone
    {env : CoreEnvironment}
    {jwt : JwtService}
    {params : GuardParams}
    {request : GuardRequest}
    {keeps : Backend String JsonObject → Prop}
    {ensures :
      Except Failure Admission → Backend String JsonObject → Prop}
    {backend : Backend String JsonObject}
    (kept : keeps backend)
    (rejected : ensures (.error unauthorized) backend)
    (admits :
      ∀ admitted,
        Admits env jwt params request backend.store admitted →
        ensures (.ok admitted) backend) :
    (canActivate env jwt params request).Alone keeps ensures backend := by
  rw [canActivate_eq]
  intro now
  simp only
  cases found : present? env jwt params request now with
  | none => exact ⟨kept, rejected⟩
  | some presented =>
      refine ⟨kept, ?_⟩
      intro tokenAt
      cases tokenRead :
          backend.store.read tokenAt (presented.storageKey .token) with
      | none => exact ⟨kept, rejected⟩
      | some content =>
          intro later
          simp only
          cases checked : user? env jwt params presented content later with
          | none => exact ⟨kept, rejected⟩
          | some user =>
              refine ⟨kept, ?_⟩
              intro sessionAt
              cases sessionRead :
                  backend.store.read sessionAt
                    (presented.storageKey .session) with
              | none => exact ⟨kept, rejected⟩
              | some session =>
                  simp only
                  split
                  · rename_i allowed
                    refine ⟨kept, admits _
                      ⟨now, later, tokenAt, sessionAt, ?_⟩⟩
                    simp [admission, found, tokenRead, checked,
                      sessionRead, allowed]
                  · exact ⟨kept, rejected⟩

end JwtGuard

/-! ## The calls of a request -/

namespace SignContractRequest

/-- What the handler does to the session, once its other work succeeded. -/
def handlerCall : SignContractRequest → Option AuthSessionService.Mutator
  | .requestOtp _ contractId otpId =>
      some (.addFlowSession
        (SignContractService.signContractSession contractId otpId))
  | .checkOtp _ => none
  | .checkSelfie _ selfieId =>
      some (.updateFlowSession
        (SignContractService.checkedSelfie selfieId))

/-- What the interceptor does to the session after a success. -/
def grantCall (request : SignContractRequest) : AuthSessionService.Mutator :=
  .addFlowPermissions SignContractService.flow request.provided

/-- The part of the handler that the source leaves out. -/
def work : SignContractRequest → HandlerWork
  | .requestOtp work _ _ => work
  | .checkOtp work => work
  | .checkSelfie work _ => work

/-- The permissions that the interceptor checks on the snapshot. -/
def check
    (request : SignContractRequest)
    (session : JsonObject) : Except Failure Unit :=
  PermissionInterceptor.check
    (SignContractController.classMetadata.orElse request.metadata) session

/-- The store after the handler, when it succeeds. -/
def Handled
    (request : SignContractRequest)
    (boundId : String)
    (backend after : Backend String JsonObject) : Prop :=
  request.work.outcome = .ok () ∧
    match request.handlerCall with
    | none => after = backend
    | some mutator => mutator.Rewrote boundId backend after

/-- What a request may leave of the store it finds. -/
inductive Leaves
    (env : CoreEnvironment)
    (jwt : JwtService)
    (http : GuardRequest)
    (request : SignContractRequest)
    (backend : Backend String JsonObject) :
    Backend String JsonObject → Prop where
  | unchanged : Leaves env jwt http request backend backend
  | handled
      {admitted : Admission}
      {after : Backend String JsonObject}
      (admits :
        JwtGuard.Admits env jwt SignContractController.guardParams http
          backend.store admitted)
      (checked : request.check admitted.session = .ok ())
      (handled :
        request.Handled admitted.user.sessionBoundId backend after) :
      Leaves env jwt http request backend after
  | granted
      {admitted : Admission}
      {middle after : Backend String JsonObject}
      (admits :
        JwtGuard.Admits env jwt SignContractController.guardParams http
          backend.store admitted)
      (checked : request.check admitted.session = .ok ())
      (handled :
        request.Handled admitted.user.sessionBoundId backend middle)
      (granted :
        request.grantCall.Rewrote
          (templateText? (admitted.session "key")) middle after) :
      Leaves env jwt http request backend after

/-! ## The handler -/

/-- What the calls of a handler reject with is not answered as a success. -/
theorem errorResponse_of_raises
    {request : SignContractRequest}
    {mutator : AuthSessionService.Mutator}
    (call : request.handlerCall = some mutator)
    {failure : Failure}
    (raises : mutator.Raises failure) :
    (BaseResponseInterceptor.errorResponse failure).systemCode ≠
      .success := by
  cases raises with
  | read => decide
  | store error =>
      intro success
      cases success
  | refused => decide
  | untyped => decide
  | change fails =>
      cases request with
      | requestOtp work contractId otpId =>
          cases call
          cases fails
      | checkOtp work => cases call
      | checkSelfie work selfieId =>
          cases call
          cases fails

section Alone

variable
  {request : SignContractRequest}
  {tokenPayload : BaseJwtPayload}
  {keeps : Backend String JsonObject → Prop}
  {ensures : Except Failure Unit → Backend String JsonObject → Prop}
  {backend : Backend String JsonObject}

/-- Alone, a handler fails without a trace or does its call. -/
theorem handler_alone
    (kept : keeps backend)
    (failed :
      ∀ failure,
        (BaseResponseInterceptor.errorResponse failure).systemCode ≠
            .success →
        ensures (.error failure) backend)
    (handled :
      ∀ after,
        request.Handled tokenPayload.sessionBoundId backend after →
        keeps after ∧ ensures (.ok ()) after) :
    (request.handler tokenPayload).Alone keeps ensures backend := by
  have calls :
      ∀ mutator,
        request.work.outcome = .ok () →
        request.handlerCall = some mutator →
        StoreProgram.Alone keeps ensures
          (mutator.program tokenPayload.sessionBoundId
              tokenPayload.sessionChannel >>=
            fun _ => pure ())
          backend := by
    intro mutator succeeded call
    apply StoreProgram.Alone.bind
    rw [tokenPayload.sessionChannel.eq_token]
    apply mutator.program_alone kept
    · intro failure raises
      exact failed failure (errorResponse_of_raises call raises)
    · intro value after rewrote
      have after_handled :
          request.Handled tokenPayload.sessionBoundId backend after := by
        refine ⟨succeeded, ?_⟩
        rw [call]
        exact rewrote
      obtain ⟨keptAfter, ensured⟩ := handled after after_handled
      exact ⟨keptAfter, keptAfter, ensured⟩
  cases request with
  | requestOtp work contractId otpId =>
      simp only [handler, SignContractService.requestOtp]
      cases outcome : work.outcome with
      | error failure =>
          exact ⟨kept, failed failure (work.notSuccess failure outcome)⟩
      | ok done => exact calls _ outcome rfl
  | checkOtp work =>
      simp only [handler, SignContractService.checkOtp]
      cases outcome : work.outcome with
      | error failure =>
          exact ⟨kept, failed failure (work.notSuccess failure outcome)⟩
      | ok done => exact ⟨kept, (handled backend ⟨outcome, rfl⟩).2⟩
  | checkSelfie work selfieId =>
      simp only [handler, SignContractService.checkSelfie]
      cases outcome : work.outcome with
      | error failure =>
          exact ⟨kept, failed failure (work.notSuccess failure outcome)⟩
      | ok done => exact calls _ outcome rfl

end Alone

/-! ## The whole request -/

/-- No handler provides permissions of the session itself. -/
theorem grantPermissions_eq
    (request : SignContractRequest)
    (key : String) :
    PermissionInterceptor.grantPermissions
        (SignContractController.classMetadata.orElse request.metadata)
        key =
      pure () := rfl

/-- Every handler provides a permission of the flow session. -/
theorem grantFlowPermissions_eq
    (request : SignContractRequest)
    (key : String) :
    PermissionInterceptor.grantFlowPermissions
        (SignContractController.classMetadata.orElse request.metadata)
        key =
      (request.grantCall.program key .token >>= fun _ => pure ()) := by
  cases request <;> rfl

/-- Alone and up to any command, a request leaves one of these stores. -/
theorem program_leaves
    (env : CoreEnvironment)
    (jwt : JwtService)
    (http : GuardRequest)
    (request : SignContractRequest)
    (backend : Backend String JsonObject) :
    (request.program env jwt http).Alone
      (Leaves env jwt http request backend) (fun _ _ => True)
      backend := by
  unfold program
  apply StoreProgram.Alone.bind
  apply JwtGuard.canActivate_alone .unchanged trivial
  intro admitted admits
  simp only [PermissionInterceptor.intercept]
  cases checked :
      PermissionInterceptor.check
        (SignContractController.classMetadata.orElse request.metadata)
        admitted.session with
  | error failure => exact ⟨.unchanged, trivial⟩
  | ok passed =>
      apply StoreProgram.Alone.bind
      unfold BaseResponseInterceptor.intercept
      apply StoreProgram.Alone.tryCatch
      apply StoreProgram.Alone.bind
      apply handler_alone .unchanged
      · intro failure notSuccess
        refine ⟨.unchanged, ?_⟩
        simp only [if_neg notSuccess]
        exact ⟨.unchanged, trivial⟩
      · intro middle handled
        have left : Leaves env jwt http request backend middle :=
          .handled admits checked handled
        refine ⟨left, left, ?_⟩
        have success :
            (BaseResponseInterceptor.translateResponse
              SystemCode.success.text).systemCode = .success := by
          decide
        simp only [if_pos success]
        apply StoreProgram.Alone.tryCatch
        rw [grantPermissions_eq, grantFlowPermissions_eq]
        apply StoreProgram.Alone.bind
        refine ⟨left, ?_⟩
        apply StoreProgram.Alone.bind
        apply StoreProgram.Alone.bind
        apply request.grantCall.program_alone left
        · intro failure _
          exact ⟨left, trivial⟩
        · intro value after granted
          have complete : Leaves env jwt http request backend after :=
            .granted admits checked handled granted
          exact ⟨complete, complete, complete, trivial⟩

end SignContractRequest

end NestBackend
