import NestBackend.TokenRenewal

namespace NestBackend

open JavaScript

/-!
# What a renewal does to its own session

By default `renewToken` deletes the entries its scan finds, in the background.
The scan is for all identifiers of the key, so it finds the presented token
itself, and the deletion takes the session along.  The token entry is written
again, the session is not.
-/

namespace BaseAuthService

variable
  {env : CoreEnvironment}
  {jwt : JwtService}
  {drawnId secretGeneration : String}
  {payload : BaseJwtPayload}
  {type : TokenType}
  {expireTime : Int}

/-- The end of a call of `renewToken`, once the scan is done. -/
def storing
    (env : CoreEnvironment)
    (jwt : JwtService)
    (drawnId secretGeneration : String)
    (payload : BaseJwtPayload)
    (type : TokenType)
    (expireTime : Int) : SessionProgram AuthAnswer := do
  let token ← storeToken env jwt drawnId secretGeneration payload
    (payload.properties (tokenTypeMap type)) expireTime
  return .token token

/-- The call signs and writes at one instant, and is done. -/
theorem storing_step
    (now : Nat)
    (backend : Backend String JsonObject) :
    StoreProgram.step now backend
        (storing env jwt drawnId secretGeneration payload type
          expireTime) =
      if 0 < expireTime then
        ({ backend with
            store :=
              backend.store.write now (tokenKey payload)
                (expireTime.toNat * 1000)
                (payload.content (tokenTypeMap type)) },
          .done (.ok (.token (jwt.sign
            (signedClaims env (ensureId drawnId payload) expireTime now)
            secretGeneration))))
      else
        (backend, .done (.error (.storeFailure .invalidExpire))) := by
  exact storeToken_bind_step _ now backend

/-- The first command of a call that is let through is the scan. -/
theorem renewToken_first_step
    (env : CoreEnvironment)
    (jwt : JwtService)
    (drawnId secretGeneration : String)
    (expireTime : Int)
    {content : IdentifiedPayload}
    (typed : content.val.type = type.text)
    (refreshable : refreshToken.contains content.val.type = true)
    (now : Nat)
    (backend : Backend String JsonObject) :
    StoreProgram.step now backend
        ((AuthOperation.renewToken drawnId secretGeneration content
          expireTime false).behaviour env jwt) =
      (backend,
        if outsideRefreshWindow env content.val now = true then
          .done (.error (.unauthorizedException
            SystemCode.tokenIsNotAllowToRefresh.text))
        else if
            (existingKeys content.val backend.store now).isEmpty = true
          then
          storing env jwt drawnId secretGeneration content.val type
            expireTime
        else
          .detach
            (startedChains content.val false
              (existingKeys content.val backend.store now))
            (storing env jwt drawnId secretGeneration content.val type
              expireTime)) := by
  unfold AuthOperation.behaviour renewToken
  simp only [if_pos refreshable, StoreProgram.clock_bind,
    StoreProgram.step]
  by_cases outside : outsideRefreshWindow env content.val now = true
  · rw [if_pos outside, if_pos outside]
    rfl
  · rw [if_neg outside, if_neg outside]
    exact createToken_bind_step typed _ now backend

end BaseAuthService

/-! ## The call among its own deletions -/

/--
Where the call is after its scan.  `before` holds of the backend until the
token is written, and `after` from the instant of the write on.
-/
inductive RenewalPhase
    (env : CoreEnvironment)
    (jwt : JwtService)
    (drawnId secretGeneration : String)
    (payload : BaseJwtPayload)
    (type : TokenType)
    (expireTime : Int)
    (before : Backend String JsonObject → Prop)
    (after : Nat → Backend String JsonObject → Prop)
    (world : AuthWorld)
    (thread :
      Thread AuthOperation String JsonObject Failure AuthAnswer) :
    Prop where
  | listed
      (chains : List (List String))
      (program :
        thread.program =
          .detach chains
            (BaseAuthService.storing env jwt drawnId secretGeneration
              payload type expireTime))
      (idle : world.backend.chains = [])
      (holds : before (world.backend.detach chains))
  | storing
      (program :
        thread.program =
          BaseAuthService.storing env jwt drawnId secretGeneration
            payload type expireTime)
      (holds : before world.backend)
  | finished
      (instant : Nat)
      (program :
        thread.program =
          .done (.ok (.token (jwt.sign
            (BaseAuthService.signedClaims env
              (BaseAuthService.ensureId drawnId payload) expireTime
              instant)
            secretGeneration))))
      (holds : after instant world.backend)
  | failed
      (failure : Failure)
      (program : thread.program = .done (.error failure))

/-- The call is the only one, and in one of the phases. -/
def InRenewalPhase
    (env : CoreEnvironment)
    (jwt : JwtService)
    (drawnId secretGeneration : String)
    (payload : BaseJwtPayload)
    (type : TokenType)
    (expireTime : Int)
    (before : Backend String JsonObject → Prop)
    (after : Nat → Backend String JsonObject → Prop)
    (world : AuthWorld) : Prop :=
  ∃ thread,
    world.threads = [thread] ∧
      RenewalPhase env jwt drawnId secretGeneration payload type
        expireTime before after world thread

/-- The write and the deletions keep what is to hold. -/
structure KeptByRenewal
    (payload : BaseJwtPayload)
    (type : TokenType)
    (expireTime : Int)
    (before : Backend String JsonObject → Prop)
    (after : Nat → Backend String JsonObject → Prop) : Prop where
  beforeSettles :
    ∀ {backend later},
      before backend → backend.Settles later → before later
  afterSettles :
    ∀ {instant backend later},
      after instant backend → backend.Settles later →
        after instant later
  writes :
    ∀ {instant backend},
      before backend →
      after instant
        { backend with
          store :=
            backend.store.write instant
              (BaseAuthService.tokenKey payload)
              (expireTime.toNat * 1000)
              (payload.content (tokenTypeMap type)) }

section Phases

variable
  {env : CoreEnvironment}
  {jwt : JwtService}
  {drawnId secretGeneration : String}
  {payload : BaseJwtPayload}
  {type : TokenType}
  {expireTime : Int}
  {before : Backend String JsonObject → Prop}
  {after : Nat → Backend String JsonObject → Prop}
  {world next : AuthWorld}

/-- The only thread is at the only position. -/
theorem getElem?_singleton
    {Item : Type}
    {only found : Item}
    {index : Nat}
    (atIndex : [only][index]? = some found) :
    index = 0 ∧ found = only := by
  cases index with
  | zero => exact ⟨rfl, (Option.some.inj atIndex).symm⟩
  | succ later => simp at atIndex

/-- The next command of the call, from one phase to the next. -/
theorem RenewalPhase.advance
    {thread : Thread AuthOperation String JsonObject Failure AuthAnswer}
    (kept : KeptByRenewal payload type expireTime before after)
    (phase :
      RenewalPhase env jwt drawnId secretGeneration payload type
        expireTime before after world thread)
    (backendStep :
      next.backend = (thread.program.step world.now world.backend).1) :
    RenewalPhase env jwt drawnId secretGeneration payload type expireTime
      before after next (thread.advance world.now world.backend) := by
  cases phase with
  | listed chains program idle holds =>
      rw [program] at backendStep
      refine .storing ?_ ?_
      · rw [Thread.advance_program, program]
        rfl
      · rw [backendStep]
        exact holds
  | storing program holds =>
      rw [program, BaseAuthService.storing_step] at backendStep
      by_cases positive : 0 < expireTime
      · refine .finished world.now ?_ ?_
        · rw [Thread.advance_program, program,
            BaseAuthService.storing_step, if_pos positive]
        · rw [backendStep, if_pos positive]
          exact kept.writes holds
      · refine .failed (.storeFailure .invalidExpire) ?_
        rw [Thread.advance_program, program,
          BaseAuthService.storing_step, if_neg positive]
  | finished instant program holds =>
      rw [program] at backendStep
      refine .finished instant ?_ ?_
      · rw [Thread.advance_program, program]
        rfl
      · rw [backendStep]
        exact holds
  | failed failure program =>
      refine .failed failure ?_
      rw [Thread.advance_program, program]
      rfl

/-- One action keeps the phase or moves it on. -/
theorem InRenewalPhase.step
    (kept : KeptByRenewal payload type expireTime before after)
    (inPhase :
      InRenewalPhase env jwt drawnId secretGeneration payload type
        expireTime before after world)
    {action : Action AuthOperation}
    (notInvoke : ∀ operation, action ≠ .invoke operation)
    (stepCase :
      World.StepCase (AuthOperation.behaviour env jwt) world action
        next) :
    InRenewalPhase env jwt drawnId secretGeneration payload type
      expireTime before after next := by
  obtain ⟨thread, only, phase⟩ := inPhase
  cases stepCase with
  | invoke operation => exact (notInvoke operation rfl).elim
  | tick milliseconds =>
      refine ⟨thread, only, ?_⟩
      cases phase with
      | listed chains program idle holds =>
          exact .listed chains program idle holds
      | storing program holds => exact .storing program holds
      | finished instant program holds =>
          exact .finished instant program holds
      | failed failure program => exact .failed failure program
  | @drain index key rest found =>
      have settles :
          world.backend.Settles
            { store := world.backend.store.remove key
              chains := world.backend.chains.set index rest } :=
        .drain found (.refl _)
      refine ⟨thread, only, ?_⟩
      cases phase with
      | listed chains program idle holds =>
          rw [idle] at found
          cases found
      | storing program holds =>
          exact .storing program (kept.beforeSettles holds settles)
      | finished instant program holds =>
          exact .finished instant program (kept.afterSettles holds settles)
      | failed failure program => exact .failed failure program
  | @advance index found atIndex =>
      rw [only] at atIndex
      obtain ⟨rfl, rfl⟩ := getElem?_singleton atIndex
      refine ⟨found.advance world.now world.backend, ?_, ?_⟩
      · simp only [only, List.set_cons_zero]
      · exact phase.advance kept rfl

/-- The first command of the call, on a store with nothing pending. -/
theorem InRenewalPhase.first
    {content : IdentifiedPayload}
    (typed : content.val.type = type.text)
    (refreshable : refreshToken.contains content.val.type = true)
    {start : Nat}
    {store : ExpiringStore String JsonObject}
    (scanned :
      before
        ⟨store,
          BaseAuthService.startedChains content.val false
            (BaseAuthService.existingKeys content.val store start)⟩)
    (stepCase :
      World.StepCase (AuthOperation.behaviour env jwt)
        ⟨start, ⟨store, []⟩,
          [⟨.renewToken drawnId secretGeneration content expireTime false,
            AuthOperation.behaviour env jwt
              (.renewToken drawnId secretGeneration content expireTime
                false),
            0⟩]⟩
        (.advance 0) next) :
    InRenewalPhase env jwt drawnId secretGeneration content.val type
      expireTime before after next := by
  cases stepCase with
  | advance found =>
      obtain ⟨-, rfl⟩ := getElem?_singleton found
      have first :=
        BaseAuthService.renewToken_first_step env jwt drawnId
          secretGeneration expireTime typed refreshable start ⟨store, []⟩
      refine ⟨_, rfl, ?_⟩
      by_cases outside :
          BaseAuthService.outsideRefreshWindow env content.val start = true
      · rw [if_pos outside] at first
        refine .failed
          (.unauthorizedException
            SystemCode.tokenIsNotAllowToRefresh.text) ?_
        rw [Thread.advance_program, first]
      · rw [if_neg outside] at first
        by_cases none :
            (BaseAuthService.existingKeys content.val store
              start).isEmpty = true
        · rw [if_pos none] at first
          refine .storing ?_ ?_
          · rw [Thread.advance_program, first]
          · rw [first]
            unfold BaseAuthService.startedChains at scanned
            rw [Bool.false_or, if_pos none] at scanned
            exact scanned
        · rw [if_neg none] at first
          refine .listed
            (BaseAuthService.startedChains content.val false
              (BaseAuthService.existingKeys content.val store start))
            ?_ ?_ ?_
          · rw [Thread.advance_program, first]
          · rw [first]
          · rw [first]
            exact scanned

/-- A whole schedule keeps the call in one of the phases. -/
theorem InRenewalPhase.run
    (kept : KeptByRenewal payload type expireTime before after)
    (inPhase :
      InRenewalPhase env jwt drawnId secretGeneration payload type
        expireTime before after world)
    {actions : List (Action AuthOperation)}
    (noInvoke : NoInvoke actions)
    (ran :
      world.run? (AuthOperation.behaviour env jwt) actions = some next) :
    InRenewalPhase env jwt drawnId secretGeneration payload type
      expireTime before after next := by
  refine World.run?_induction ?_ ran inPhase
  intro current later action member currentPhase stepCase
  exact currentPhase.step kept (noInvoke.notInvoke member) stepCase

end Phases

/-! ## A renewal by itself -/

/--
A call of `renewToken` on a store with no deletion pending, its first command
sent at once, and any schedule without further calls at whose end it has
returned a token and everything it started is done.
-/
structure RenewedAlone
    (env : CoreEnvironment)
    (jwt : JwtService)
    (operation : AuthOperation)
    (start : Nat)
    (store : ExpiringStore String JsonObject)
    (actions : List (Action AuthOperation))
    (final : AuthWorld)
    (jwtToken : String) : Prop where
  noInvoke : NoInvoke actions
  ran :
    World.run? (AuthOperation.behaviour env jwt)
        ⟨start, ⟨store, []⟩, []⟩
        (.invoke operation :: .advance 0 :: actions) =
      some final
  returned :
    ∀ thread ∈ final.threads,
      thread.program = .done (.ok (.token jwtToken))
  completed : ∀ chain ∈ final.backend.chains, chain = []

section Alone

variable
  {env : CoreEnvironment}
  {jwt : JwtService}
  {drawnId secretGeneration : String}
  {content : IdentifiedPayload}
  {type : TokenType}
  {expireTime : Int}
  {start : Nat}
  {store : ExpiringStore String JsonObject}
  {actions : List (Action AuthOperation)}
  {final : AuthWorld}
  {jwtToken : String}

/--
What holds before the write, from the scan on, and is kept by it and by the
deletions, holds at the end, where the token was signed at the instant of the
write.
-/
theorem RenewedAlone.outcome
    (alone :
      RenewedAlone env jwt
        (.renewToken drawnId secretGeneration content expireTime false)
        start store actions final jwtToken)
    (typed : content.val.type = type.text)
    (refreshable : refreshToken.contains content.val.type = true)
    {before : Backend String JsonObject → Prop}
    {after : Nat → Backend String JsonObject → Prop}
    (kept : KeptByRenewal content.val type expireTime before after)
    (scanned :
      before
        ⟨store,
          BaseAuthService.startedChains content.val false
            (BaseAuthService.existingKeys content.val store start)⟩) :
    ∃ instant,
      jwtToken =
          jwt.sign
            (BaseAuthService.signedClaims env
              (BaseAuthService.ensureId drawnId content.val) expireTime
              instant)
            secretGeneration ∧
        after instant final.backend := by
  obtain ⟨called, invoked, ranCalled⟩ := World.run?_cons.mp alone.ran
  cases invoked
  obtain ⟨listed, advanced, ranListed⟩ := World.run?_cons.mp ranCalled
  have listedPhase :
      InRenewalPhase env jwt drawnId secretGeneration content.val type
        expireTime before after listed :=
    .first typed refreshable scanned (World.step_cases advanced)
  obtain ⟨thread, only, phase⟩ :=
    listedPhase.run kept alone.noInvoke ranListed
  have returned : thread.program = .done (.ok (.token jwtToken)) := by
    apply alone.returned
    rw [only]
    exact List.mem_singleton_self thread
  cases phase with
  | listed chains program idle holds =>
      rw [returned] at program
      cases program
  | storing program holds =>
      rw [returned] at program
      cases program
  | finished instant program holds =>
      rw [returned] at program
      cases program
      exact ⟨instant, rfl, holds⟩
  | failed failure program =>
      rw [returned] at program
      cases program

/-- The pattern that finds the token itself takes its session along. -/
theorem RenewedAlone.session_deleted
    (alone :
      RenewedAlone env jwt
        (.renewToken drawnId secretGeneration content expireTime false)
        start store actions final jwtToken)
    (typed : content.val.type = type.text)
    (refreshable : refreshToken.contains content.val.type = true)
    (tokenLive :
      (store.read start
        (BaseAuthService.tokenKey content.val)).isSome = true)
    (matched :
      Glob.accepts (BaseAuthService.tokenPattern content.val)
        content.val.sessionBoundId = true) :
    ∃ instant,
      jwtToken =
          jwt.sign
            (BaseAuthService.signedClaims env
              (BaseAuthService.ensureId drawnId content.val) expireTime
              instant)
            secretGeneration ∧
        final.backend.store.lookup
            (BaseAuthService.sessionKey content.val) =
          none := by
  have kept :
      KeptByRenewal content.val type expireTime
        (Backend.Doomed · (BaseAuthService.sessionKey content.val))
        (fun _ =>
          (Backend.Doomed · (BaseAuthService.sessionKey content.val))) := by
    refine ⟨?_, ?_, ?_⟩
    · intro backend later doomed settles
      exact settles.doomed doomed
    · intro instant backend later doomed settles
      exact settles.doomed doomed
    · intro instant backend doomed
      have different :
          BaseAuthService.sessionKey content.val ≠
            BaseAuthService.tokenKey content.val :=
        Ne.symm (SessionService.storageKey_token_ne_session _ _ _ _)
      exact doomed.write different instant _ _
  have cleared :=
    BaseAuthService.clearChain_mem_startedChains tokenLive matched
  obtain ⟨instant, tokenShape, doomed⟩ :=
    alone.outcome typed refreshable kept
      (Or.inr ⟨_, cleared, List.mem_cons_of_mem _
        (List.mem_singleton_self _)⟩)
  exact ⟨instant, tokenShape, doomed.absent alone.completed⟩

/-- A pattern that misses the token itself leaves both of its entries. -/
theorem RenewedAlone.session_kept
    (alone :
      RenewedAlone env jwt
        (.renewToken drawnId secretGeneration content expireTime false)
        start store actions final jwtToken)
    (typed : content.val.type = type.text)
    (refreshable : refreshToken.contains content.val.type = true)
    (missed :
      Glob.accepts (BaseAuthService.tokenPattern content.val)
        content.val.sessionBoundId = false) :
    ∃ instant,
      jwtToken =
          jwt.sign
            (BaseAuthService.signedClaims env
              (BaseAuthService.ensureId drawnId content.val) expireTime
              instant)
            secretGeneration ∧
        final.backend.store.lookup
            (BaseAuthService.tokenKey content.val) =
          some {
            value := content.val.content (tokenTypeMap type)
            writtenAt := instant
            lifetime := expireTime.toNat * 1000
          } ∧
        final.backend.store.lookup
            (BaseAuthService.sessionKey content.val) =
          store.lookup (BaseAuthService.sessionKey content.val) := by
  have kept :
      KeptByRenewal content.val type expireTime
        (fun backend =>
          backend.Unmentioned (BaseAuthService.tokenKey content.val) ∧
            backend.Unmentioned
              (BaseAuthService.sessionKey content.val) ∧
            backend.store.lookup
                (BaseAuthService.sessionKey content.val) =
              store.lookup (BaseAuthService.sessionKey content.val))
        (fun instant backend =>
          backend.Unmentioned (BaseAuthService.tokenKey content.val) ∧
            backend.Unmentioned
              (BaseAuthService.sessionKey content.val) ∧
            backend.store.lookup
                (BaseAuthService.tokenKey content.val) =
              some {
                value := content.val.content (tokenTypeMap type)
                writtenAt := instant
                lifetime := expireTime.toNat * 1000
              } ∧
            backend.store.lookup
                (BaseAuthService.sessionKey content.val) =
              store.lookup
                (BaseAuthService.sessionKey content.val)) := by
    refine ⟨?_, ?_, ?_⟩
    · rintro backend later ⟨tokenFree, sessionFree, same⟩ settles
      exact ⟨settles.unmentioned tokenFree,
        settles.unmentioned sessionFree,
        (settles.lookup_other sessionFree).trans same⟩
    · rintro instant backend later ⟨tokenFree, sessionFree, written,
        same⟩ settles
      exact ⟨settles.unmentioned tokenFree,
        settles.unmentioned sessionFree,
        (settles.lookup_other tokenFree).trans written,
        (settles.lookup_other sessionFree).trans same⟩
    · rintro instant backend ⟨tokenFree, sessionFree, same⟩
      have different :
          BaseAuthService.sessionKey content.val ≠
            BaseAuthService.tokenKey content.val :=
        Ne.symm (SessionService.storageKey_token_ne_session _ _ _ _)
      refine ⟨tokenFree, sessionFree,
        ExpiringStore.lookup_write_same _ _ _ _ _, ?_⟩
      exact (ExpiringStore.lookup_write_other _ different _ _ _).trans
        same
  have started :
      ∀ chain ∈
          BaseAuthService.startedChains content.val false
            (BaseAuthService.existingKeys content.val store start),
        BaseAuthService.tokenKey content.val ∉ chain ∧
          BaseAuthService.sessionKey content.val ∉ chain := by
    intro chain member
    obtain ⟨boundId, rfl, -, matched⟩ :=
      BaseAuthService.mem_startedChains member
    apply BaseAuthService.unmentioned_clearChain
    intro same
    rw [← same, missed] at matched
    cases matched
  obtain ⟨instant, tokenShape, -, -, written, same⟩ :=
    alone.outcome typed refreshable kept
      ⟨fun chain member => (started chain member).1,
        fun chain member => (started chain member).2, rfl⟩
  exact ⟨instant, tokenShape, written, same⟩

/-- The guard for the class of the type accepts the token as before. -/
def StaysSignedIn
    (env : CoreEnvironment)
    (jwt : JwtService)
    (payload : BaseJwtPayload)
    (type : TokenType)
    (session : JsonObject)
    (jwtToken : String)
    (clock : Nat → Nat)
    (backend : Backend String JsonObject) : Prop :=
  ∃ renewed,
    (JwtGuard.canActivate env jwt
        (JwtGuard.plainParams (tokenTypeMap type))
        (.bearer jwtToken)).run clock backend =
      (backend, .ok renewed) ∧
      renewed.user.key = payload.key ∧
      renewed.user.id = payload.id ∧
      renewed.user.type = payload.type ∧
      ∀ name ∈ ["permissions", "flowSessions", "tokenIDs"],
        renewed.session name = session name

/--
Of the types that may be renewed, the guest type demands a signature that the
renewal does not give.
-/
theorem acceptsSigned_renewed_iff
    {claims : SignedClaims}
    {now later : Nat}
    (otherSecret : secretGeneration ≠ env.jwtSecret)
    (typed : claims.type = type.text)
    (refreshable : refreshToken.contains claims.type = true)
    (unexpired : (now : Int) < claims.expiresAt * 1000) :
    JwtGuard.AcceptsSigned env claims secretGeneration
        (tokenTypeMap type) now later ↔
      type = .octoWeb := by
  rw [typed] at refreshable
  unfold JwtGuard.AcceptsSigned
  rw [typed]
  cases type with
  | octoWeb =>
      refine iff_of_true ⟨Int.le_of_lt unexpired, by decide, ?_⟩ rfl
      intro demanded
      cases demanded
  | octoGuest =>
      refine iff_of_false ?_ (by decide)
      rintro ⟨-, -, signed⟩
      exact otherSecret (signed rfl).1.symm
  | user => cases refreshable
  | onboardingEmailOtp => cases refreshable
  | onboardingEmailOtpVerified => cases refreshable

/--
A renewal that keeps no other tokens leaves the user signed in exactly when the
type needs no signature and the pattern of the scan misses the very token that
is renewed.
-/
theorem RenewedAlone.staysSignedIn_iff
    (lawful : jwt.Lawful)
    (otherSecret : secretGeneration ≠ env.jwtSecret)
    {params : GuardParams}
    {request : GuardRequest}
    {before : Nat → Nat}
    {admitted : Admission}
    (accepted :
      (JwtGuard.canActivate env jwt params request).run before
          ⟨store, []⟩ =
        (⟨store, []⟩, .ok admitted))
    (isUser : content.val = admitted.user)
    (nonempty : content.val.id ≠ some "")
    (typed : content.val.type = type.text)
    (refreshable : refreshToken.contains content.val.type = true)
    (tokenLive :
      (store.read start
        (BaseAuthService.tokenKey content.val)).isSome = true)
    (alone :
      RenewedAlone env jwt
        (.renewToken drawnId secretGeneration content expireTime false)
        start store actions final jwtToken)
    {rawPayload : JsonObject}
    {expiresAt : Int}
    (decoded : jwt.decode jwtToken = some (.obj rawPayload))
    (claimed : rawPayload "exp" = some (.int expiresAt))
    {clock : Nat → Nat}
    (unexpired : (clock 0 : Int) < expiresAt * 1000)
    {session : JsonObject}
    (sessionLive :
      store.read (clock 1) (BaseAuthService.sessionKey content.val) =
        some session) :
    StaysSignedIn env jwt content.val type session jwtToken clock
        final.backend ↔
      type = .octoWeb ∧
        Glob.accepts (BaseAuthService.tokenPattern content.val)
          content.val.sessionBoundId = false := by
  obtain ⟨-, admits⟩ := JwtGuard.canActivate_run_ok _ _ _ accepted
  obtain ⟨presented, stored, -, -, checked, -, -, -⟩ :=
    JwtGuard.admission_eq_some admits
  obtain ⟨validated, -⟩ := JwtGuard.user?_eq_some checked
  obtain ⟨iatNumber, expNumber⟩ :=
    PayloadInstance.validate_optionalNumber validated
  rw [← isUser] at iatNumber expNumber
  obtain ⟨id, identified⟩ := Option.isSome_iff_exists.mp content.property
  have ownId :
      BaseAuthService.ensureId drawnId content.val = content.val := by
    refine BaseAuthService.ensureId_of_id identified ?_ drawnId
    rintro rfl
    exact nonempty identified
  cases matched :
      Glob.accepts (BaseAuthService.tokenPattern content.val)
        content.val.sessionBoundId with
  | true =>
      obtain ⟨instant, rfl, deleted⟩ :=
        alone.session_deleted typed refreshable tokenLive matched
      rw [ownId]
      have presents :=
        GuardRequest.jwtToken?_bearer
          (lawful.sign_spaceless
            (BaseAuthService.signedClaims env content.val expireTime
              instant)
            secretGeneration)
      constructor
      · rintro ⟨renewed, runs, -⟩
        rw [BaseAuthService.canActivate_issued_without_session lawful
          typed presents
          (ExpiringStore.read_of_lookup_none deleted _)] at runs
        cases runs
      · rintro ⟨-, missed⟩
        cases missed
  | false =>
      obtain ⟨instant, rfl, written, kept⟩ :=
        alone.session_kept typed refreshable matched
      rw [ownId] at decoded ⊢
      rw [lawful.decode_sign] at decoded
      cases decoded
      have expiry :
          ((instant / 1000 : Nat) : Int) + expireTime = expiresAt :=
        Json.int_injective (Option.some.inj claimed)
      have presents :=
        GuardRequest.jwtToken?_bearer
          (lawful.sign_spaceless
            (BaseAuthService.signedClaims env content.val expireTime
              instant)
            secretGeneration)
      have tokenRead :
          final.backend.store.read (clock 0)
              (BaseAuthService.tokenKey content.val) =
            some (content.val.content (tokenTypeMap type)) := by
        refine ExpiringStore.read_eq_some.mpr ⟨_, written, ?_, rfl⟩
        simp only [Entry.LiveAt, Entry.expiresAt]
        omega
      have sessionRead :
          final.backend.store.read (clock 1)
              (BaseAuthService.sessionKey content.val) =
            some session := by
        rw [ExpiringStore.read_congr kept, sessionLive]
      have decision :=
        BaseAuthService.canActivate_issued_run lawful typed
          content.property iatNumber expNumber presents tokenRead
          sessionRead
      have condition :
          JwtGuard.AcceptsSigned env
              (BaseAuthService.signedClaims env content.val expireTime
                instant)
              secretGeneration (tokenTypeMap type) (clock 0) (clock 1) ↔
            type = .octoWeb :=
        acceptsSigned_renewed_iff otherSecret typed refreshable
          (by rw [← expiry] at unexpired; exact unexpired)
      unfold StaysSignedIn
      rw [decision]
      constructor
      · rintro ⟨renewed, runs, -⟩
        refine ⟨?_, rfl⟩
        by_contra other
        rw [if_neg (fun accepts => other (condition.mp accepts))] at runs
        cases runs
      · rintro ⟨isWeb, -⟩
        rw [if_pos (condition.mpr isWeb)]
        refine ⟨_, rfl, rfl, ?_, rfl, fun name _ => rfl⟩
        simp [JwtGuard.signedUser, BaseAuthService.signedClaims,
          identified]

end Alone

namespace Sample

/-- A guarded renewal that keeps no other tokens, in a schedule of its own. -/
def renewAlone
    (instant : Nat)
    (state : Backend String JsonObject × String)
    (actions : List (Action AuthOperation)) : Option AuthWorld :=
  match ((webGuard state.2).run (fun _ => instant) state.1).2 with
  | .error _ => none
  | .ok admitted =>
      if identified : admitted.user.id.isSome = true then
        World.run? behaviour ⟨instant, state.1, []⟩
          (.invoke (.renewToken "second" "renewed"
              ⟨admitted.user, identified⟩ 10 false) ::
            .advance 0 :: actions)
      else
        none

/-- The token that a call returned. -/
def returnedToken?
    (thread : Thread AuthOperation String JsonObject Failure AuthAnswer) :
    Option String :=
  match thread.program with
  | .done (.ok (.token jwtToken)) => some jwtToken
  | _ => none

/-- A payload whose key is a pattern that does not match itself. -/
def bracketPayload : BaseJwtPayload :=
  { issuedPayload .octoWeb "first" with key := "[x]" }

/-- The store after a login in the first second with this payload. -/
def bracketStore : ExpiringStore String JsonObject :=
  BaseAuthService.writeBoth bracketPayload .octoWeb session [] 10 10 0 0 ∅

/-- The session that the login stored. -/
def bracketSession : JsonObject :=
  ((SessionService.stamp 0 (some 10)).spread
    (BaseAuthService.boundSession session bracketPayload [])).stringify

/-- The user whom a guard makes of this login. -/
def bracketUser : IdentifiedPayload :=
  ⟨JwtGuard.signedUser
    (BaseAuthService.signedClaims environment bracketPayload 10 0)
    bracketPayload, rfl⟩

end Sample

/-- A call that returned a token is done. -/
theorem program_of_returnedToken?
    {thread : Thread AuthOperation String JsonObject Failure AuthAnswer}
    {jwtToken : String}
    (returned : Sample.returnedToken? thread = some jwtToken) :
    thread.program = .done (.ok (.token jwtToken)) := by
  unfold Sample.returnedToken? at returned
  split at returned
  · rename_i token program
    cases returned
    exact program
  · cases returned

/-- The token of a key in brackets is renewed at eight seconds. -/
theorem RenewedAlone.staysSignedIn_iff_bracket :
    ∃ final jwtToken,
      RenewedAlone Sample.environment JwtService.Marked.service
        (.renewToken "second" "renewed" Sample.bracketUser 10 false) 8000
        Sample.bracketStore [.advance 0] final jwtToken ∧
        StaysSignedIn Sample.environment JwtService.Marked.service
          Sample.bracketUser.val .octoWeb Sample.bracketSession jwtToken
          (fun _ => 9000) final.backend := by
  have lawful := JwtService.Marked.lawful
  have typed :
      Sample.bracketPayload.type = TokenType.octoWeb.text := rfl
  have tokenRead (now : Nat) (live : now < 10000) :
      Sample.bracketStore.read now
          (BaseAuthService.tokenKey Sample.bracketPayload) =
        some (Sample.bracketPayload.content (tokenTypeMap .octoWeb)) :=
    ExpiringStore.read_eq_some.mpr
      ⟨_, BaseAuthService.writeBoth_token, by
        simpa [Entry.LiveAt, Entry.expiresAt] using live, rfl⟩
  have sessionRead (now : Nat) (live : now < 10000) :
      Sample.bracketStore.read now
          (BaseAuthService.sessionKey Sample.bracketPayload) =
        some Sample.bracketSession :=
    ExpiringStore.read_eq_some.mpr
      ⟨_, BaseAuthService.writeBoth_session, by
        simpa [Entry.LiveAt, Entry.expiresAt] using live, rfl⟩
  have presents :=
    GuardRequest.jwtToken?_bearer
      (lawful.sign_spaceless
        (BaseAuthService.signedClaims Sample.environment
          Sample.bracketPayload 10 0)
        "random")
  have accepted :
      ∃ admitted,
        (JwtGuard.canActivate Sample.environment JwtService.Marked.service
            (JwtGuard.plainParams (tokenTypeMap .octoWeb))
            (.bearer (JwtService.Marked.service.sign
              (BaseAuthService.signedClaims Sample.environment
                Sample.bracketPayload 10 0)
              "random"))).run (fun _ => 8000) ⟨Sample.bracketStore, []⟩ =
          (⟨Sample.bracketStore, []⟩, .ok admitted) ∧
          Sample.bracketUser.val = admitted.user := by
    rw [BaseAuthService.canActivate_issued_run lawful typed rfl rfl rfl
      presents (tokenRead 8000 (by decide)) (sessionRead 8000 (by decide)),
      if_pos (by decide)]
    exact ⟨_, rfl, rfl⟩
  obtain ⟨admitted, admits, isUser⟩ := accepted
  -- the schedule is evaluated, down to the token that the call returns
  have outcome :
      (World.run? Sample.behaviour
          ⟨8000, ⟨Sample.bracketStore, []⟩, []⟩
          [.invoke (.renewToken "second" "renewed" Sample.bracketUser 10
            false), .advance 0, .advance 0]).map
        (fun final =>
          (final.threads.map Sample.returnedToken?,
            final.backend.chains)) =
        some ([some (JwtService.Marked.service.sign
          (BaseAuthService.signedClaims Sample.environment
            Sample.bracketUser.val 10 8000) "renewed")], []) := by
    decide +kernel
  obtain ⟨final, ran, finalShape⟩ := Option.map_eq_some_iff.mp outcome
  obtain ⟨returned, chains⟩ := Prod.mk.inj finalShape
  have alone :
      RenewedAlone Sample.environment JwtService.Marked.service
        (.renewToken "second" "renewed" Sample.bracketUser 10 false) 8000
        Sample.bracketStore [.advance 0] final
        (JwtService.Marked.service.sign
          (BaseAuthService.signedClaims Sample.environment
            Sample.bracketUser.val 10 8000) "renewed") := by
    refine ⟨?_, ran, ?_, ?_⟩
    · intro operation member
      cases List.mem_singleton.mp member
    · intro thread member
      apply program_of_returnedToken?
      apply List.mem_singleton.mp
      rw [← returned]
      exact List.mem_map_of_mem member
    · rw [chains]
      intro chain member
      cases member
  have tokenLive :
      (Sample.bracketStore.read 8000
        (BaseAuthService.tokenKey Sample.bracketUser.val)).isSome =
        true :=
    congrArg Option.isSome (tokenRead 8000 (by decide))
  have staysSignedIn :
      StaysSignedIn Sample.environment JwtService.Marked.service
        Sample.bracketUser.val .octoWeb Sample.bracketSession
        (JwtService.Marked.service.sign
          (BaseAuthService.signedClaims Sample.environment
            Sample.bracketUser.val 10 8000) "renewed")
        (fun _ => 9000) final.backend :=
    (RenewedAlone.staysSignedIn_iff lawful (by decide) admits isUser
      (by decide) rfl (by decide) tokenLive alone
      (lawful.decode_sign _ _) rfl (by decide)
      (sessionRead 9000 (by decide))).mpr ⟨rfl, by decide⟩
  exact ⟨final, _, alone, staysSignedIn⟩

/--
A login at time zero and a renewal at eight seconds that keeps no other tokens:
when its deletions are done the guard turns the renewed token down.
-/
theorem RenewedAlone.renewed_user_signed_out :
    ((Sample.webLogin.run (fun _ => 0) ⟨∅, []⟩).2.toOption.bind
        fun first =>
      (Sample.renewAlone 8000
        ((Sample.webLogin.run (fun _ => 0) ⟨∅, []⟩).1, first)
        [.advance 0, .advance 0, .drain 0, .drain 0]).map fun final =>
          (final.backend.chains,
            final.threads.map fun thread =>
              (Sample.returnedToken? thread).map fun renewed =>
                ((Sample.webGuard renewed).run (fun _ => 9000)
                  final.backend).2.isOk)) =
      some ([[]], [some false]) := by
  decide +kernel

end NestBackend
