import NestBackend.AuthSystem
import NestBackend.DeletedKeys
import NestBackend.IssuingRuns
import NestBackend.SessionUpdates

namespace NestBackend

open JavaScript

/-!
# What a logout leaves behind

The guard needs the token entry and the session entry.  After the deletions of
a logout each of them can come back in one way only: the token by a renewal
that was under way, the session by a mutator that had read it before.  Either
alone is harmless; the two together undo the logout.
-/

namespace AuthOperation

/-- A renewal for this bound identifier. -/
def Renews (boundId : String) : AuthOperation → Prop
  | .renewToken _ _ content _ _ => content.val.sessionBoundId = boundId
  | _ => False

/-- A mutator on the session of this bound identifier. -/
def Mutates (boundId : String) : AuthOperation → Prop
  | .mutate key _ _ => key = boundId
  | _ => False

/-- A call that authenticates under this bound identifier. -/
def AuthenticatesAs
    (boundId : String)
    (operation : AuthOperation) : Prop :=
  operation.authenticates = true ∧
    ∃ payload,
      operation.issuedPayload? = some payload ∧
        payload.sessionBoundId = boundId

end AuthOperation

/-- Whatever the claims of the request are, they give this bound identifier. -/
def GuardRequest.Names
    (env : CoreEnvironment)
    (jwt : JwtService)
    (params : GuardParams)
    (request : GuardRequest)
    (boundId : String) : Prop :=
  ∀ now presented,
    JwtGuard.present? env jwt params request now = some presented →
    presented.sessionChannel = JwtSession.token.text ∧
      presented.sessionBoundId = boundId

/-- The claims of a signed token give what was signed. -/
theorem GuardRequest.names_of_signed
    {env : CoreEnvironment}
    {jwt : JwtService}
    {request : GuardRequest}
    {claims : SignedClaims}
    {secret : String}
    {tokenClass : TokenClass}
    (lawful : jwt.Lawful)
    (presents : request.jwtToken? = some (jwt.sign claims secret))
    (mapped : tokenTypeMap? claims.type = some tokenClass) :
    request.Names env jwt (JwtGuard.plainParams tokenClass)
      (claims.key ++ ":" ++ claims.id) := by
  intro now presented found
  rw [JwtGuard.present?_signed lawful presents mapped] at found
  split at found
  · cases found
    exact JwtGuard.names_signed
  · cases found

/-- A check that starts from this position on does not accept. -/
def Rejected
    (env : CoreEnvironment)
    (jwt : JwtService)
    (boundId : String)
    (first : Nat)
    (index : Nat)
    (operation : AuthOperation)
    (outcome : Except Failure AuthAnswer) : Prop :=
  match operation with
  | .check params request =>
      first ≤ index →
      request.Names env jwt params boundId →
      ∃ failure, outcome = .error failure
  | _ => True

section Contracts

variable
  {env : CoreEnvironment}
  {jwt : JwtService}
  {rely guarantee : String → JsonObject → Prop}

/-- Without one of the two entries the guard rejects. -/
theorem JwtGuard.canActivate_rejects
    {params : GuardParams}
    {request : GuardRequest}
    (missing :
      ∀ now presented,
        present? env jwt params request now = some presented →
        ∃ service : SessionService,
          ∀ value, ¬ rely (presented.storageKey service) value) :
    (canActivate env jwt params request).Satisfies rely guarantee
      (fun outcome => ∃ failure, outcome = .error failure) := by
  rw [canActivate_eq]
  intro now
  simp only
  cases found : present? env jwt params request now with
  | none => exact ⟨_, rfl⟩
  | some presented =>
      obtain ⟨service, absent⟩ := missing now presented found
      intro reply relied
      match reply with
      | .error error => exact ⟨_, rfl⟩
      | .ok none => exact ⟨_, rfl⟩
      | .ok (some content) =>
          cases service with
          | token => exact (absent content (relied content rfl)).elim
          | session =>
              intro later
              simp only
              cases user? env jwt params presented content later with
              | none => exact ⟨_, rfl⟩
              | some user =>
                  intro reply relied
                  match reply with
                  | .error error => exact ⟨_, rfl⟩
                  | .ok none => exact ⟨_, rfl⟩
                  | .ok (some session) =>
                      exact (absent session (relied session rfl)).elim

variable {boundId : String} {operation : AuthOperation}

/-- Who issues under this bound identifier renews or authenticates. -/
theorem AuthOperation.renews_or_authenticatesAs
    {payload : BaseJwtPayload}
    (issued : operation.issuedPayload? = some payload)
    (bound : payload.sessionBoundId = boundId) :
    operation.Renews boundId ∨ operation.AuthenticatesAs boundId := by
  cases operation with
  | authenticate => exact Or.inr ⟨rfl, payload, issued, bound⟩
  | authenticateWithHardSecret =>
      exact Or.inr ⟨rfl, payload, issued, bound⟩
  | renewToken =>
      cases issued
      exact Or.inl bound
  | logout => cases issued
  | mutate => cases issued
  | check => cases issued

/-- Of those that do not authenticate, only renewals write its token entry. -/
theorem AuthOperation.avoids_token
    (notAuthenticates : ¬ operation.AuthenticatesAs boundId) :
    (operation.behaviour env jwt).Satisfies rely
      (fun query _ =>
        operation.Renews boundId ∨ query ≠ boundKey .token boundId)
      (fun _ => True) := by
  apply operation.behaviour_contract
  · intro payload content issued now seconds built
    by_cases bound : payload.sessionBoundId = boundId
    · exact Or.inl ((renews_or_authenticatesAs issued bound).resolve_right
        notAuthenticates)
    · right
      rw [payload.sessionChannel.eq_token]
      exact fun same => bound (SessionService.storageKey_injective same)
  · intro payload session issued _ earlier now seconds
    right
    exact fun same =>
      SessionService.storageKey_token_ne_session _ _ _ _ same.symm
  · intro key sessionType mutator session value _ now seconds _ _
    right
    exact fun same =>
      SessionService.storageKey_token_ne_session _ _ _ _ same.symm

/-- And only mutators its session entry, after they have read one. -/
theorem AuthOperation.avoids_session
    (notAuthenticates : ¬ operation.AuthenticatesAs boundId) :
    (operation.behaviour env jwt).Satisfies rely
      (fun query _ =>
        (operation.Mutates boundId ∧
            ∃ value, rely (boundKey .session boundId) value) ∨
          query ≠ boundKey .session boundId)
      (fun _ => True) := by
  apply operation.behaviour_contract
  · intro payload content issued now seconds built
    right
    exact SessionService.storageKey_token_ne_session _ _ _ _
  · intro payload session issued authenticates earlier now seconds
    right
    rw [payload.sessionChannel.eq_token]
    intro same
    exact notAuthenticates ⟨authenticates, payload, issued,
      SessionService.storageKey_injective same⟩
  · intro key sessionType mutator session value isMutate now seconds relied _
    rw [sessionType.eq_token] at relied ⊢
    by_cases bound : key = boundId
    · subst bound
      exact Or.inl ⟨by rw [isMutate]; rfl, session, relied⟩
    · right
      exact fun same => bound (SessionService.storageKey_injective same)

/-- A check that finds one of the two keys absent rejects. -/
theorem AuthOperation.check_rejected
    (service : SessionService)
    (params : GuardParams)
    (request : GuardRequest)
    (first index : Nat) :
    ((AuthOperation.check params request).behaviour env jwt).Satisfies
      (fun query _ => query ≠ boundKey service boundId) guarantee
      (Rejected env jwt boundId first index
        (.check params request)) := by
  by_cases names : request.Names env jwt params boundId
  · apply StoreProgram.Satisfies.bind
    have rejects :
        (JwtGuard.canActivate env jwt params request).Satisfies
          (fun query _ => query ≠ boundKey service boundId) guarantee
          (fun outcome => ∃ failure, outcome = .error failure) := by
      apply JwtGuard.canActivate_rejects
      intro now presented found
      obtain ⟨channel, bound⟩ := names now presented found
      refine ⟨service, ?_⟩
      intro value different
      apply different
      unfold PresentedToken.storageKey
      rw [channel, bound]
      rfl
    refine rejects.mono (fun same => same) (fun same => same) ?_
    rintro outcome ⟨failure, rfl⟩
    intro _ _
    exact ⟨failure, rfl⟩
  · apply StoreProgram.Satisfies.bind
    apply JwtGuard.canActivate_satisfies
    intro outcome
    cases outcome with
    | ok admission => exact fun _ names' => (names names').elim
    | error failure => exact fun _ names' => (names names').elim

/-- So every call that keeps a key absent does so with checks that reject. -/
theorem AuthOperation.rejected
    {service : SessionService}
    (avoids :
      (operation.behaviour env jwt).Satisfies
        (fun query _ => query ≠ boundKey service boundId)
        (fun query _ => query ≠ boundKey service boundId)
        (fun _ => True))
    (first index : Nat) :
    (operation.behaviour env jwt).Satisfies
      (fun query _ => query ≠ boundKey service boundId)
      (fun query _ => query ≠ boundKey service boundId)
      (Rejected env jwt boundId first index operation) := by
  cases operation with
  | check params request => exact check_rejected service params request _ _
  | _ => exact avoids.mono (fun same => same) (fun same => same) id

end Contracts

/-! ## The two deletions of a logout -/

/--
A logout in a schedule: the call has not begun, sends its first deletion, and
later its second one, with which it completes.  Before the schedule there are
no calls; the store is arbitrary.
-/
structure LogoutRun
    (env : CoreEnvironment)
    (jwt : JwtService)
    (content : IdentifiedPayload)
    (index : Nat)
    (start : AuthWorld)
    (before between : List (Action AuthOperation))
    (tokenDeleted completed : AuthWorld) : Prop where
  fresh : start.threads = []
  deletes :
    ∃ entered,
      start.run? (AuthOperation.behaviour env jwt) before =
          some entered ∧
        entered.threads[index]? =
          some ⟨.logout content,
            (AuthOperation.logout content).behaviour env jwt, 0⟩ ∧
        entered.step (AuthOperation.behaviour env jwt)
            (.advance index) =
          some tokenDeleted
  waits : .advance index ∉ between
  completes :
    ∃ waiting,
      tokenDeleted.run? (AuthOperation.behaviour env jwt) between =
          some waiting ∧
        waiting.step (AuthOperation.behaviour env jwt)
            (.advance index) =
          some completed

section Runs

variable
  {env : CoreEnvironment}
  {jwt : JwtService}
  {content : IdentifiedPayload}
  {index : Nat}
  {start tokenDeleted completed final : AuthWorld}
  {before between later : List (Action AuthOperation)}

/-- A logout is its two deletions. -/
theorem logout_behaviour
    (env : CoreEnvironment)
    (jwt : JwtService)
    (content : IdentifiedPayload) :
    (AuthOperation.logout content).behaviour env jwt =
      .del (boundKey .token content.val.sessionBoundId) fun reply =>
        match reply with
        | .ok _ =>
            .del (boundKey .session content.val.sessionBoundId)
              fun later =>
                match later with
                | .ok _ => .done (.ok .loggedOut)
                | .error error => .done (.error (.storeFailure error))
        | .error error => .done (.error (.storeFailure error)) := by
  simp only [AuthOperation.behaviour, BaseAuthService.logout_eq,
    StoreProgram.del_bind, content.val.sessionChannel.eq_token, boundKey]
  congr 1
  funext reply
  cases reply with
  | error error => rfl
  | ok count =>
      simp only [StoreProgram.del_bind]
      congr 1
      funext later
      cases later with
      | ok laterCount => rfl
      | error error => rfl

/-- An action of one call, spelled out. -/
theorem step_advance
    {world after : AuthWorld}
    {thread : Thread AuthOperation String JsonObject Failure AuthAnswer}
    (found : world.threads[index]? = some thread)
    (stepped :
      world.step (AuthOperation.behaviour env jwt) (.advance index) =
        some after) :
    after =
      { world with
        backend := (thread.program.step world.now world.backend).1
        threads :=
          world.threads.set index
            (thread.advance world.now world.backend) } := by
  simp only [World.step, found] at stepped
  exact (Option.some.inj stepped).symm

/-- The token entry is gone after the first deletion. -/
theorem LogoutRun.token_absent
    (logsOut :
      LogoutRun env jwt content index start before between tokenDeleted
        completed) :
    tokenDeleted.backend.store.lookup
        (boundKey .token content.val.sessionBoundId) =
      none := by
  obtain ⟨entered, -, found, stepped⟩ := logsOut.deletes
  rw [step_advance found stepped, logout_behaviour]
  exact ExpiringStore.lookup_remove_same _ _

/-- The session entry is gone after the second deletion. -/
theorem LogoutRun.session_absent
    (logsOut :
      LogoutRun env jwt content index start before between tokenDeleted
        completed) :
    completed.backend.store.lookup
        (boundKey .session content.val.sessionBoundId) =
      none := by
  obtain ⟨entered, -, found, stepped⟩ := logsOut.deletes
  obtain ⟨waiting, ran, completes⟩ := logsOut.completes
  have halfway :
      tokenDeleted.threads[index]? =
        some (Thread.advance ⟨.logout content,
          (AuthOperation.logout content).behaviour env jwt, 0⟩
            entered.now entered.backend) := by
    rw [step_advance found stepped]
    exact List.getElem?_set_self (List.getElem?_eq_some_iff.mp found).1
  have still := World.thread_kept logsOut.waits ran halfway
  rw [step_advance still completes, Thread.advance_program,
    logout_behaviour]
  exact ExpiringStore.lookup_remove_same _ _

/-- How far a logout has come, and by which actions. -/
inductive LogoutStage
    (env : CoreEnvironment)
    (jwt : JwtService)
    (content : IdentifiedPayload)
    (index : Nat)
    (start : AuthWorld)
    (actions : List (Action AuthOperation))
    (world : AuthWorld) :
    Thread AuthOperation String JsonObject Failure AuthAnswer → Prop where
  | entered
      (ran :
        start.run? (AuthOperation.behaviour env jwt) actions =
          some world) :
      LogoutStage env jwt content index start actions world
        ⟨.logout content, (AuthOperation.logout content).behaviour env jwt,
          0⟩
  | deleting
      {before between : List (Action AuthOperation)}
      {entered tokenDeleted : AuthWorld}
      (split : actions = before ++ .advance index :: between)
      (ran :
        start.run? (AuthOperation.behaviour env jwt) before =
          some entered)
      (found :
        entered.threads[index]? =
          some ⟨.logout content,
            (AuthOperation.logout content).behaviour env jwt, 0⟩)
      (stepped :
        entered.step (AuthOperation.behaviour env jwt)
            (.advance index) =
          some tokenDeleted)
      (waits : .advance index ∉ between)
      (ranBetween :
        tokenDeleted.run? (AuthOperation.behaviour env jwt) between =
          some world) :
      LogoutStage env jwt content index start actions world
        (Thread.advance
          ⟨.logout content,
            (AuthOperation.logout content).behaviour env jwt, 0⟩
          entered.now entered.backend)
  | completed
      {before between later : List (Action AuthOperation)}
      {tokenDeleted completed : AuthWorld}
      {thread :
        Thread AuthOperation String JsonObject Failure AuthAnswer}
      (split :
        actions =
          before ++ .advance index :: between ++ .advance index :: later)
      (logsOut :
        LogoutRun env jwt content index start before between tokenDeleted
          completed)
      (ranLater :
        completed.run? (AuthOperation.behaviour env jwt) later =
          some world) :
      LogoutStage env jwt content index start actions world thread

/-- One more action. -/
theorem run?_concat
    {world next : AuthWorld}
    {actions : List (Action AuthOperation)}
    {action : Action AuthOperation}
    (ran :
      start.run? (AuthOperation.behaviour env jwt) actions = some world)
    (stepped :
      world.step (AuthOperation.behaviour env jwt) action = some next) :
    start.run? (AuthOperation.behaviour env jwt) (actions ++ [action]) =
      some next :=
  World.run?_append.mpr
    ⟨world, ran, World.run?_cons.mpr ⟨next, stepped, rfl⟩⟩

/-- Another action takes a logout no further. -/
theorem LogoutStage.other
    {world next : AuthWorld}
    {actions : List (Action AuthOperation)}
    {action : Action AuthOperation}
    {thread : Thread AuthOperation String JsonObject Failure AuthAnswer}
    (stage :
      LogoutStage env jwt content index start actions world thread)
    (stepped :
      world.step (AuthOperation.behaviour env jwt) action = some next)
    (otherAction : action ≠ .advance index) :
    LogoutStage env jwt content index start (actions ++ [action]) next
      thread := by
  cases stage with
  | entered ran => exact .entered (run?_concat ran stepped)
  | @deleting before between _ _ split ran found deletes waits
      ranBetween =>
      refine .deleting (by rw [split]; simp) ran found deletes ?_
        (run?_concat ranBetween stepped)
      intro member
      rcases List.mem_append.mp member with earlier | last
      · exact waits earlier
      · exact otherAction (List.mem_singleton.mp last).symm
  | completed split logsOut ranLater =>
      exact .completed (by rw [split]; simp) logsOut
        (run?_concat ranLater stepped)

/-- An action of the logout itself takes it to the next stage. -/
theorem LogoutStage.own
    {world next : AuthWorld}
    {actions : List (Action AuthOperation)}
    {thread : Thread AuthOperation String JsonObject Failure AuthAnswer}
    (fresh : start.threads = [])
    (stage :
      LogoutStage env jwt content index start actions world thread)
    (found : world.threads[index]? = some thread)
    (stepped :
      world.step (AuthOperation.behaviour env jwt) (.advance index) =
        some next) :
    LogoutStage env jwt content index start (actions ++ [.advance index])
      next (thread.advance world.now world.backend) := by
  cases stage with
  | entered ran =>
      exact .deleting rfl ran found stepped (by simp) rfl
  | deleting split ran enteredFound deletes waits ranBetween =>
      have logsOut :
          LogoutRun env jwt content index start _ _ _ next :=
        ⟨fresh, ⟨_, ran, enteredFound, deletes⟩, waits,
          ⟨world, ranBetween, stepped⟩⟩
      exact .completed (by rw [split]) logsOut rfl
  | completed split logsOut ranLater =>
      exact .completed (by rw [split]; simp) logsOut
        (run?_concat ranLater stepped)

/-- In every run a logout is at one of the stages. -/
theorem logoutStage_of_run
    (fresh : start.threads = [])
    {actions : List (Action AuthOperation)}
    {world : AuthWorld}
    (ran :
      start.run? (AuthOperation.behaviour env jwt) actions = some world)
    {thread : Thread AuthOperation String JsonObject Failure AuthAnswer}
    (found : world.threads[index]? = some thread)
    (isLogout : thread.operation = .logout content) :
    LogoutStage env jwt content index start actions world thread := by
  induction actions using List.reverseRecOn generalizing world thread with
  | nil =>
      cases ran
      rw [fresh] at found
      cases found
  | append_singleton earlier action inductionHypothesis =>
      obtain ⟨middle, ranEarlier, ranLast⟩ := World.run?_append.mp ran
      obtain ⟨next, stepped, ended⟩ := World.run?_cons.mp ranLast
      cases ended
      rcases (World.step_cases stepped).thread_cases found with
        ⟨same, otherAction⟩ | ⟨before, beforeFound, rfl, rfl⟩ |
        ⟨operation, rfl, rfl⟩
      · exact (inductionHypothesis ranEarlier same isLogout).other stepped
          otherAction
      · exact (inductionHypothesis ranEarlier beforeFound isLogout).own
          fresh beforeFound stepped
      · cases isLogout
        exact .entered ran

/-- Every run in which a logout has completed went through its deletions. -/
theorem LogoutRun.of_completed
    (fresh : start.threads = [])
    {actions : List (Action AuthOperation)}
    {world : AuthWorld}
    (ran :
      start.run? (AuthOperation.behaviour env jwt) actions = some world)
    {outcome : Except Failure AuthAnswer}
    {commands : Nat}
    (found :
      world.threads[index]? =
        some ⟨.logout content, .done outcome, commands⟩) :
    ∃ before between later tokenDeleted completed,
      actions =
          before ++ .advance index :: between ++ .advance index ::
            later ∧
        LogoutRun env jwt content index start before between tokenDeleted
          completed ∧
        completed.run? (AuthOperation.behaviour env jwt) later =
          some world := by
  have stage := logoutStage_of_run fresh ran found rfl
  generalize isThread :
    (⟨.logout content, .done outcome, commands⟩ :
      Thread AuthOperation String JsonObject Failure AuthAnswer) =
        thread at stage
  cases stage with
  | entered =>
      have program := congrArg Thread.program isThread
      rw [logout_behaviour] at program
      cases program
  | deleting =>
      have program := congrArg Thread.program isThread
      rw [Thread.advance_program, logout_behaviour] at program
      cases program
  | completed split logsOut ranLater =>
      exact ⟨_, _, _, _, _, split, logsOut, ranLater⟩

/-! ## The calls before the deletions -/

/-- A mutator that has sent no command has done nothing. -/
def MutatorsIdle
    (env : CoreEnvironment)
    (jwt : JwtService)
    (world : AuthWorld) : Prop :=
  ∀ thread ∈ world.threads,
    ∀ boundId,
      thread.operation.Mutates boundId →
      thread.commands = 0 →
      thread.program = thread.operation.behaviour env jwt

/-- The first step of a mutator is its read, if it is not refused. -/
theorem mutator_first_step
    {operation : AuthOperation}
    {boundId : String}
    (mutates : operation.Mutates boundId)
    (now : Nat)
    (backend : Backend String JsonObject)
    (silent : (operation.behaviour env jwt).commands now = false) :
    ((operation.behaviour env jwt).step now backend).2 =
      operation.behaviour env jwt := by
  cases operation with
  | mutate key sessionType mutator =>
      rcases mutator.behaviour_cases env jwt key sessionType with
        ⟨failure, refused⟩ | reads
      · rw [refused]
        rfl
      · rw [reads] at silent
        cases silent
  | _ => cases mutates

/-- So it is in every reachable world. -/
theorem mutatorsIdle_of_run
    {world after : AuthWorld}
    {actions : List (Action AuthOperation)}
    (idle : MutatorsIdle env jwt world)
    (ran :
      world.run? (AuthOperation.behaviour env jwt) actions =
        some after) :
    MutatorsIdle env jwt after := by
  refine World.run?_induction ?_ ran idle
  intro current next action _ currentIdle stepCase
  cases stepCase with
  | tick milliseconds => exact currentIdle
  | drain found => exact currentIdle
  | invoke operation =>
      intro thread member boundId mutates silent
      rcases List.mem_append.mp member with old | new
      · exact currentIdle thread old boundId mutates silent
      · rw [List.mem_singleton.mp new]
  | @advance moved thread found =>
      intro other member boundId mutates silent
      rcases World.mem_set_cases member with isAdvanced | old
      · subst isAdvanced
        rw [Thread.advance_operation] at mutates ⊢
        simp only [Thread.advance] at silent
        obtain ⟨wasSilent, isSilent⟩ := Nat.add_eq_zero_iff.mp silent
        have initial :=
          currentIdle thread (List.mem_of_getElem? found) boundId mutates
            wasSilent
        have noCommand :
            (thread.operation.behaviour env jwt).commands current.now =
              false := by
          rw [initial] at isSilent
          cases sends :
              (thread.operation.behaviour env jwt).commands current.now with
          | false => rfl
          | true =>
              rw [if_pos sends] at isSilent
              cases isSilent
        rw [Thread.advance_program, initial]
        exact mutator_first_step mutates current.now current.backend
          noCommand
      · exact currentIdle other old boundId mutates silent

/-- The whole way to a world of a logout. -/
theorem LogoutRun.reaches
    (logsOut :
      LogoutRun env jwt content index start before between tokenDeleted
        completed) :
    start.run? (AuthOperation.behaviour env jwt)
          (before ++ [.advance index]) =
        some tokenDeleted ∧
      tokenDeleted.run? (AuthOperation.behaviour env jwt)
          (between ++ [.advance index]) =
        some completed := by
  obtain ⟨entered, ranBefore, -, deletes⟩ := logsOut.deletes
  obtain ⟨waiting, ranBetween, completes⟩ := logsOut.completes
  constructor
  · exact World.run?_append.mpr ⟨entered, ranBefore,
      World.run?_cons.mpr ⟨tokenDeleted, deletes, rfl⟩⟩
  · exact World.run?_append.mpr ⟨waiting, ranBetween,
      World.run?_cons.mpr ⟨completed, completes, rfl⟩⟩

/-- Calls meet their contract when they are reached from a world without. -/
theorem contracts_of_run
    (guarantee : AuthOperation → String → JsonObject → Prop)
    {world after : AuthWorld}
    {actions : List (Action AuthOperation)}
    (fresh : world.threads = [])
    (contract :
      ∀ operation,
        .invoke operation ∈ actions →
        (operation.behaviour env jwt).Satisfies (fun _ _ => True)
          (guarantee operation) (fun _ => True))
    (ran :
      world.run? (AuthOperation.behaviour env jwt) actions =
        some after) :
    ∀ thread ∈ after.threads,
      thread.program.Satisfies (fun _ _ => True)
        (guarantee thread.operation) (fun _ => True) := by
  have initially :
      world.Abides (fun _ _ => True) guarantee (fun _ _ => True) := by
    refine ⟨fun _ _ _ => trivial, ?_⟩
    intro thread member
    rw [fresh] at member
    cases member
  exact (initially.run (fun _ => trivial) contract ran).threads

/-! ## Both entries have to come back -/

/-- A key that stays absent is one that no later check gets past. -/
theorem not_withheld_of_accepted
    {key boundId : String}
    {writer : Nat → AuthOperation → Prop}
    {first position commands : Nat}
    {params : GuardParams}
    {request : GuardRequest}
    {admitted : AuthAnswer}
    (noWriter :
      ¬ writer position (.check params request))
    (starts : first ≤ position)
    (names : request.Names env jwt params boundId)
    (accepted :
      final.threads[position]? =
        some ⟨.check params request, .done (.ok admitted), commands⟩) :
    ¬ final.Withheld key writer (Rejected env jwt boundId first) := by
  intro withheld
  rcases withheld.threads position _ accepted with isWriter | satisfies
  · exact noWriter isWriter
  · obtain ⟨failure, rejected⟩ := satisfies starts names
    cases rejected

/-- What a call that was there before the logout completed ensures. -/
theorem Rejected.of_earlier
    {boundId : String}
    {first position : Nat}
    (earlier : position < first)
    (operation : AuthOperation)
    (outcome : Except Failure AuthAnswer) :
    Rejected env jwt boundId first position operation outcome := by
  cases operation with
  | check params request =>
      exact fun starts => (Nat.not_le_of_lt earlier starts).elim
  | _ => trivial

/-- After the first deletion only renewals bring the token back. -/
theorem LogoutRun.token_withheld
    (logsOut :
      LogoutRun env jwt content index start before between tokenDeleted
        completed)
    (freshIds :
      ∀ operation,
        .invoke operation ∈ before →
        ¬ operation.AuthenticatesAs content.val.sessionBoundId) :
    tokenDeleted.Withheld
      (boundKey .token content.val.sessionBoundId)
      (fun _ operation => operation.Renews content.val.sessionBoundId)
      (Rejected env jwt content.val.sessionBoundId
        completed.threads.length) := by
  obtain ⟨toTokenDelete, toCompletion⟩ := logsOut.reaches
  refine ⟨logsOut.token_absent, ?_⟩
  have contracts :
      ∀ thread ∈ tokenDeleted.threads,
        thread.program.Satisfies (fun _ _ => True)
          (fun query _ =>
            thread.operation.Renews content.val.sessionBoundId ∨
              query ≠ boundKey .token content.val.sessionBoundId)
          (fun _ => True) := by
    refine contracts_of_run
      (fun operation query _ =>
        operation.Renews content.val.sessionBoundId ∨
          query ≠ boundKey .token content.val.sessionBoundId)
      logsOut.fresh ?_ toTokenDelete
    intro operation member
    apply operation.avoids_token
    apply freshIds operation
    simpa using member
  intro position thread found
  by_cases renews :
      thread.operation.Renews content.val.sessionBoundId
  · exact Or.inl renews
  · right
    have inside : position < tokenDeleted.threads.length :=
      (List.getElem?_eq_some_iff.mp found).1
    have earlier : position < completed.threads.length :=
      Nat.lt_of_lt_of_le inside (World.length_le toCompletion)
    exact (contracts thread (List.mem_of_getElem? found)).mono
      (fun _ => trivial) (fun permitted => permitted.resolve_left renews)
      (fun _ => Rejected.of_earlier earlier _ _)

/-- After the second one only mutators that have read bring the session back. -/
theorem LogoutRun.session_withheld
    (logsOut :
      LogoutRun env jwt content index start before between tokenDeleted
        completed)
    (freshIds :
      ∀ operation,
        .invoke operation ∈ before ++ between →
        ¬ operation.AuthenticatesAs content.val.sessionBoundId) :
    completed.Withheld
      (boundKey .session content.val.sessionBoundId)
      (fun position operation =>
        operation.Mutates content.val.sessionBoundId ∧
          ∃ thread,
            completed.threads[position]? = some thread ∧
              0 < thread.commands)
      (Rejected env jwt content.val.sessionBoundId
        completed.threads.length) := by
  obtain ⟨toTokenDelete, toCompletion⟩ := logsOut.reaches
  have whole := World.run?_append.mpr
    ⟨tokenDeleted, toTokenDelete, toCompletion⟩
  refine ⟨logsOut.session_absent, ?_⟩
  have fresh :
      ∀ operation,
        .invoke operation ∈
            before ++ [.advance index] ++ (between ++ [.advance index]) →
        ¬ operation.AuthenticatesAs content.val.sessionBoundId := by
    intro operation member
    apply freshIds operation
    simpa using member
  have contracts :
      ∀ thread ∈ completed.threads,
        thread.program.Satisfies (fun _ _ => True)
          (fun query _ =>
            (thread.operation.Mutates content.val.sessionBoundId ∧
                ∃ _ : JsonObject, True) ∨
              query ≠ boundKey .session content.val.sessionBoundId)
          (fun _ => True) := by
    refine contracts_of_run
      (fun operation query _ =>
        (operation.Mutates content.val.sessionBoundId ∧
            ∃ _ : JsonObject, True) ∨
          query ≠ boundKey .session content.val.sessionBoundId)
      logsOut.fresh ?_ whole
    intro operation member
    exact operation.avoids_session (fresh operation member)
  have idle : MutatorsIdle env jwt completed := by
    refine mutatorsIdle_of_run ?_ whole
    intro thread member
    rw [logsOut.fresh] at member
    cases member
  intro position thread found
  have inside : position < completed.threads.length :=
    (List.getElem?_eq_some_iff.mp found).1
  by_cases mutates :
      thread.operation.Mutates content.val.sessionBoundId
  · rcases Nat.eq_zero_or_pos thread.commands with silent | sent
    · right
      rw [idle thread (List.mem_of_getElem? found) _ mutates silent]
      have notAuthenticates :
          ¬ thread.operation.AuthenticatesAs
            content.val.sessionBoundId := by
        rintro ⟨authenticates, -⟩
        cases operation : thread.operation with
        | mutate key sessionType mutator =>
            rw [operation] at authenticates
            cases authenticates
        | _ =>
            rw [operation] at mutates
            cases mutates
      refine (thread.operation.avoids_session notAuthenticates).mono
        (fun same => same) ?_ (fun _ => Rejected.of_earlier inside _ _)
      intro query value permitted
      rcases permitted with ⟨-, value, relied⟩ | different
      · exact (relied rfl).elim
      · exact different
    · exact Or.inl ⟨mutates, thread, found, sent⟩
  · right
    exact (contracts thread (List.mem_of_getElem? found)).mono
      (fun _ => trivial)
      (fun permitted =>
        permitted.resolve_left (fun both => mutates both.1))
      (fun _ => Rejected.of_earlier inside _ _)

/--
If a check that starts after a logout accepts a token of the bound identifier
that was logged out, then both entries came back: a renewal wrote the token
after the first deletion, and a mutator that had read the session before the
second deletion wrote it after that.
-/
theorem logout_undone
    (logsOut :
      LogoutRun env jwt content index start before between tokenDeleted
        completed)
    (ran :
      completed.run? (AuthOperation.behaviour env jwt) later =
        some final)
    (freshIds :
      ∀ operation,
        .invoke operation ∈ before ++ between ++ later →
        ¬ operation.AuthenticatesAs content.val.sessionBoundId)
    {params : GuardParams}
    {request : GuardRequest}
    {position commands : Nat}
    {admitted : AuthAnswer}
    (starts : completed.threads.length ≤ position)
    (names :
      request.Names env jwt params content.val.sessionBoundId)
    (accepted :
      final.threads[position]? =
        some ⟨.check params request, .done (.ok admitted), commands⟩) :
    tokenDeleted.RestoredBy (AuthOperation.behaviour env jwt)
        (boundKey .token content.val.sessionBoundId)
        (fun _ operation =>
          operation.Renews content.val.sessionBoundId)
        (between ++ [.advance index] ++ later) ∧
      completed.RestoredBy (AuthOperation.behaviour env jwt)
        (boundKey .session content.val.sessionBoundId)
        (fun position operation =>
          operation.Mutates content.val.sessionBoundId ∧
            ∃ thread,
              completed.threads[position]? = some thread ∧
                0 < thread.commands)
        later := by
  have toCompletion := logsOut.reaches.2
  constructor
  · have withheld := logsOut.token_withheld (fun operation member =>
      freshIds operation (List.mem_append_left _
        (List.mem_append_left _ member)))
    have wholeRan := World.run?_append.mpr ⟨completed, toCompletion, ran⟩
    refine (withheld.run ?_ wholeRan).resolve_left ?_
    · intro operation position member
      by_cases renews : operation.Renews content.val.sessionBoundId
      · exact Or.inl renews
      · right
        apply AuthOperation.rejected
        refine (operation.avoids_token (freshIds operation ?_)).mono
          (fun same => same)
          (fun permitted => permitted.resolve_left renews) id
        simp only [List.mem_append, List.mem_singleton, reduceCtorEq,
          or_false] at member ⊢
        tauto
    · exact not_withheld_of_accepted id starts names accepted
  · have withheld := logsOut.session_withheld (fun operation member =>
      freshIds operation (List.mem_append_left _ member))
    refine (withheld.run ?_ ran).resolve_left ?_
    · intro operation position member
      right
      apply AuthOperation.rejected
      refine (operation.avoids_session (freshIds operation
        (List.mem_append_right _ member))).mono (fun same => same) ?_ id
      intro query value permitted
      rcases permitted with ⟨-, value, relied⟩ | different
      · exact (relied rfl).elim
      · exact different
    · exact not_withheld_of_accepted (fun both => both.1) starts names
        accepted

end Runs

namespace Sample

/-- The store after a login of a web user in the first second. -/
def webStore : ExpiringStore String JsonObject :=
  BaseAuthService.writeBoth (issuedPayload .octoWeb "first") .octoWeb
    session [] 10 10 0 0 ∅

/-- The user whom a guard makes of this login. -/
def webUser : IdentifiedPayload :=
  ⟨JwtGuard.signedUser (claims .octoWeb "first" 10)
    (issuedPayload .octoWeb "first"), rfl⟩

/-- The world at eight seconds, before any further call. -/
def atEightSeconds : AuthWorld where
  now := 8000
  backend := ⟨webStore, []⟩
  threads := []

/-- A grant, a renewal and a logout of the same user. -/
def threeCalls : List (Action AuthOperation) :=
  [.invoke (.mutate "alice:first" .token (.addPermissions [.otpVerified])),
    .invoke (.renewToken "second" "renewed" webUser 10 false),
    .invoke (.logout webUser)]

/-- The grant has read; the renewal has scanned and its deletions are done. -/
def underWay : List (Action AuthOperation) :=
  [.advance 0, .advance 1, .advance 1, .drain 0, .drain 0]

/-- The guard for this type of token. -/
def webParams : GuardParams :=
  JwtGuard.plainParams .octoWebJwtPayload

/-- A request with the token of the login. -/
def webRequest : GuardRequest :=
  .bearer (loginToken .octoWeb "first")

/-- The two deletions of the logout, one right after the other. -/
def loggedOut : List (Action AuthOperation) :=
  threeCalls ++ underWay ++ [.advance 2] ++ [.advance 2]

/-- Both of the others go on after the logout. -/
def bothGoOn : List (Action AuthOperation) := [.advance 1, .advance 0]

/-- A check after all of that. -/
def thenCheck : List (Action AuthOperation) :=
  [.invoke (.check webParams webRequest), .advance 3, .advance 3]

/-- The world that a schedule leads to. -/
def afterEightSeconds (actions : List (Action AuthOperation)) : AuthWorld :=
  (atEightSeconds.run? behaviour actions).getD atEightSeconds

/-- The call at this position has succeeded. -/
def succeededAfter
    (actions : List (Action AuthOperation))
    (position : Nat) : Bool :=
  match (afterEightSeconds actions).threads[position]? with
  | some ⟨_, .done (.ok _), _⟩ => true
  | _ => false

/-- A schedule that goes through leads to its world. -/
theorem run_afterEightSeconds
    {actions : List (Action AuthOperation)}
    (enabled :
      (atEightSeconds.run? behaviour actions).isSome = true) :
    atEightSeconds.run? behaviour actions =
      some (afterEightSeconds actions) := by
  obtain ⟨world, ran⟩ := Option.isSome_iff_exists.mp enabled
  unfold afterEightSeconds
  rw [ran]
  rfl

/-- So does the rest of a schedule. -/
theorem run_between
    {first second : List (Action AuthOperation)}
    (enabled :
      (atEightSeconds.run? behaviour (first ++ second)).isSome = true) :
    (afterEightSeconds first).run? behaviour second =
      some (afterEightSeconds (first ++ second)) := by
  obtain ⟨middle, ranFirst, ranSecond⟩ :=
    World.run?_append.mp (run_afterEightSeconds enabled)
  have isMiddle : afterEightSeconds first = middle := by
    unfold afterEightSeconds
    rw [ranFirst]
    rfl
  rw [isMiddle]
  exact ranSecond

/-- A prefix of a schedule that goes through goes through. -/
theorem enabled_initially
    {first second : List (Action AuthOperation)}
    (enabled :
      (atEightSeconds.run? behaviour (first ++ second)).isSome = true) :
    (atEightSeconds.run? behaviour first).isSome = true := by
  obtain ⟨middle, ranFirst, -⟩ :=
    World.run?_append.mp (run_afterEightSeconds enabled)
  rw [ranFirst]
  rfl

/-- One more action of a schedule that goes through. -/
theorem step_between
    {first : List (Action AuthOperation)}
    {action : Action AuthOperation}
    (enabled :
      (atEightSeconds.run? behaviour (first ++ [action])).isSome = true) :
    (afterEightSeconds first).step behaviour action =
      some (afterEightSeconds (first ++ [action])) := by
  obtain ⟨next, stepped, ended⟩ :=
    World.run?_cons.mp (run_between enabled)
  cases ended
  exact stepped

/-- The whole schedule goes through. -/
theorem undone_enabled :
    (atEightSeconds.run? behaviour
      (loggedOut ++ (bothGoOn ++ thenCheck))).isSome = true := by
  decide +kernel

/-- The logout of the third call. -/
theorem webLogout :
    LogoutRun environment JwtService.Marked.service webUser 2
      atEightSeconds (threeCalls ++ underWay) []
      (afterEightSeconds (threeCalls ++ underWay ++ [.advance 2]))
      (afterEightSeconds loggedOut) where
  fresh := rfl
  deletes := by
    have goesThrough :
        (atEightSeconds.run? behaviour
          (threeCalls ++ underWay ++ [.advance 2])).isSome = true :=
      enabled_initially (enabled_initially undone_enabled)
    have entered := enabled_initially goesThrough
    refine ⟨_, run_afterEightSeconds entered, ?_,
      step_between goesThrough⟩
    have called :
        (afterEightSeconds threeCalls).threads[2]? =
          some ⟨.logout webUser,
            (AuthOperation.logout webUser).behaviour environment
              JwtService.Marked.service, 0⟩ := rfl
    refine World.thread_kept ?_ (run_between entered) called
    simp [underWay]
  waits := by simp
  completes := ⟨_, rfl, step_between (enabled_initially undone_enabled)⟩

/-- The check is the fourth call. -/
theorem loggedOut_calls :
    (afterEightSeconds loggedOut).threads.length ≤ 3 := by
  decide +kernel

/-- The check after the logout names the user who was logged out. -/
theorem webRequest_names :
    webRequest.Names environment JwtService.Marked.service webParams
      webUser.val.sessionBoundId := by
  have presents :
      webRequest.jwtToken? =
        some (JwtService.Marked.service.sign
          (claims .octoWeb "first" 10) "random") := by
    decide +kernel
  exact GuardRequest.names_of_signed JwtService.Marked.lawful presents
    (by decide +kernel)

/-- The check at the end is accepted. -/
theorem check_accepted :
    ∃ admitted commands,
      (afterEightSeconds
          (loggedOut ++ bothGoOn ++ thenCheck)).threads[3]? =
        some ⟨.check webParams webRequest, .done (.ok admitted),
          commands⟩ := by
  have beforeCheck :
      (afterEightSeconds (loggedOut ++ bothGoOn)).threads.length = 3 := by
    decide +kernel
  have ran :
      (afterEightSeconds (loggedOut ++ bothGoOn)).run? behaviour
          thenCheck =
        some (afterEightSeconds (loggedOut ++ bothGoOn ++ thenCheck)) := by
    apply run_between
    rw [List.append_assoc]
    exact undone_enabled
  have succeeded :
      succeededAfter (loggedOut ++ bothGoOn ++ thenCheck) 3 = true := by
    decide +kernel
  obtain ⟨thread, found, isCheck⟩ := World.invoked_found ran
  rw [beforeCheck] at found
  unfold succeededAfter at succeeded
  rw [found] at succeeded ⊢
  split at succeeded
  · rename_i operation admitted commands shape
    cases shape
    cases isCheck
    exact ⟨admitted, commands, rfl⟩
  · cases succeeded

end Sample

/-- A logout with both calls under way, and what the check needs for it. -/
theorem logout_undone_both :
    (∃ admitted commands,
        (Sample.afterEightSeconds (Sample.loggedOut ++ Sample.bothGoOn ++
            Sample.thenCheck)).threads[3]? =
          some ⟨.check Sample.webParams Sample.webRequest,
            .done (.ok admitted), commands⟩) ∧
      (Sample.afterEightSeconds
          (Sample.threeCalls ++ Sample.underWay ++
            [.advance 2])).RestoredBy
        Sample.behaviour
        (boundKey .token Sample.webUser.val.sessionBoundId)
        (fun _ operation =>
          operation.Renews Sample.webUser.val.sessionBoundId)
        ([] ++ [.advance 2] ++ (Sample.bothGoOn ++ Sample.thenCheck)) ∧
      (Sample.afterEightSeconds Sample.loggedOut).RestoredBy
        Sample.behaviour
        (boundKey .session Sample.webUser.val.sessionBoundId)
        (fun position operation =>
          operation.Mutates Sample.webUser.val.sessionBoundId ∧
            ∃ thread,
              (Sample.afterEightSeconds
                  Sample.loggedOut).threads[position]? =
                some thread ∧
                0 < thread.commands)
        (Sample.bothGoOn ++ Sample.thenCheck) := by
  obtain ⟨admitted, commands, accepted⟩ := Sample.check_accepted
  refine ⟨⟨admitted, commands, accepted⟩, ?_⟩
  rw [List.append_assoc] at accepted
  have ran :
      (Sample.afterEightSeconds Sample.loggedOut).run? Sample.behaviour
          (Sample.bothGoOn ++ Sample.thenCheck) =
        some (Sample.afterEightSeconds (Sample.loggedOut ++
          (Sample.bothGoOn ++ Sample.thenCheck))) :=
    Sample.run_between Sample.undone_enabled
  refine logout_undone Sample.webLogout ran ?_ Sample.loggedOut_calls
    Sample.webRequest_names accepted
  intro operation member authenticates
  simp [Sample.threeCalls, Sample.underWay, Sample.bothGoOn,
    Sample.thenCheck] at member
  rcases member with rfl | rfl | rfl | rfl <;> cases authenticates.1

/-- A user who has logged out is let in with the old token. -/
theorem logged_out_user_accepted :
    ¬ ∀ (content : IdentifiedPayload) index start before between
        tokenDeleted completed later final params request position
        commands admitted,
        LogoutRun Sample.environment JwtService.Marked.service content
          index start before between tokenDeleted completed →
        completed.run? Sample.behaviour later = some final →
        (∀ operation,
          .invoke operation ∈ before ++ between →
          operation.Renews content.val.sessionBoundId ∨
            operation.Mutates content.val.sessionBoundId ∨
            operation = .logout content) →
        (∀ operation,
          .invoke operation ∈ later →
          operation = .check params request) →
        completed.threads.length ≤ position →
        request.Names Sample.environment JwtService.Marked.service params
          content.val.sessionBoundId →
        final.threads[position]? ≠
          some ⟨.check params request, .done (.ok admitted), commands⟩ := by
  intro final
  obtain ⟨admitted, commands, accepted⟩ := Sample.check_accepted
  rw [List.append_assoc] at accepted
  have ran :
      (Sample.afterEightSeconds Sample.loggedOut).run? Sample.behaviour
          (Sample.bothGoOn ++ Sample.thenCheck) =
        some (Sample.afterEightSeconds (Sample.loggedOut ++
          (Sample.bothGoOn ++ Sample.thenCheck))) :=
    Sample.run_between Sample.undone_enabled
  refine final _ _ _ _ _ _ _ _ _ _ _ _ _ _ Sample.webLogout ran ?_ ?_
    Sample.loggedOut_calls Sample.webRequest_names accepted
  · intro operation member
    simp [Sample.threeCalls, Sample.underWay] at member
    rcases member with rfl | rfl | rfl
    · exact Or.inr (Or.inl rfl)
    · exact Or.inl rfl
    · exact Or.inr (Or.inr rfl)
  · intro operation member
    simpa [Sample.bothGoOn, Sample.thenCheck] using member

end NestBackend
