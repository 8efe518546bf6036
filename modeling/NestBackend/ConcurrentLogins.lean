import NestBackend.IssuingRuns
import NestBackend.SparedKeys

namespace NestBackend

open JavaScript

/-!
# Logins of one user at the same time

A login that keeps no other tokens scans for them, starts to delete what it
found and writes its own token.  A token that was live at the scan of another
login is doomed; so whatever is left at the end was written after every scan,
and two tokens can be left only by two logins that overlapped.
-/

/-- A call of `authenticate` with `allowMultipleTokens = false`. -/
structure Login where
  drawnId : String
  secretGeneration : String
  givenPayload : BaseJwtPayload
  type : TokenType
  typed : givenPayload.type = type.text
  session : Properties
  expireTime : Int
  sessionLifeTime : Option Int

namespace Login

/-- The payload with its identifier. -/
def payload (login : Login) : BaseJwtPayload :=
  BaseAuthService.ensureId login.drawnId login.givenPayload

/-- The call. -/
def operation (login : Login) : AuthOperation :=
  .authenticate login.drawnId login.secretGeneration login.givenPayload
    login.session login.expireTime login.sessionLifeTime false

/-- The end of the call, once the token is written. -/
def afterToken (login : Login) (token : String) : SessionProgram AuthAnswer := do
  let _ ← BaseAuthService.addBoundSession login.payload login.session
    login.expireTime login.sessionLifeTime
  return .token token

/-- The call from the write of the token on. -/
def storing
    (env : CoreEnvironment)
    (jwt : JwtService)
    (login : Login) : SessionProgram AuthAnswer :=
  BaseAuthService.storeToken env jwt login.drawnId login.secretGeneration
    login.payload (login.payload.properties (tokenTypeMap login.type))
    login.expireTime >>= login.afterToken

/-- Writes no token entry. -/
def AvoidsTokens (program : SessionProgram AuthAnswer) : Prop :=
  program.Satisfies (fun _ _ => True)
    (fun query _ => ∀ boundId, query ≠ boundKey .token boundId)
    (fun _ => True)

section Programs

variable
  {env : CoreEnvironment}
  {jwt : JwtService}
  {login : Login}

theorem payload_typed (login : Login) :
    login.payload.type = login.type.text := by
  unfold payload
  rw [BaseAuthService.ensureId_type, login.typed]

/-- The token entry of a login. -/
theorem tokenKey_payload (login : Login) :
    BaseAuthService.tokenKey login.payload =
      boundKey .token login.payload.sessionBoundId := by
  unfold BaseAuthService.tokenKey boundKey
  rw [login.payload.sessionChannel.eq_token]

/-- A login is `createToken` and the write of the session. -/
theorem behaviour_eq
    (env : CoreEnvironment)
    (jwt : JwtService)
    (login : Login) :
    login.operation.behaviour env jwt =
      (BaseAuthService.createToken env jwt login.drawnId
          login.secretGeneration login.payload false login.expireTime >>=
        login.afterToken) := by
  have built := BaseAuthService.buildTokenPayload_of_type login.payload_typed
  unfold payload at built
  simp only [operation, AuthOperation.behaviour,
    BaseAuthService.authenticate, StoreProgram.bind_bind, built]
  rfl

/-- The first command of a login is the scan. -/
theorem behaviour_step
    (now : Nat)
    (backend : Backend String JsonObject) :
    StoreProgram.step now backend (login.operation.behaviour env jwt) =
      (backend,
        if (BaseAuthService.existingKeys login.payload backend.store
            now).isEmpty = true then
          login.storing env jwt
        else
          .detach
            (BaseAuthService.startedChains login.payload false
              (BaseAuthService.existingKeys login.payload backend.store
                now))
            (login.storing env jwt)) := by
  rw [behaviour_eq]
  exact BaseAuthService.createToken_bind_step login.payload_typed _ now
    backend

/-- It is a command. -/
theorem behaviour_commands (now : Nat) :
    (login.operation.behaviour env jwt).commands now = true := by
  rw [behaviour_eq]
  unfold BaseAuthService.createToken
  rw [BaseAuthService.buildTokenPayload_of_type login.payload_typed]
  simp only [SessionService.getKeys_eq, StoreProgram.keys_bind]
  rfl

/-- The second one is the write of the token. -/
theorem storing_step
    (now : Nat)
    (backend : Backend String JsonObject) :
    StoreProgram.step now backend (login.storing env jwt) =
      if 0 < login.expireTime then
        ({ backend with
            store :=
              backend.store.write now
                (boundKey .token login.payload.sessionBoundId)
                (login.expireTime.toNat * 1000)
                (login.payload.content (tokenTypeMap login.type)) },
          login.afterToken (jwt.sign
            (BaseAuthService.signedClaims env
              (BaseAuthService.ensureId login.drawnId login.payload)
              login.expireTime now)
            login.secretGeneration))
      else
        (backend, .done (.error (.storeFailure .invalidExpire))) := by
  rw [← tokenKey_payload]
  exact BaseAuthService.storeToken_bind_step _ now backend

theorem storing_commands (now : Nat) :
    (login.storing env jwt).commands now = true := by
  unfold storing BaseAuthService.storeToken
  simp only [SessionService.addSession_eq, StoreProgram.clock_bind,
    StoreProgram.setex_bind]
  rfl

/-- Whatever follows writes the session only. -/
theorem afterToken_avoidsTokens (token : String) :
    AvoidsTokens (login.afterToken token) := by
  unfold AvoidsTokens afterToken
  apply StoreProgram.Satisfies.bind
  apply BaseAuthService.addBoundSession_satisfies
  · intro outcome
    cases outcome <;> trivial
  · intro earlier now seconds boundId same
    exact SessionService.storageKey_token_ne_session _ _ _ _ same.symm

end Programs

/-- How far a login has come. -/
inductive Stage
    (env : CoreEnvironment)
    (jwt : JwtService)
    (login : Login) :
    Thread AuthOperation String JsonObject Failure AuthAnswer → Prop where
  | waiting :
      Stage env jwt login
        ⟨login.operation, login.operation.behaviour env jwt, 0⟩
  | listed (chains : List (List String)) :
      Stage env jwt login
        ⟨login.operation, .detach chains (login.storing env jwt), 1⟩
  | storing :
      Stage env jwt login ⟨login.operation, login.storing env jwt, 1⟩
  | stored
      {program : SessionProgram AuthAnswer}
      {commands : Nat}
      (sent : 0 < commands)
      (avoids : AvoidsTokens program) :
      Stage env jwt login ⟨login.operation, program, commands⟩

section Stages

variable
  {env : CoreEnvironment}
  {jwt : JwtService}
  {login : Login}
  {thread : Thread AuthOperation String JsonObject Failure AuthAnswer}

/-- A login that has settled has scanned. -/
theorem Stage.sent_of_settled
    (stage : login.Stage env jwt thread)
    (settled : thread.program.settled = true) :
    0 < thread.commands := by
  cases stage with
  | waiting =>
      have sends : (login.operation.behaviour env jwt).commands 0 = true :=
        behaviour_commands 0
      cases program : login.operation.behaviour env jwt with
      | done outcome =>
          rw [program] at sends
          cases sends
      | _ =>
          simp only [program] at settled
          cases settled
  | listed chains => exact Nat.one_pos
  | storing => exact Nat.one_pos
  | stored sent avoids => exact sent

/-- The next step of a login. -/
theorem Stage.advance
    (stage : login.Stage env jwt thread)
    (now : Nat)
    (backend : Backend String JsonObject) :
    login.Stage env jwt (thread.advance now backend) := by
  cases stage with
  | waiting =>
      unfold Thread.advance
      simp only [behaviour_commands, behaviour_step, ↓reduceIte,
        Nat.zero_add]
      split
      · exact .storing
      · exact .listed _
  | listed chains => exact .storing
  | storing =>
      unfold Thread.advance
      simp only [storing_commands, storing_step, ↓reduceIte]
      split
      · exact .stored (Nat.succ_pos _) (afterToken_avoidsTokens _)
      · exact .stored (Nat.succ_pos _) trivial
  | stored sent avoids =>
      refine .stored (Nat.lt_of_lt_of_le sent (Nat.le_add_right _ _)) ?_
      have everything :
          backend.store.Conforms fun _ _ => True := fun _ _ _ => trivial
      exact avoids.step everything now

end Stages

/-- The scan of the login finds every token of the key. -/
def Covers (key : String) (login : Login) : Prop :=
  ∀ id,
    Glob.accepts (BaseAuthService.tokenPattern login.payload)
        (key ++ ":" ++ id) =
      true

/-- For a plain key without the identifier, the scan finds what starts with it. -/
theorem accepts_iff_of_plain
    {login : Login}
    {id : String}
    (plain : Glob.Plain login.payload.key.toList)
    (sameId : login.payload.id = some id)
    (noColon : ':' ∉ id.toList)
    (absent : ¬ id.toList <:+: login.payload.key.toList)
    (boundId : String) :
    Glob.accepts (BaseAuthService.tokenPattern login.payload) boundId =
        true ↔
      ∃ other, boundId = login.payload.key ++ ":" ++ other := by
  have bound :
      login.payload.sessionBoundId = login.payload.key ++ ":" ++ id := by
    simp [BaseJwtPayload.sessionBoundId, sameId]
  have pattern :
      BaseAuthService.tokenPattern login.payload =
        login.payload.key ++ ":" ++ "*" := by
    unfold BaseAuthService.tokenPattern
    rw [bound, sameId]
    exact replaceFirst_last noColon absent "*"
  have stemPlain : Glob.Plain (login.payload.key ++ ":").toList := by
    rw [String.toList_append]
    exact plain.append (by decide)
  rw [pattern]
  exact Glob.accepts_plain_star stemPlain boundId

/-- A plain key is covered when the identifier does not occur in it. -/
theorem covers_of_plain
    {key : String}
    {login : Login}
    (id : String)
    (plain : Glob.Plain key.toList)
    (sameKey : login.payload.key = key)
    (sameId : login.payload.id = some id)
    (noColon : ':' ∉ id.toList)
    (absent : ¬ id.toList <:+: key.toList) :
    login.Covers key := by
  subst sameKey
  intro other
  exact (accepts_iff_of_plain plain sameId noColon absent _).mpr
    ⟨other, rfl⟩

end Login

/-! ## Who wrote after whose scan -/

/-- One call has scanned when another one sends the write of its token. -/
def ScansBeforeWrite
    (env : CoreEnvironment)
    (jwt : JwtService)
    (start : AuthWorld)
    (actions : List (Action AuthOperation))
    (scanner writer : Nat) : Prop :=
  ∃ before rest current scanning writing,
    actions = before ++ .advance writer :: rest ∧
      start.run? (AuthOperation.behaviour env jwt) before =
        some current ∧
      current.threads[writer]? = some writing ∧
      writing.commands = 1 ∧
      writing.program.commands current.now = true ∧
      current.threads[scanner]? = some scanning ∧
      0 < scanning.commands

/-- The call at this position is a login with this identifier. -/
def LoginAt
    (world : AuthWorld)
    (index : Nat)
    (boundId : String) : Prop :=
  ∃ thread, ∃ login : Login,
    world.threads[index]? = some thread ∧
      thread.operation = login.operation ∧
      login.payload.sessionBoundId = boundId ∧
      0 < thread.commands

/-- Nobody has scanned, or this token was written after every other scan. -/
def Accounted
    (env : CoreEnvironment)
    (jwt : JwtService)
    (start : AuthWorld)
    (actions : List (Action AuthOperation))
    (world : AuthWorld)
    (boundId : String) : Prop :=
  (∀ thread ∈ world.threads, thread.commands = 0) ∨
    ∃ writer,
      LoginAt world writer boundId ∧
        ∀ (other : Nat) thread,
          world.threads[other]? = some thread →
          0 < thread.commands →
          other = writer ∨
            ScansBeforeWrite env jwt start actions other writer

/-- The invariant: spared tokens are accounted for. -/
structure LoginsRun
    (env : CoreEnvironment)
    (jwt : JwtService)
    (key : String)
    (start : AuthWorld)
    (actions : List (Action AuthOperation))
    (world : AuthWorld) : Prop where
  ran :
    start.run? (AuthOperation.behaviour env jwt) actions = some world
  stages :
    ∀ (index : Nat) thread,
      world.threads[index]? = some thread →
      ∃ login : Login, login.Covers key ∧ login.Stage env jwt thread
  accounted :
    ∀ id,
      world.Spared (boundKey .token (key ++ ":" ++ id)) →
      Accounted env jwt start actions world (key ++ ":" ++ id)

section Invariant

variable
  {env : CoreEnvironment}
  {jwt : JwtService}
  {key boundId : String}
  {start world next : AuthWorld}
  {actions : List (Action AuthOperation)}
  {action : Action AuthOperation}

/-- What happened in a schedule happened in a longer one. -/
theorem ScansBeforeWrite.concat
    {scanner writer : Nat}
    (scans : ScansBeforeWrite env jwt start actions scanner writer)
    (action : Action AuthOperation) :
    ScansBeforeWrite env jwt start (actions ++ [action]) scanner
      writer := by
  obtain ⟨before, rest, current, scanning, writing, split, found⟩ := scans
  exact ⟨before, rest ++ [action], current, scanning, writing,
    by rw [split]; simp, found⟩

/-- A login stays where it is. -/
theorem LoginAt.step
    {index : Nat}
    (login : LoginAt world index boundId)
    (stepCase :
      World.StepCase (AuthOperation.behaviour env jwt) world action
        next) :
    LoginAt next index boundId := by
  obtain ⟨thread, called, found, same, bound, sent⟩ := login
  obtain ⟨later, laterFound, sameOperation, more⟩ :=
    stepCase.thread_continues found
  exact ⟨later, called, laterFound, sameOperation.trans same, bound,
    Nat.lt_of_lt_of_le sent more⟩

/-- An action that is nobody's first command leaves the account. -/
theorem Accounted.step
    (accounted : Accounted env jwt start actions world boundId)
    (stepCase :
      World.StepCase (AuthOperation.behaviour env jwt) world action next)
    (notFirst :
      ∀ (index : Nat) thread,
        action = .advance index →
        world.threads[index]? = some thread →
        0 < thread.commands) :
    Accounted env jwt start (actions ++ [action]) next boundId := by
  have earlier :
      ∀ (index : Nat) thread,
        next.threads[index]? = some thread →
        0 < thread.commands →
        ∃ before,
          world.threads[index]? = some before ∧ 0 < before.commands := by
    intro index thread found sent
    rcases stepCase.thread_cases found with
      ⟨same, -⟩ | ⟨before, beforeFound, isAdvance, -⟩ |
      ⟨operation, -, isNew⟩
    · exact ⟨thread, same, sent⟩
    · exact ⟨before, beforeFound, notFirst index before isAdvance
        beforeFound⟩
    · rw [isNew] at sent
      cases sent
  rcases accounted with nobody | ⟨writer, login, others⟩
  · left
    intro thread member
    obtain ⟨index, found⟩ := List.mem_iff_getElem?.mp member
    by_contra sent
    obtain ⟨before, beforeFound, beforeSent⟩ :=
      earlier index thread found (Nat.pos_of_ne_zero sent)
    rw [nobody before (List.mem_of_getElem? beforeFound)] at beforeSent
    cases beforeSent
  · refine Or.inr ⟨writer, login.step stepCase, ?_⟩
    intro other thread found sent
    obtain ⟨before, beforeFound, beforeSent⟩ :=
      earlier other thread found sent
    rcases others other before beforeFound beforeSent with same | scans
    · exact Or.inl same
    · exact Or.inr (scans.concat action)

/-- A token that was live at a scan is listed. -/
theorem not_spared_of_scan
    {login : Login}
    {index : Nat}
    {id : String}
    (covers : login.Covers key)
    (found :
      world.threads[index]? =
        some ⟨login.operation, login.operation.behaviour env jwt, 0⟩)
    (stepped :
      next =
        { world with
          backend :=
            ((login.operation.behaviour env jwt).step world.now
              world.backend).1
          threads :=
            world.threads.set index
              (Thread.advance
                ⟨login.operation, login.operation.behaviour env jwt, 0⟩
                world.now world.backend) }) :
    ¬ next.Spared (boundKey .token (key ++ ":" ++ id)) := by
  intro spared
  subst stepped
  have live := spared.live
  have channel := login.payload.sessionChannel.eq_token
  rw [Login.behaviour_step] at live
  have readable :
      (world.backend.store.read world.now
        (SessionService.token.storageKey
          login.payload.sessionChannel.text
          (key ++ ":" ++ id))).isSome = true := by
    rw [channel]
    exact live
  have listed :=
    BaseAuthService.clearChain_mem_startedChains readable (covers id)
  have someFound :
      (BaseAuthService.existingKeys login.payload world.backend.store
        world.now).isEmpty = false := by
    cases none :
        (BaseAuthService.existingKeys login.payload world.backend.store
          world.now).isEmpty with
    | false => rfl
    | true =>
        unfold BaseAuthService.startedChains at listed
        rw [none] at listed
        cases listed
  have unlisted :=
    spared.unlisted index _
      (List.getElem?_set_self (List.getElem?_eq_some_iff.mp found).1)
  simp only [Thread.advance_program, Login.behaviour_step, someFound]
    at unlisted
  refine unlisted _ listed ?_
  unfold BaseAuthService.clearChain boundKey
  rw [channel]
  exact List.mem_cons_self ..

/-- A step that writes no token of the key leaves the account. -/
theorem LoginsRun.accounted_of_kept
    (logins : LoginsRun env jwt key start actions world)
    (stepCase :
      World.StepCase (AuthOperation.behaviour env jwt) world action next)
    (notFirst :
      ∀ (index : Nat) thread,
        action = .advance index →
        world.threads[index]? = some thread →
        0 < thread.commands)
    {id : String}
    (kept :
      ∀ index thread entry,
        action = .advance index →
        world.threads[index]? = some thread →
        (thread.program.step world.now world.backend).1.store.lookup
            (boundKey .token (key ++ ":" ++ id)) =
          some entry →
        world.backend.store.lookup
            (boundKey .token (key ++ ":" ++ id)) =
          some entry)
    (spared : next.Spared (boundKey .token (key ++ ":" ++ id))) :
    Accounted env jwt start (actions ++ [action]) next
      (key ++ ":" ++ id) :=
  (logins.accounted id (spared.before stepCase kept)).step stepCase notFirst

/-- An action that is no call's leaves the account. -/
theorem LoginsRun.accounted_of_other
    (logins : LoginsRun env jwt key start actions world)
    (stepCase :
      World.StepCase (AuthOperation.behaviour env jwt) world action next)
    (notAdvance : ∀ index, action ≠ .advance index)
    {id : String}
    (spared : next.Spared (boundKey .token (key ++ ":" ++ id))) :
    Accounted env jwt start (actions ++ [action]) next
      (key ++ ":" ++ id) := by
  refine logins.accounted_of_kept stepCase ?_ ?_ spared
  · intro index thread isAdvance
    exact (notAdvance index isAdvance).elim
  · intro index thread entry isAdvance
    exact (notAdvance index isAdvance).elim

/-- Neither does a later command of a call that writes no such token. -/
theorem LoginsRun.accounted_of_advance
    (logins : LoginsRun env jwt key start actions world)
    {index : Nat}
    {thread : Thread AuthOperation String JsonObject Failure AuthAnswer}
    (found : world.threads[index]? = some thread)
    (stepCase :
      World.StepCase (AuthOperation.behaviour env jwt) world
        (.advance index) next)
    (sent : 0 < thread.commands)
    {id : String}
    (kept :
      ∀ entry,
        (thread.program.step world.now world.backend).1.store.lookup
            (boundKey .token (key ++ ":" ++ id)) =
          some entry →
        world.backend.store.lookup
            (boundKey .token (key ++ ":" ++ id)) =
          some entry)
    (spared : next.Spared (boundKey .token (key ++ ":" ++ id))) :
    Accounted env jwt start (actions ++ [.advance index]) next
      (key ++ ":" ++ id) := by
  have only :
      ∀ {other : Nat} {moved},
        Action.advance index =
          (Action.advance other : Action AuthOperation) →
        world.threads[other]? = some moved → moved = thread := by
    intro other moved same otherFound
    cases same
    exact Option.some.inj (otherFound.symm.trans found)
  refine logins.accounted_of_kept stepCase ?_ ?_ spared
  · intro other moved same otherFound
    rw [only same otherFound]
    exact sent
  · intro other moved entry same otherFound lookup
    rw [only same otherFound] at lookup
    exact kept entry lookup

/-- The write of a token puts its call last. -/
theorem accounted_of_write
    {login : Login}
    {index : Nat}
    (ran :
      start.run? (AuthOperation.behaviour env jwt) actions = some world)
    (found :
      world.threads[index]? =
        some ⟨login.operation, login.storing env jwt, 1⟩)
    (stepCase :
      World.StepCase (AuthOperation.behaviour env jwt) world
        (.advance index) next) :
    Accounted env jwt start (actions ++ [.advance index]) next
      login.payload.sessionBoundId := by
  have writer : LoginAt world index login.payload.sessionBoundId :=
    ⟨_, login, found, rfl, rfl, Nat.one_pos⟩
  refine Or.inr ⟨index, writer.step stepCase, ?_⟩
  intro other thread otherFound sent
  by_cases same : other = index
  · exact Or.inl same
  · right
    rcases stepCase.thread_cases otherFound with
      ⟨before, -⟩ | ⟨_, -, isAdvance, -⟩ | ⟨_, isInvoke, -⟩
    · have sends :
          (login.storing env jwt).commands world.now = true :=
        Login.storing_commands world.now
      exact ⟨actions, [], world, thread,
        ⟨login.operation, login.storing env jwt, 1⟩, rfl, ran, found, rfl,
        sends, before, sent⟩
    · exact (same (Action.advance.inj isAdvance).symm).elim
    · cases isInvoke

/-- One action keeps the invariant. -/
theorem LoginsRun.step
    (logins : LoginsRun env jwt key start actions world)
    (covers :
      ∀ operation,
        action = .invoke operation →
        ∃ login : Login,
          operation = login.operation ∧ login.Covers key)
    (stepped :
      world.step (AuthOperation.behaviour env jwt) action = some next) :
    LoginsRun env jwt key start (actions ++ [action]) next := by
  have stepCase := World.step_cases stepped
  refine ⟨?_, ?_, ?_⟩
  · exact World.run?_append.mpr
      ⟨world, logins.ran, World.run?_cons.mpr ⟨next, stepped, rfl⟩⟩
  · intro index thread found
    rcases stepCase.thread_cases found with
      ⟨before, -⟩ | ⟨earlier, earlierFound, -, rfl⟩ |
      ⟨operation, isInvoke, rfl⟩
    · exact logins.stages index thread before
    · obtain ⟨login, covering, stage⟩ :=
        logins.stages index earlier earlierFound
      exact ⟨login, covering, stage.advance _ _⟩
    · obtain ⟨login, rfl, covering⟩ := covers operation isInvoke
      exact ⟨login, covering, .waiting⟩
  · intro id spared
    cases stepCase with
    | tick milliseconds =>
        exact logins.accounted_of_other (.tick milliseconds)
          (fun _ => by simp) spared
    | invoke operation =>
        exact logins.accounted_of_other (.invoke operation)
          (fun _ => by simp) spared
    | drain found =>
        exact logins.accounted_of_other (.drain found)
          (fun _ => by simp) spared
    | @advance index thread found =>
        obtain ⟨login, covering, stage⟩ :=
          logins.stages index thread found
        cases stage with
        | waiting => exact (not_spared_of_scan covering found rfl spared).elim
        | listed chains =>
            exact logins.accounted_of_advance found (.advance found)
              Nat.one_pos (fun _ lookup => lookup) spared
        | storing =>
            by_cases own :
                login.payload.sessionBoundId = key ++ ":" ++ id
            · rw [← own]
              exact accounted_of_write logins.ran found (.advance found)
            · refine logins.accounted_of_advance found (.advance found)
                Nat.one_pos ?_ spared
              intro entry lookup
              rw [Login.storing_step] at lookup
              split at lookup
              · have different :
                    boundKey .token (key ++ ":" ++ id) ≠
                      boundKey .token login.payload.sessionBoundId :=
                  fun sameKey =>
                    own (SessionService.storageKey_injective sameKey).symm
                exact (ExpiringStore.lookup_write_other _ different _ _
                  _).symm.trans lookup
              · exact lookup
        | @stored program commands sent avoids =>
            have writesOther :
                program.Satisfies (fun _ _ => True)
                  (fun query _ =>
                    query ≠ boundKey .token (key ++ ":" ++ id))
                  (fun _ => True) :=
              avoids.mono (fun _ => trivial) (fun apart => apart _)
                (fun _ => trivial)
            refine logins.accounted_of_advance found (.advance found) sent
              ?_ spared
            intro entry lookup
            exact StoreProgram.Satisfies.lookup_of_step writesOther lookup

/-- So it holds in every world that logins of the key reach. -/
theorem loginsRun_of_run
    (fresh : start.threads = [])
    (covers :
      ∀ operation,
        .invoke operation ∈ actions →
        ∃ login : Login,
          operation = login.operation ∧ login.Covers key)
    (ran :
      start.run? (AuthOperation.behaviour env jwt) actions =
        some world) :
    LoginsRun env jwt key start actions world := by
  induction actions using List.reverseRecOn generalizing world with
  | nil =>
      cases ran
      refine ⟨rfl, ?_, ?_⟩
      · intro index thread found
        rw [fresh] at found
        cases found
      · intro id spared
        left
        intro thread member
        rw [fresh] at member
        cases member
  | append_singleton earlier action inductionHypothesis =>
      obtain ⟨middle, ranEarlier, ranLast⟩ := World.run?_append.mp ran
      obtain ⟨last, stepped, ended⟩ := World.run?_cons.mp ranLast
      cases ended
      have earlierRun := inductionHypothesis
        (fun operation member =>
          covers operation (List.mem_append_left _ member))
        ranEarlier
      refine earlierRun.step ?_ stepped
      rintro operation rfl
      exact covers operation
        (List.mem_append_right _ (List.mem_cons_self ..))

end Invariant

/-! ## When every call and every deletion is done -/

/--
A run of logins of one key, at least one, in which every call has settled and
every detached deletion has happened.  Before it there are no calls; the store
is arbitrary.
-/
structure LoginsCompleted
    (env : CoreEnvironment)
    (jwt : JwtService)
    (key : String)
    (start : AuthWorld)
    (actions : List (Action AuthOperation))
    (world : AuthWorld) : Prop where
  fresh : start.threads = []
  logins :
    ∀ operation,
      .invoke operation ∈ actions →
      ∃ login : Login,
        operation = login.operation ∧ login.givenPayload.key = key
  called : world.threads ≠ []
  ran :
    start.run? (AuthOperation.behaviour env jwt) actions = some world
  settled :
    ∀ thread ∈ world.threads, thread.program.settled = true
  cleared : ∀ chain ∈ world.backend.chains, chain = []

/-- The token entry of a bound identifier is live. -/
def TokenLive (world : AuthWorld) (boundId : String) : Prop :=
  (world.backend.store.read world.now
    (boundKey .token boundId)).isSome = true

/-- No two bound identifiers of the key have a live token entry. -/
def AtMostOneToken (key : String) (world : AuthWorld) : Prop :=
  ∀ first second,
    TokenLive world (key ++ ":" ++ first) →
    TokenLive world (key ++ ":" ++ second) →
    first = second

section Completed

variable
  {env : CoreEnvironment}
  {jwt : JwtService}
  {key : String}
  {start world : AuthWorld}
  {actions : List (Action AuthOperation)}

/-- What is live when nothing is pending is spared. -/
theorem LoginsCompleted.spared
    (completed : LoginsCompleted env jwt key start actions world)
    {boundId : String}
    (live : TokenLive world boundId) :
    world.Spared (boundKey .token boundId) where
  live := live
  unmentioned := by
    intro chain member inChain
    rw [completed.cleared chain member] at inChain
    cases inChain
  unlisted := by
    intro index thread found
    have settled := completed.settled thread (List.mem_of_getElem? found)
    cases program : thread.program with
    | detach chains next =>
        rw [program] at settled
        cases settled
    | _ => trivial

/-- A live token was written by a login after the scan of every other. -/
theorem LoginsCompleted.written_last
    (completed : LoginsCompleted env jwt key start actions world)
    (logins : LoginsRun env jwt key start actions world)
    {id : String}
    (live : TokenLive world (key ++ ":" ++ id)) :
    ∃ writer,
      LoginAt world writer (key ++ ":" ++ id) ∧
        ∀ (other : Nat) thread,
          world.threads[other]? = some thread →
          0 < thread.commands →
          other = writer ∨
            ScansBeforeWrite env jwt start actions other writer := by
  rcases logins.accounted id (completed.spared live) with nobody | written
  · obtain ⟨thread, member⟩ := List.exists_mem_of_ne_nil _ completed.called
    obtain ⟨index, found⟩ := List.mem_iff_getElem?.mp member
    obtain ⟨login, -, stage⟩ := logins.stages index thread found
    have sent := stage.sent_of_settled (completed.settled thread member)
    rw [nobody thread member] at sent
    cases sent
  · exact written

/--
When all logins of a key and their deletions are done, two live tokens of it
belong to two logins each of which had scanned before the other one wrote.
-/
theorem logins_overlap
    (completed : LoginsCompleted env jwt key start actions world)
    (covers :
      ∀ login : Login,
        .invoke login.operation ∈ actions → login.Covers key)
    {first second : String}
    (different : first ≠ second)
    (firstLive : TokenLive world (key ++ ":" ++ first))
    (secondLive : TokenLive world (key ++ ":" ++ second)) :
    ∃ one other,
      LoginAt world one (key ++ ":" ++ first) ∧
        LoginAt world other (key ++ ":" ++ second) ∧
        ScansBeforeWrite env jwt start actions one other ∧
        ScansBeforeWrite env jwt start actions other one := by
  have logins : LoginsRun env jwt key start actions world := by
    refine loginsRun_of_run completed.fresh ?_ completed.ran
    intro operation member
    obtain ⟨login, rfl, -⟩ := completed.logins operation member
    exact ⟨login, rfl, covers login member⟩
  obtain ⟨one, oneAt, oneLast⟩ := completed.written_last logins firstLive
  obtain ⟨other, otherAt, otherLast⟩ :=
    completed.written_last logins secondLive
  have apart : one ≠ other := by
    rintro rfl
    obtain ⟨thread, login, found, isLogin, bound, -⟩ := oneAt
    obtain ⟨thread', login', found', isLogin', bound', -⟩ := otherAt
    rw [found] at found'
    cases found'
    have same : login.payload = login'.payload := by
      have operations := isLogin.symm.trans isLogin'
      unfold Login.operation at operations
      injection operations with sameId _ samePayload
      unfold Login.payload
      rw [sameId, samePayload]
    rw [same, bound'] at bound
    have chars := congrArg String.toList bound
    simp only [String.toList_append] at chars
    exact different
      (String.toList_injective (List.append_cancel_left chars)).symm
  obtain ⟨oneThread, -, oneFound, -, -, oneSent⟩ := id oneAt
  obtain ⟨otherThread, -, otherFound, -, -, otherSent⟩ := id otherAt
  refine ⟨one, other, oneAt, otherAt, ?_, ?_⟩
  · exact (otherLast one oneThread oneFound oneSent).resolve_left apart
  · exact (oneLast other otherThread otherFound otherSent).resolve_left
      apart.symm

end Completed

namespace Sample

/-- A login of a user with this key in the first second. -/
def loginOf (key drawnId : String) : Login where
  drawnId := drawnId
  secretGeneration := "random"
  givenPayload := { payload .user with key := key }
  type := .user
  typed := rfl
  session := session
  expireTime := 10
  sessionLifeTime := none

/-- Two logins of which both scan before either one writes. -/
def bothScanFirst : List (Action AuthOperation) :=
  [.invoke (loginOf "alice" "first").operation,
    .invoke (loginOf "alice" "second").operation,
    .advance 0, .advance 1,
    .advance 0, .advance 0, .advance 1, .advance 1]

/-- Two logins, the second after the end of the first. -/
def oneByOne (key : String) : List (Action AuthOperation) :=
  [.invoke (loginOf key "first").operation,
    .advance 0, .advance 0, .advance 0,
    .invoke (loginOf key "second").operation,
    .advance 1, .advance 1, .advance 1]

/-- The world that a schedule leads to from nothing. -/
def afterLogins (actions : List (Action AuthOperation)) : AuthWorld :=
  ((AuthWorld.initial 0).run? behaviour actions).getD
    (AuthWorld.initial 0)

/-- The schedule goes through, and everything is done at its end. -/
def completes (actions : List (Action AuthOperation)) : Bool :=
  ((AuthWorld.initial 0).run? behaviour actions).isSome &&
    !(afterLogins actions).threads.isEmpty &&
    (afterLogins actions).threads.all
      (fun thread => thread.program.settled) &&
    (afterLogins actions).backend.chains.all List.isEmpty

/-- That is what it takes. -/
theorem loginsCompleted
    {key : String}
    {actions : List (Action AuthOperation)}
    (logins :
      ∀ operation,
        .invoke operation ∈ actions →
        ∃ login : Login,
          operation = login.operation ∧ login.givenPayload.key = key)
    (done : completes actions = true) :
    LoginsCompleted environment JwtService.Marked.service key
      (AuthWorld.initial 0) actions (afterLogins actions) := by
  simp only [completes, Bool.and_eq_true, Bool.not_eq_true',
    List.isEmpty_eq_false_iff, List.all_eq_true,
    List.isEmpty_iff] at done
  obtain ⟨⟨⟨enabled, called⟩, settled⟩, cleared⟩ := done
  obtain ⟨world, ran⟩ := Option.isSome_iff_exists.mp enabled
  have isAfter : afterLogins actions = world := by
    unfold afterLogins
    rw [ran]
    rfl
  exact ⟨rfl, logins, called, ran.trans (congrArg some isAfter.symm),
    settled, cleared⟩

/-- The two concurrent logins. -/
theorem bothScanFirst_completed :
    LoginsCompleted environment JwtService.Marked.service "alice"
      (AuthWorld.initial 0) bothScanFirst (afterLogins bothScanFirst) := by
  refine loginsCompleted ?_ (by decide +kernel)
  intro operation member
  simp [bothScanFirst] at member
  rcases member with rfl | rfl
  · exact ⟨_, rfl, rfl⟩
  · exact ⟨_, rfl, rfl⟩

/-- Two logins one by one. -/
theorem oneByOne_completed
    {key : String}
    (done : completes (oneByOne key) = true) :
    LoginsCompleted environment JwtService.Marked.service key
      (AuthWorld.initial 0) (oneByOne key)
      (afterLogins (oneByOne key)) := by
  refine loginsCompleted ?_ done
  intro operation member
  simp [oneByOne] at member
  rcases member with rfl | rfl
  · exact ⟨_, rfl, rfl⟩
  · exact ⟨_, rfl, rfl⟩

/-- Both tokens of a key are live. -/
def bothLive (key : String) (world : AuthWorld) : Bool :=
  (world.backend.store.read world.now
      (boundKey .token (key ++ ":" ++ "first"))).isSome &&
    (world.backend.store.read world.now
      (boundKey .token (key ++ ":" ++ "second"))).isSome

theorem tokenLive_of_bothLive
    {key : String}
    {world : AuthWorld}
    (live : bothLive key world = true) :
    TokenLive world (key ++ ":" ++ "first") ∧
      TokenLive world (key ++ ":" ++ "second") := by
  simp only [bothLive, Bool.and_eq_true] at live
  exact live

/-- Then there are two. -/
theorem two_of_bothLive
    {key : String}
    {world : AuthWorld}
    (live : bothLive key world = true) :
    ¬ AtMostOneToken key world := by
  intro atMostOne
  obtain ⟨first, second⟩ := tokenLive_of_bothLive live
  exact absurd (atMostOne _ _ first second) (by decide)

end Sample

/-- Two overlapping logins, the tokens they leave, and their overlap. -/
theorem logins_overlap_both :
    Sample.bothLive "alice" (Sample.afterLogins Sample.bothScanFirst) =
        true ∧
      ∃ one other,
        LoginAt (Sample.afterLogins Sample.bothScanFirst) one
            ("alice" ++ ":" ++ "first") ∧
          LoginAt (Sample.afterLogins Sample.bothScanFirst) other
            ("alice" ++ ":" ++ "second") ∧
          ScansBeforeWrite Sample.environment JwtService.Marked.service
            (AuthWorld.initial 0) Sample.bothScanFirst one other ∧
          ScansBeforeWrite Sample.environment JwtService.Marked.service
            (AuthWorld.initial 0) Sample.bothScanFirst other one := by
  have live :
      Sample.bothLive "alice"
          (Sample.afterLogins Sample.bothScanFirst) =
        true := by
    decide +kernel
  obtain ⟨firstLive, secondLive⟩ := Sample.tokenLive_of_bothLive live
  refine ⟨live, ?_⟩
  refine logins_overlap Sample.bothScanFirst_completed ?_ (by decide)
    firstLive secondLive
  intro login member
  simp [Sample.bothScanFirst, Sample.loginOf, Login.operation] at member
  have plain : Glob.Plain "alice".toList := by decide
  rcases member with ⟨sameId, -, samePayload, -⟩ |
    ⟨sameId, -, samePayload, -⟩
  · refine Login.covers_of_plain "first" plain ?_ ?_ (by decide)
      (by decide)
    · simp [Login.payload, samePayload]
    · simp [Login.payload, sameId, samePayload]
      rfl
  · refine Login.covers_of_plain "second" plain ?_ ?_ (by decide)
      (by decide)
    · simp [Login.payload, samePayload]
    · simp [Login.payload, sameId, samePayload]
      rfl

/--
Two concurrent logins leave two tokens; and so do two logins one by one when
the key is a pattern that does not match itself.
-/
theorem two_tokens_of_one_key :
    (∃ actions world,
        LoginsCompleted Sample.environment JwtService.Marked.service
            "alice" (AuthWorld.initial 0) actions world ∧
          ¬ AtMostOneToken "alice" world) ∧
      ∃ world,
        LoginsCompleted Sample.environment JwtService.Marked.service
            "[x]" (AuthWorld.initial 0) (Sample.oneByOne "[x]") world ∧
          ¬ AtMostOneToken "[x]" world := by
  constructor
  · exact ⟨_, _, Sample.bothScanFirst_completed,
      Sample.two_of_bothLive (by decide +kernel)⟩
  · exact ⟨_, Sample.oneByOne_completed (by decide +kernel),
      Sample.two_of_bothLive (by decide +kernel)⟩

end NestBackend
