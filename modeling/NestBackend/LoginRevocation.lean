import NestBackend.ConcurrentLogins
import NestBackend.RenewedSession

namespace NestBackend

open JavaScript

/-!
# What a login deletes

A login deletes the entries of the tokens that its scan found, in the
background, while it writes its own.  What is to be deleted, what is written and
the rest of the store are apart, so the order of all this does not matter.
-/

/-! ## Deletions in the background -/

/--
Some listed entries are being deleted, some own entries may have been written,
and everything else is as it was.
-/
structure Backend.Clearing
    {Key Value : Type}
    [DecidableEq Key]
    (listed own : Key → Prop)
    (store : ExpiringStore Key Value)
    (backend : Backend Key Value) : Prop where
  pending : ∀ chain ∈ backend.chains, ∀ key ∈ chain, listed key
  doomed : ∀ key, listed key → backend.Doomed key
  kept :
    ∀ key, ¬ listed key → ¬ own key →
      backend.store.lookup key = store.lookup key

section Clearing

variable
  {Key Value : Type}
  [DecidableEq Key]
  {listed own : Key → Prop}
  {store : ExpiringStore Key Value}
  {backend : Backend Key Value}

/-- The next deletion is of a listed key. -/
theorem Backend.Clearing.next_listed
    (clearing : backend.Clearing listed own store)
    {index : Nat}
    {key : Key}
    {rest : List Key}
    (found : backend.chains[index]? = some (key :: rest)) :
    listed key :=
  clearing.pending _ (List.mem_of_getElem? found) _
    (List.mem_cons_self ..)

/-- One deletion. -/
theorem Backend.Clearing.drain
    (clearing : backend.Clearing listed own store)
    {index : Nat}
    {key : Key}
    {rest : List Key}
    (found : backend.chains[index]? = some (key :: rest)) :
    Backend.Clearing listed own store
      { store := backend.store.remove key
        chains := backend.chains.set index rest } where
  pending chain member query inChain := by
    rcases List.mem_or_eq_of_mem_set member with old | isRest
    · exact clearing.pending chain old query inChain
    · rw [isRest] at inChain
      exact clearing.pending _ (List.mem_of_getElem? found) query
        (List.mem_cons_of_mem key inChain)
  doomed query isListed := (clearing.doomed query isListed).drain found
  kept query notListed notOwn := by
    have different : query ≠ key := by
      rintro rfl
      exact notListed (clearing.next_listed found)
    rw [ExpiringStore.lookup_remove_other _ different]
    exact clearing.kept query notListed notOwn

/-- The write of an own entry, which is not listed. -/
theorem Backend.Clearing.write
    (clearing : backend.Clearing listed own store)
    {key : Key}
    (isOwn : own key)
    (notListed : ¬ listed key)
    (now lifetime : Nat)
    (value : Value) :
    Backend.Clearing listed own store
      { backend with
        store := backend.store.write now key lifetime value } where
  pending := clearing.pending
  doomed query isListed := by
    refine (clearing.doomed query isListed).write ?_ now lifetime value
    rintro rfl
    exact notListed isListed
  kept query queryNotListed notOwn := by
    have different : query ≠ key := by
      rintro rfl
      exact notOwn isOwn
    rw [ExpiringStore.lookup_write_other _ different]
    exact clearing.kept query queryNotListed notOwn

end Clearing

/-! ## The phases of a login -/

namespace Login

/-- The token entry that the login writes. -/
def tokenEntry (login : Login) (instant : Nat) : Entry JsonObject where
  value := login.payload.content (tokenTypeMap login.type)
  writtenAt := instant
  lifetime := login.expireTime.toNat * 1000

/-- How long the session lives, in seconds. -/
def sessionSeconds (login : Login) : Int :=
  BaseAuthService.sessionExpiry login.sessionLifeTime login.expireTime

/-- The session entry that the login writes. -/
def sessionEntry
    (login : Login)
    (earlier : List Json)
    (instant : Nat) : Entry JsonObject where
  value :=
    ((SessionService.stamp instant (some login.sessionSeconds)).spread
      (BaseAuthService.boundSession login.session login.payload
        earlier)).stringify
  writtenAt := instant
  lifetime := login.sessionSeconds.toNat * 1000

/-- The keys of the two entries that the login writes. -/
def Own (login : Login) (query : String) : Prop :=
  query = boundKey .token login.payload.sessionBoundId ∨
    query = boundKey .session login.payload.sessionBoundId

/-- The keys that the login starts to delete. -/
def Listed
    (login : Login)
    (store : ExpiringStore String JsonObject)
    (start : Nat)
    (query : String) : Prop :=
  ∃ chain ∈
      BaseAuthService.startedChains login.payload false
        (BaseAuthService.existingKeys login.payload store start),
    query ∈ chain

section Steps

variable
  {env : CoreEnvironment}
  {jwt : JwtService}
  {login : Login}
  {store : ExpiringStore String JsonObject}
  {start : Nat}

/-- The session entry of a login. -/
theorem sessionKey_payload (login : Login) :
    BaseAuthService.sessionKey login.payload =
      boundKey .session login.payload.sessionBoundId := by
  unfold BaseAuthService.sessionKey boundKey
  rw [login.payload.sessionChannel.eq_token]

/-- The third command is the write of the session. -/
theorem afterToken_step
    (now : Nat)
    (backend : Backend String JsonObject)
    (token : String) :
    (∃ failure,
        StoreProgram.step now backend (login.afterToken token) =
          (backend, .done (.error failure))) ∨
      ∃ earlier,
        BaseAuthService.tokenIDs login.session = .ok earlier ∧
          StoreProgram.step now backend (login.afterToken token) =
            ({ backend with
                store :=
                  backend.store.write now
                    (boundKey .session login.payload.sessionBoundId)
                    (login.sessionEntry earlier now).lifetime
                    (login.sessionEntry earlier now).value },
              .done (.ok (.token token))) := by
  rw [← sessionKey_payload]
  unfold afterToken BaseAuthService.addBoundSession
  cases listed : BaseAuthService.tokenIDs login.session with
  | error failure => exact .inl ⟨failure, rfl⟩
  | ok earlier =>
      simp only [SessionService.addSession_eq, StoreProgram.step,
        StoreProgram.clock_bind, StoreProgram.setex_bind]
      by_cases positive : 0 < login.sessionSeconds
      · right
        refine ⟨earlier, rfl, ?_⟩
        have positive' := positive
        unfold sessionSeconds at positive'
        rw [Backend.setex_of_pos _ _ _ positive']
        rfl
      · left
        unfold sessionSeconds at positive
        simp only [Backend.setex, if_neg positive]
        exact ⟨_, rfl⟩

end Steps

/--
Where the call is after its scan, with what is stored by then.  Nothing is
pending until the deletions are started.
-/
inductive Phase
    (env : CoreEnvironment)
    (jwt : JwtService)
    (login : Login)
    (listed : String → Prop)
    (store : ExpiringStore String JsonObject)
    (backend : Backend String JsonObject) :
    SessionProgram AuthAnswer → Prop where
  | listed
      (chains : List (List String))
      (idle : backend.chains = [])
      (clearing : (backend.detach chains).Clearing listed login.Own store) :
      Phase env jwt login listed store backend
        (.detach chains (login.storing env jwt))
  | storing
      (clearing : backend.Clearing listed login.Own store) :
      Phase env jwt login listed store backend (login.storing env jwt)
  | tokenStored
      (token : String)
      (tokenAt : Nat)
      (clearing : backend.Clearing listed login.Own store)
      (tokenStored :
        backend.store.lookup
            (boundKey .token login.payload.sessionBoundId) =
          some (login.tokenEntry tokenAt)) :
      Phase env jwt login listed store backend (login.afterToken token)
  | finished
      (token : String)
      (tokenAt sessionAt : Nat)
      (earlier : List Json)
      (clearing : backend.Clearing listed login.Own store)
      (tokenStored :
        backend.store.lookup
            (boundKey .token login.payload.sessionBoundId) =
          some (login.tokenEntry tokenAt))
      (sessionStored :
        backend.store.lookup
            (boundKey .session login.payload.sessionBoundId) =
          some (login.sessionEntry earlier sessionAt)) :
      Phase env jwt login listed store backend (.done (.ok (.token token)))
  | failed (failure : Failure) :
      Phase env jwt login listed store backend (.done (.error failure))

section Phases

variable
  {env : CoreEnvironment}
  {jwt : JwtService}
  {login : Login}
  {listed : String → Prop}
  {store : ExpiringStore String JsonObject}
  {backend : Backend String JsonObject}
  {program : SessionProgram AuthAnswer}

/-- The next command of the call. -/
theorem Phase.advance
    (phase : login.Phase env jwt listed store backend program)
    (ownNotListed : ∀ query, login.Own query → ¬ listed query)
    (now : Nat) :
    login.Phase env jwt listed store (program.step now backend).1
      (program.step now backend).2 := by
  cases phase with
  | listed chains idle clearing => exact .storing clearing
  | storing clearing =>
      rw [storing_step]
      split
      · refine .tokenStored _ now ?_ ?_
        · exact clearing.write (.inl rfl) (ownNotListed _ (.inl rfl)) _ _ _
        · exact ExpiringStore.lookup_write_same _ _ _ _ _
      · exact .failed _
  | tokenStored token tokenAt clearing tokenStored =>
      rcases afterToken_step now backend token with
        ⟨failure, stepped⟩ | ⟨earlier, -, stepped⟩
      · rw [stepped]
        exact .failed failure
      · rw [stepped]
        refine .finished token tokenAt now earlier ?_ ?_ ?_
        · exact clearing.write (.inr rfl) (ownNotListed _ (.inr rfl)) _ _ _
        · have different :=
            SessionService.storageKey_token_ne_session
              JwtSession.token.text login.payload.sessionBoundId
              JwtSession.token.text login.payload.sessionBoundId
          exact (ExpiringStore.lookup_write_other _ different _ _ _).trans
            tokenStored
        · exact ExpiringStore.lookup_write_same _ _ _ _ _
  | finished token tokenAt sessionAt earlier clearing tokenStored
      sessionStored =>
      exact .finished token tokenAt sessionAt earlier clearing tokenStored
        sessionStored
  | failed failure => exact .failed failure

/-- A deletion in the background. -/
theorem Phase.drain
    (phase : login.Phase env jwt listed store backend program)
    (ownNotListed : ∀ query, login.Own query → ¬ listed query)
    {index : Nat}
    {key : String}
    {rest : List String}
    (found : backend.chains[index]? = some (key :: rest)) :
    login.Phase env jwt listed store
      { store := backend.store.remove key
        chains := backend.chains.set index rest } program := by
  have keeps :
      ∀ {query entry},
        backend.Clearing listed login.Own store →
          login.Own query →
            backend.store.lookup query = some entry →
              (backend.store.remove key).lookup query = some entry := by
    intro query entry clearing isOwn stored
    have different : query ≠ key := by
      rintro rfl
      exact ownNotListed _ isOwn (clearing.next_listed found)
    exact (ExpiringStore.lookup_remove_other _ different).trans stored
  cases phase with
  | listed chains idle clearing =>
      rw [idle] at found
      cases found
  | storing clearing => exact .storing (clearing.drain found)
  | tokenStored token tokenAt clearing tokenStored =>
      exact .tokenStored token tokenAt (clearing.drain found)
        (keeps clearing (.inl rfl) tokenStored)
  | finished token tokenAt sessionAt earlier clearing tokenStored
      sessionStored =>
      exact .finished token tokenAt sessionAt earlier (clearing.drain found)
        (keeps clearing (.inl rfl) tokenStored)
        (keeps clearing (.inr rfl) sessionStored)
  | failed failure => exact .failed failure

/-- Before the write of the session the call has not returned. -/
theorem afterToken_ne_done
    (token : String)
    (answer : AuthAnswer) :
    login.afterToken token ≠ .done (.ok answer) := by
  unfold afterToken BaseAuthService.addBoundSession
  cases BaseAuthService.tokenIDs login.session with
  | error failure => exact nofun
  | ok earlier =>
      simp only [SessionService.addSession_eq, StoreProgram.clock_bind]
      exact nofun

/-- A call that has returned has written both of its entries. -/
theorem Phase.of_returned
    {answer : AuthAnswer}
    (phase : login.Phase env jwt listed store backend program)
    (returned : program = .done (.ok answer)) :
    backend.Clearing listed login.Own store ∧
      ∃ tokenAt sessionAt earlier,
        backend.store.lookup
              (boundKey .token login.payload.sessionBoundId) =
            some (login.tokenEntry tokenAt) ∧
          backend.store.lookup
              (boundKey .session login.payload.sessionBoundId) =
            some (login.sessionEntry earlier sessionAt) := by
  cases phase with
  | listed chains idle clearing => cases returned
  | storing clearing =>
      have sends : (login.storing env jwt).commands 0 = true :=
        storing_commands 0
      rw [returned] at sends
      cases sends
  | tokenStored token tokenAt clearing tokenStored =>
      exact absurd returned (afterToken_ne_done token answer)
  | finished token tokenAt sessionAt earlier clearing tokenStored
      sessionStored =>
      exact ⟨clearing, tokenAt, sessionAt, earlier, tokenStored,
        sessionStored⟩
  | failed failure => cases returned

/-- The login is the only call, and in one of the phases. -/
def InPhase
    (env : CoreEnvironment)
    (jwt : JwtService)
    (login : Login)
    (listed : String → Prop)
    (store : ExpiringStore String JsonObject)
    (world : AuthWorld) : Prop :=
  ∃ thread,
    world.threads = [thread] ∧
      login.Phase env jwt listed store world.backend thread.program

/-- One action keeps the phase or moves it on. -/
theorem InPhase.step
    {world next : AuthWorld}
    (inPhase : login.InPhase env jwt listed store world)
    (ownNotListed : ∀ query, login.Own query → ¬ listed query)
    {action : Action AuthOperation}
    (notInvoke : ∀ operation, action ≠ .invoke operation)
    (stepCase :
      World.StepCase (AuthOperation.behaviour env jwt) world action
        next) :
    login.InPhase env jwt listed store next := by
  obtain ⟨thread, only, phase⟩ := inPhase
  cases stepCase with
  | invoke operation => exact (notInvoke operation rfl).elim
  | tick milliseconds => exact ⟨thread, only, phase⟩
  | drain found => exact ⟨thread, only, phase.drain ownNotListed found⟩
  | @advance index found atIndex =>
      rw [only] at atIndex
      obtain ⟨rfl, rfl⟩ := getElem?_singleton atIndex
      refine ⟨found.advance world.now world.backend, ?_, ?_⟩
      · simp only [only, List.set_cons_zero]
      · rw [Thread.advance_program]
        exact phase.advance ownNotListed world.now

/-- What has been listed is being deleted, and nothing has changed yet. -/
theorem clearing_started (start : Nat) :
    Backend.Clearing (login.Listed store start) login.Own store
      ⟨store,
        BaseAuthService.startedChains login.payload false
          (BaseAuthService.existingKeys login.payload store start)⟩ where
  pending chain member _ inChain := ⟨chain, member, inChain⟩
  doomed _ isListed := .inr isListed
  kept _ _ _ := rfl

/-- The scan starts the deletions. -/
theorem InPhase.first
    {start : Nat}
    {next : AuthWorld}
    (stepCase :
      World.StepCase (AuthOperation.behaviour env jwt)
        ⟨start, ⟨store, []⟩,
          [⟨login.operation,
            AuthOperation.behaviour env jwt login.operation, 0⟩]⟩
        (.advance 0) next) :
    login.InPhase env jwt (login.Listed store start) store next := by
  cases stepCase with
  | advance found =>
      obtain ⟨-, rfl⟩ := getElem?_singleton found
      have scanned :
          StoreProgram.step start ⟨store, []⟩
              (login.operation.behaviour env jwt) =
            (⟨store, []⟩, _) :=
        behaviour_step start ⟨store, []⟩
      have clearing :
          Backend.Clearing (login.Listed store start) login.Own store _ :=
        clearing_started start
      refine ⟨_, rfl, ?_⟩
      rw [Thread.advance_program, scanned]
      split
      next none =>
        unfold BaseAuthService.startedChains at clearing
        rw [Bool.false_or, if_pos none] at clearing
        exact .storing clearing
      next => exact .listed _ rfl clearing

/-- A whole schedule keeps the login in one of the phases. -/
theorem InPhase.run
    {world next : AuthWorld}
    (inPhase : login.InPhase env jwt listed store world)
    (ownNotListed : ∀ query, login.Own query → ¬ listed query)
    {actions : List (Action AuthOperation)}
    (noInvoke : NoInvoke actions)
    (ran :
      world.run? (AuthOperation.behaviour env jwt) actions = some next) :
    login.InPhase env jwt listed store next := by
  refine World.run?_induction ?_ ran inPhase
  intro current later action member currentPhase stepCase
  exact currentPhase.step ownNotListed (noInvoke.notInvoke member) stepCase

end Phases

end Login

/-! ## Keys and identifiers -/

/-- The characters of base64. -/
def isBase64 (char : Char) : Bool :=
  char.isAlphanum || char == '+' || char == '/'

/-- The text is the base64 form of a SHA-256 digest. -/
def IsDigest (text : String) : Prop :=
  text.toList.length = 44 ∧ text.toList.getLast? = some '=' ∧
    ∀ char ∈ text.toList.dropLast, isBase64 char = true

instance (text : String) : Decidable (IsDigest text) :=
  have := List.decidableBAll (fun char => isBase64 char = true)
    text.toList.dropLast
  inferInstanceAs (Decidable (_ ∧ _ ∧ _))

/-- Whether a character may stand at a place of the template. -/
def uuidChar (place char : Char) : Bool :=
  if place = 'x' then
    char.isDigit || ('a' ≤ char && char ≤ 'f')
  else if place = 'y' then
    char == '8' || char == '9' || char == 'a' || char == 'b'
  else
    char == place

/-- The template of an identifier that `uuid.v4` draws. -/
def uuidTemplate : String := "xxxxxxxx-xxxx-4xxx-yxxx-xxxxxxxxxxxx"

/-- The text has the form of an identifier that `uuid.v4` draws. -/
def IsUuidV4 (text : String) : Prop :=
  text.toList.length = uuidTemplate.toList.length ∧
    ∀ pair ∈ uuidTemplate.toList.zip text.toList,
      uuidChar pair.1 pair.2 = true

instance (text : String) : Decidable (IsUuidV4 text) :=
  have := List.decidableBAll
    (fun pair : Char × Char => uuidChar pair.1 pair.2 = true)
    (uuidTemplate.toList.zip text.toList)
  inferInstanceAs (Decidable (_ ∧ _))

/-- A character of a digest. -/
theorem IsDigest.char_cases
    {text : String}
    (digest : IsDigest text)
    {char : Char}
    (member : char ∈ text.toList) :
    isBase64 char = true ∨ char = '=' := by
  obtain ⟨-, last, body⟩ := digest
  have split : text.toList = text.toList.dropLast ++ ['='] :=
    (List.dropLast_append_getLast? '=' last).symm
  rw [split] at member
  rcases List.mem_append.mp member with inBody | isLast
  · exact .inl (body char inBody)
  · exact .inr (List.mem_singleton.mp isLast)

/-- A digest stands for itself in a pattern. -/
theorem IsDigest.plain
    {text : String}
    (digest : IsDigest text) :
    Glob.Plain text.toList := by
  intro char member
  rcases digest.char_cases member with base64 | rfl
  · rw [← Bool.not_eq_true]
    intro special
    simp only [Glob.special, Bool.or_eq_true, beq_iff_eq] at special
    rcases special with ((rfl | rfl) | rfl) | rfl
    · exact absurd base64 (by decide)
    · exact absurd base64 (by decide)
    · exact absurd base64 (by decide)
    · exact absurd base64 (by decide)
  · rfl

/-- A digest has no hyphen. -/
theorem IsDigest.no_hyphen
    {text : String}
    (digest : IsDigest text) :
    '-' ∉ text.toList := by
  intro member
  rcases digest.char_cases member with base64 | same
  · exact absurd base64 (by decide)
  · exact absurd same (by decide)

/-- Every character of an identifier fits a place of the template. -/
theorem IsUuidV4.fits
    {text : String}
    (uuid : IsUuidV4 text)
    {char : Char}
    (member : char ∈ text.toList) :
    ∃ place ∈ uuidTemplate.toList, uuidChar place char = true := by
  obtain ⟨index, found⟩ := List.mem_iff_getElem?.mp member
  have bound : index < uuidTemplate.toList.length := by
    rw [← uuid.1]
    exact (List.getElem?_eq_some_iff.mp found).1
  have place := List.getElem?_eq_getElem bound
  refine ⟨_, List.getElem_mem bound, uuid.2 (_, char) ?_⟩
  exact List.mem_of_getElem?
    (List.getElem?_zip_eq_some.mpr ⟨place, found⟩)

/-- An identifier has no colon. -/
theorem IsUuidV4.no_colon
    {text : String}
    (uuid : IsUuidV4 text) :
    ':' ∉ text.toList := by
  intro member
  obtain ⟨place, inTemplate, fits⟩ := uuid.fits member
  have nowhere :
      (uuidTemplate.toList.all fun place => !uuidChar place ':') = true := by
    decide +kernel
  have notHere := List.all_eq_true.mp nowhere place inTemplate
  rw [fits] at notHere
  cases notHere

/-- At the hyphens of the template there are hyphens. -/
theorem uuidChar_hyphen (char : Char) : uuidChar '-' char = (char == '-') :=
  rfl

/-- An identifier has hyphens. -/
theorem IsUuidV4.hyphen
    {text : String}
    (uuid : IsUuidV4 text) :
    '-' ∈ text.toList := by
  have long : 8 < text.toList.length := by
    rw [uuid.1]
    decide
  have place : uuidTemplate.toList[8]? = some '-' := by decide
  have found := List.getElem?_eq_getElem long
  have fits : uuidChar '-' text.toList[8] = true :=
    uuid.2 (_, _)
      (List.mem_of_getElem?
        (List.getElem?_zip_eq_some.mpr ⟨place, found⟩))
  rw [uuidChar_hyphen, beq_iff_eq] at fits
  rw [← fits]
  exact List.getElem_mem long

/-- An identifier occurs in no digest. -/
theorem IsUuidV4.not_infix
    {id key : String}
    (uuid : IsUuidV4 id)
    (digest : IsDigest key) :
    ¬ id.toList <:+: key.toList :=
  fun occurs => digest.no_hyphen (occurs.subset uuid.hyphen)

/-! ## Exactness -/

namespace Login

/--
A login by itself: its scan is sent at once, and at the end of the schedule it
has returned a token and everything it started is done.
-/
abbrev Alone
    (env : CoreEnvironment)
    (jwt : JwtService)
    (login : Login)
    (start : Nat)
    (store : ExpiringStore String JsonObject)
    (actions : List (Action AuthOperation))
    (final : AuthWorld)
    (token : String) : Prop :=
  RenewedAlone env jwt login.operation start store actions final token

/-- A bound identifier of the key has a live token entry. -/
def TokenAt
    (login : Login)
    (store : ExpiringStore String JsonObject)
    (start : Nat)
    (id : String) : Prop :=
  (store.read start
    (boundKey .token (login.payload.key ++ ":" ++ id))).isSome = true

/--
The two new entries are there; the entries of every bound identifier of the key
that had a live token entry are gone; and there is no other difference.
-/
structure RevokesExactly
    (login : Login)
    (start : Nat)
    (store after : ExpiringStore String JsonObject) : Prop where
  created :
    ∃ tokenAt sessionAt earlier,
      after.lookup (boundKey .token login.payload.sessionBoundId) =
          some (login.tokenEntry tokenAt) ∧
        after.lookup (boundKey .session login.payload.sessionBoundId) =
          some (login.sessionEntry earlier sessionAt)
  deleted :
    ∀ id,
      login.TokenAt store start id →
        ∀ service,
          after.lookup
              (boundKey service (login.payload.key ++ ":" ++ id)) =
            none
  unchanged :
    ∀ query,
      ¬ login.Own query →
        (∀ id,
          login.TokenAt store start id →
            ∀ service,
              query ≠
                boundKey service (login.payload.key ++ ":" ++ id)) →
          after.lookup query = store.lookup query

section Exact

variable
  {env : CoreEnvironment}
  {jwt : JwtService}
  {login : Login}
  {id : String}
  {start : Nat}
  {store : ExpiringStore String JsonObject}

/-- The entries that a login lists. -/
theorem listed_iff
    (digest : IsDigest login.payload.key)
    (uuid : IsUuidV4 id)
    (sameId : login.payload.id = some id)
    (query : String) :
    login.Listed store start query ↔
      ∃ other,
        login.TokenAt store start other ∧
          ∃ service,
            query =
              boundKey service (login.payload.key ++ ":" ++ other) := by
  have accepts :=
    accepts_iff_of_plain digest.plain sameId uuid.no_colon
      (uuid.not_infix digest)
  unfold Listed
  constructor
  · rintro ⟨chain, member, inChain⟩
    obtain ⟨boundId, rfl, readable, matched⟩ :=
      BaseAuthService.mem_startedChains member
    obtain ⟨other, rfl⟩ := (accepts boundId).mp matched
    rw [login.payload.sessionChannel.eq_token] at readable inChain
    refine ⟨other, readable, ?_⟩
    rcases List.mem_cons.mp inChain with token | rest
    · exact ⟨.token, token⟩
    · exact ⟨.session, List.mem_singleton.mp rest⟩
  · rintro ⟨other, readable, service, rfl⟩
    unfold TokenAt boundKey at readable
    rw [← login.payload.sessionChannel.eq_token] at readable
    refine ⟨_,
      BaseAuthService.clearChain_mem_startedChains readable
        ((accepts _).mpr ⟨other, rfl⟩), ?_⟩
    rw [login.payload.sessionChannel.eq_token]
    cases service with
    | token => exact List.mem_cons_self ..
    | session => exact List.mem_cons_of_mem _ (List.mem_singleton_self _)

/-- A fresh identifier is not among those that are deleted. -/
theorem own_not_listed
    (fresh :
      store.read start (boundKey .token login.payload.sessionBoundId) =
        none)
    {query : String}
    (isOwn : login.Own query) :
    ¬ login.Listed store start query := by
  rintro ⟨chain, member, inChain⟩
  rw [← tokenKey_payload] at fresh
  have unmentioned :=
    BaseAuthService.startedChains_unmentioned fresh member
  rw [tokenKey_payload, sessionKey_payload] at unmentioned
  rcases isOwn with rfl | rfl
  · exact unmentioned.1 inChain
  · exact unmentioned.2 inChain

/--
A login with a digest for its key and a fresh identifier deletes the token and
the session entries of the bound identifiers of the key that had a live token
entry, creates its own two, and changes nothing else, whatever is stored and in
whatever order the deletions come.
-/
theorem revokes_exactly
    {actions : List (Action AuthOperation)}
    {final : AuthWorld}
    {token : String}
    (digest : IsDigest login.payload.key)
    (uuid : IsUuidV4 id)
    (sameId : login.payload.id = some id)
    (fresh :
      store.read start (boundKey .token login.payload.sessionBoundId) =
        none)
    (alone : login.Alone env jwt start store actions final token) :
    login.RevokesExactly start store final.backend.store := by
  have ownNotListed :
      ∀ query, login.Own query → ¬ login.Listed store start query :=
    fun query => own_not_listed fresh
  have inPhase :
      login.InPhase env jwt (login.Listed store start) store final := by
    obtain ⟨called, invoked, ranCalled⟩ := World.run?_cons.mp alone.ran
    cases invoked
    obtain ⟨scanned, advanced, ranScanned⟩ :=
      World.run?_cons.mp ranCalled
    exact (InPhase.first (World.step_cases advanced)).run ownNotListed
      alone.noInvoke ranScanned
  obtain ⟨thread, only, phase⟩ := inPhase
  have returned : thread.program = .done (.ok (.token token)) := by
    apply alone.returned
    rw [only]
    exact List.mem_singleton_self thread
  obtain ⟨clearing, created⟩ := phase.of_returned returned
  refine ⟨created, ?_, ?_⟩
  · intro other live service
    have isListed :=
      (listed_iff digest uuid sameId _).mpr ⟨other, live, service, rfl⟩
    exact (clearing.doomed _ isListed).absent alone.completed
  · intro query notOwn others
    refine clearing.kept query ?_ notOwn
    intro isListed
    obtain ⟨other, live, service, same⟩ :=
      (listed_iff digest uuid sameId _).mp isListed
    exact others other live service same

end Exact

end Login

/-! ## `AuthService.login` -/

namespace AuthService

/-- `plainToInstance(UserSession, { userId })` with exposed defaults. -/
def userSession (userId : String) : Properties
  | "key" => some none
  | "permissions" => some (some (.arr []))
  | "type" => some (some (.str SessionType.userSession.text))
  | "userId" => some (some (.str userId))
  | "flowSessions" => some none
  | _ => none

/--
`login`: the call of `authenticate` with its defaults, under the digest of the
user's identifier.
-/
def login
    (env : CoreEnvironment)
    (hashingSHA256 : String → String)
    (drawnId secretGeneration userId : String) : Login where
  drawnId := drawnId
  secretGeneration := secretGeneration
  givenPayload :=
    { iat := none
      exp := none
      key := hashingSHA256 userId
      id := none
      sessionChannel := .token
      type := TokenType.user.text }
  type := .user
  typed := rfl
  session := userSession userId
  expireTime := env.tokenExpire
  sessionLifeTime := none

end AuthService

namespace Sample

/-- The digest of `"alice"`. -/
def aliceDigest : String := "K9gGyX8OAK8aH8Myj6djqSaXI8jbj6xPk69x2xhtbpA="

/-- A login of this user. -/
def aliceLogin : Login :=
  AuthService.login environment (fun _ => aliceDigest)
    "3f2b8c1d-9e4a-4b6c-8d7e-0a1b2c3d4e5f" "random" "alice"

/-- An earlier login of this user and one of another. -/
def twoUsersStore : ExpiringStore String JsonObject :=
  let old := boundKey .token (aliceDigest ++ ":" ++ "earlier")
  let oldSession := boundKey .session (aliceDigest ++ ":" ++ "earlier")
  let other := boundKey .token "bob:earlier"
  ((ExpiringStore.write ∅ 0 old 60000 (fun _ => none)).write 0 oldSession
    60000 (fun _ => none)).write 0 other 60000 (fun _ => none)

/-- The deletions come between the writes. -/
def deletionsBetween : List (Action AuthOperation) :=
  [.advance 0, .drain 0, .advance 0, .drain 0, .advance 0]

end Sample

/-- A login among these entries. -/
theorem Login.revokes_exactly_alice :
    ∃ final token,
      Sample.aliceLogin.Alone Sample.environment JwtService.Marked.service
          1000 Sample.twoUsersStore Sample.deletionsBetween final token ∧
        Sample.aliceLogin.RevokesExactly 1000 Sample.twoUsersStore
          final.backend.store := by
  have outcome :
      (World.run? Sample.behaviour
          ⟨1000, ⟨Sample.twoUsersStore, []⟩, []⟩
          (.invoke Sample.aliceLogin.operation :: .advance 0 ::
            Sample.deletionsBetween)).map
        (fun final =>
          (final.threads.map
              (fun thread => (Sample.returnedToken? thread).isSome),
            final.backend.chains)) =
        some ([true], [[]]) := by
    decide +kernel
  obtain ⟨final, ran, finalShape⟩ := Option.map_eq_some_iff.mp outcome
  obtain ⟨returned, chains⟩ := Prod.mk.inj finalShape
  obtain ⟨thread, only, isSome⟩ :
      ∃ thread,
        final.threads = [thread] ∧
          (Sample.returnedToken? thread).isSome = true := by
    obtain ⟨thread, only, isSome⟩ := List.map_eq_singleton_iff.mp returned
    exact ⟨thread, only, isSome⟩
  obtain ⟨token, found⟩ := Option.isSome_iff_exists.mp isSome
  have alone :
      Sample.aliceLogin.Alone Sample.environment JwtService.Marked.service
        1000 Sample.twoUsersStore Sample.deletionsBetween final token := by
    refine ⟨?_, ran, ?_, ?_⟩
    · intro operation member
      simp [Sample.deletionsBetween] at member
    · intro other member
      rw [only] at member
      rw [List.mem_singleton.mp member]
      exact program_of_returnedToken? found
    · rw [chains]
      intro chain member
      exact List.mem_singleton.mp member
  refine ⟨final, token, alone, ?_⟩
  exact Login.revokes_exactly (by decide +kernel)
    (show IsUuidV4 "3f2b8c1d-9e4a-4b6c-8d7e-0a1b2c3d4e5f" by
      decide +kernel)
    rfl (by decide +kernel) alone

end NestBackend
