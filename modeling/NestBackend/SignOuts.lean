import NestBackend.LostKeys
import NestBackend.UserIsolation

namespace NestBackend

open JavaScript

/-!
# Who signs a user out

An entry of a bound identifier goes, before its lifetime is over, for one of two
reasons only: somebody logs that identifier out, or a call that leaves its user
one token alone has found the token of the identifier in a scan.  Whatever else
goes on at the same time, in whatever order, a login lasts.
-/

namespace AuthOperation

/-- The bound identifier that a call logs out. -/
def loggedOut? : AuthOperation → Option String
  | .logout content => some content.val.sessionBoundId
  | _ => none

/-- The payload of a call after which its user has that token alone. -/
def onlyPayload? : AuthOperation → Option BaseJwtPayload
  | .authenticate drawnId _ payload _ _ _ allowMultipleTokens =>
      if allowMultipleTokens then
        none
      else
        some (BaseAuthService.ensureId drawnId payload)
  | .renewToken _ _ content _ allowMultipleTokens =>
      if allowMultipleTokens then none else some content.val
  | _ => none

/-- The call looks for other tokens, and this would be one of them. -/
def Supersedes (boundId : String) (operation : AuthOperation) : Prop :=
  ∃ payload,
    operation.onlyPayload? = some payload ∧
      Glob.accepts (BaseAuthService.tokenPattern payload) boundId = true

/-- The token that is to stay hidden from such a call. -/
def Hidden
    (boundId : String)
    (operation : AuthOperation)
    (key : String) : Prop :=
  operation.Supersedes boundId ∧ key = boundKey .token boundId

end AuthOperation

/-- One of the two entries of a bound identifier. -/
def IsEntryOf (boundId key : String) : Prop :=
  ∃ service, key = boundKey service boundId

/-! ## What the calls delete -/

section Spared

variable
  {env : CoreEnvironment}
  {jwt : JwtService}
  {boundId : String}
  {spared hidden : String → Prop}

/-- Another bound identifier has other entries. -/
theorem isEntryOf_boundKey
    {service : SessionService}
    {otherId : String} :
    IsEntryOf boundId (boundKey service otherId) ↔ otherId = boundId := by
  constructor
  · rintro ⟨other, same⟩
    cases service <;> cases other
    · exact SessionService.storageKey_injective same
    · exact (SessionService.storageKey_token_ne_session _ _ _ _ same).elim
    · exact
        (SessionService.storageKey_token_ne_session _ _ _ _ same.symm).elim
    · exact SessionService.storageKey_injective same
  · rintro rfl
    exact ⟨service, rfl⟩

/-- Storing a session deletes nothing. -/
theorem SessionService.addSession_spares
    (service : SessionService)
    (type id : String)
    (expireInSeconds : Option Int)
    (value : Properties) :
    (service.addSession type id expireInSeconds value).Spares
      spared hidden := by
  rw [addSession_eq]
  intro now reply
  match reply with
  | .ok true => trivial
  | .ok false => trivial
  | .error error => trivial

/-- A mutator deletes nothing. -/
theorem AuthSessionService.Mutator.program_spares
    (mutator : Mutator)
    (key : String)
    (sessionType : JwtSession) :
    (mutator.program key sessionType).Spares spared hidden := by
  rcases mutator.program_cases key sessionType with rewrites | refused
  · rw [rewrites, rewriteSession_eq]
    intro reply
    match reply with
    | .error error => trivial
    | .ok none => trivial
    | .ok (some session) =>
        simp only
        cases mutator.change session with
        | error failure => trivial
        | ok value =>
            exact fun now => SessionService.addSession_spares _ _ _ _ _
  · rw [refused]
    trivial

/-- The guard deletes nothing. -/
theorem JwtGuard.canActivate_spares
    (params : GuardParams)
    (request : GuardRequest) :
    (canActivate env jwt params request).Spares spared hidden := by
  rw [canActivate_eq]
  intro now
  simp only
  cases present? env jwt params request now with
  | none => trivial
  | some presented =>
      intro reply
      match reply with
      | .error error => trivial
      | .ok none => trivial
      | .ok (some content) =>
          intro later
          simp only
          cases user? env jwt params presented content later with
          | none => trivial
          | some user =>
              intro reply
              match reply with
              | .error error => trivial
              | .ok none => trivial
              | .ok (some session) =>
                  simp only
                  split <;> trivial

namespace BaseAuthService

variable {drawnId secretGeneration : String} {payload : BaseJwtPayload}

/-- Storing the session of a login deletes nothing. -/
theorem addBoundSession_spares
    (session : Properties)
    (expireTime : Int)
    (sessionLifeTime : Option Int) :
    (addBoundSession payload session expireTime sessionLifeTime).Spares
      spared hidden := by
  unfold addBoundSession
  split
  · trivial
  · exact SessionService.addSession_spares _ _ _ _ _

/-- Storing a token deletes nothing. -/
theorem storeToken_spares
    (content : Properties)
    (expireTime : Int) :
    (storeToken env jwt drawnId secretGeneration payload content
      expireTime).Spares spared hidden :=
  fun _ =>
    StoreProgram.Spares.bind (SessionService.addSession_spares _ _ _ _ _)
      fun _ => trivial

/-- A key that the scan of a payload accepts is one of a token. -/
theorem token_of_accepted
    {key : String}
    (accepted :
      Glob.accepts
          (SessionService.token.storageKey JwtSession.token.text
            (tokenPattern payload)) key =
        true) :
    ∃ otherId,
      key = boundKey .token otherId ∧
        Glob.accepts (tokenPattern payload) otherId = true := by
  rw [SessionService.storageKey_eq_append] at accepted
  obtain ⟨otherId, shape, matched⟩ :=
    (Glob.accepts_plain_append (plain_storageKey_empty .token) _ _).mp
      accepted
  refine ⟨otherId, ?_, matched⟩
  rw [shape, boundKey, ← SessionService.storageKey_eq_append]

/--
`createToken` clears what its scan has found, so an identifier whose token is
not shown to it keeps its entries.
-/
theorem createToken_spares
    {allowMultipleTokens : Bool}
    {expireTime : Int}
    (isHidden :
      allowMultipleTokens = false →
      Glob.accepts (tokenPattern payload) boundId = true →
        hidden (boundKey .token boundId)) :
    (createToken env jwt drawnId secretGeneration payload
      allowMultipleTokens expireTime).Spares (IsEntryOf boundId)
      hidden := by
  unfold createToken
  split
  · trivial
  · rw [SessionService.getKeys_eq, StoreProgram.keys_bind]
    intro reply unseen
    cases reply with
    | error error => trivial
    | ok listed =>
        simp only [StoreProgram.ok_bind]
        split
        · exact storeToken_spares _ _
        · rename_i single
          refine ⟨?_, storeToken_spares _ _⟩
          intro chain member key inChain isSpared
          obtain ⟨stripped, isStripped, rfl⟩ := List.mem_map.mp member
          obtain ⟨found, isListed, rfl⟩ := List.mem_map.mp isStripped
          obtain ⟨accepted, notHidden⟩ := unseen listed rfl found isListed
          rw [payload.sessionChannel.eq_token] at accepted inChain
          obtain ⟨otherId, rfl, matched⟩ := token_of_accepted accepted
          rw [boundKey, SessionService.stripKey_storageKey] at inChain
          -- Both keys of the chain are entries of the listed identifier.
          have sameId : otherId = boundId := by
            rcases List.mem_cons.mp inChain with isToken | rest
            · rw [isToken] at isSpared
              exact isEntryOf_boundKey.mp isSpared
            · rw [List.mem_singleton.mp rest] at isSpared
              exact isEntryOf_boundKey.mp isSpared
          subst sameId
          exact notHidden
            (isHidden (by simp_all) matched)

/-- `authenticate` deletes what `createToken` does. -/
theorem authenticate_spares
    {session : Properties}
    {expireTime : Int}
    {sessionLifeTime : Option Int}
    {allowMultipleTokens : Bool}
    (isHidden :
      allowMultipleTokens = false →
      Glob.accepts (tokenPattern (ensureId drawnId payload)) boundId =
          true →
        hidden (boundKey .token boundId)) :
    (authenticate env jwt drawnId secretGeneration payload session
      expireTime sessionLifeTime allowMultipleTokens).Spares
      (IsEntryOf boundId) hidden := by
  unfold authenticate
  apply StoreProgram.Spares.bind (createToken_spares isHidden)
  intro token
  split
  · trivial
  · exact
      StoreProgram.Spares.bind (addBoundSession_spares _ _ _)
        fun _ => trivial

/-- `authenticateWithHardSecret` deletes nothing. -/
theorem authenticateWithHardSecret_spares
    (session : Properties)
    (expireTime : Int)
    (sessionLifeTime : Option Int) :
    (authenticateWithHardSecret env jwt drawnId payload session expireTime
      sessionLifeTime).Spares spared hidden := by
  unfold authenticateWithHardSecret
  intro now
  simp only
  split
  · trivial
  · apply StoreProgram.Spares.bind
      (SessionService.addSession_spares _ _ _ _ _)
    intro stored
    exact
      StoreProgram.Spares.bind (addBoundSession_spares _ _ _)
        fun _ => trivial

/-- `renewToken` deletes what `createToken` does. -/
theorem renewToken_spares
    {expireTime : Int}
    {allowMultipleTokens : Bool}
    (isHidden :
      allowMultipleTokens = false →
      Glob.accepts (tokenPattern payload) boundId = true →
        hidden (boundKey .token boundId)) :
    (renewToken env jwt drawnId secretGeneration payload expireTime
      allowMultipleTokens).Spares (IsEntryOf boundId) hidden := by
  unfold renewToken
  split
  · intro now
    simp only
    split
    · trivial
    · exact createToken_spares isHidden
  · trivial

/-- `logout` deletes the entries of one bound identifier. -/
theorem logout_spares
    (otherId : payload.sessionBoundId ≠ boundId) :
    (logout payload).Spares (IsEntryOf boundId) hidden := by
  have notSpared :
      ∀ service,
        ¬ IsEntryOf boundId (boundKey service payload.sessionBoundId) :=
    fun _ isSpared => otherId (isEntryOf_boundKey.mp isSpared)
  rw [logout_eq, payload.sessionChannel.eq_token]
  refine ⟨notSpared .token, ?_⟩
  intro reply
  cases reply with
  | error error => trivial
  | ok count =>
      refine ⟨notSpared .session, ?_⟩
      intro later
      cases later <;> trivial

end BaseAuthService

/--
A call that does not log the identifier out deletes neither of its entries,
unless it is shown a token that it supersedes.
-/
theorem AuthOperation.behaviour_spares
    {operation : AuthOperation}
    (notLoggedOut : operation.loggedOut? ≠ some boundId) :
    (operation.behaviour env jwt).Spares (IsEntryOf boundId)
      (operation.Hidden boundId) := by
  have ends :
      ∀ answer : AuthAnswer,
        (pure answer : SessionProgram AuthAnswer).Spares
          (IsEntryOf boundId) (operation.Hidden boundId) :=
    fun _ => trivial
  cases operation with
  | authenticate drawnId secretGeneration payload session expireTime
      sessionLifeTime allowMultipleTokens =>
      refine StoreProgram.Spares.bind ?_ fun token => ends _
      apply BaseAuthService.authenticate_spares
      intro single matched
      refine ⟨⟨_, ?_, matched⟩, rfl⟩
      simp [onlyPayload?, single]
  | authenticateWithHardSecret drawnId payload session expireTime
      sessionLifeTime =>
      refine StoreProgram.Spares.bind ?_ fun token => ends _
      exact BaseAuthService.authenticateWithHardSecret_spares _ _ _
  | renewToken drawnId secretGeneration content expireTime
      allowMultipleTokens =>
      refine StoreProgram.Spares.bind ?_ fun token => ends _
      apply BaseAuthService.renewToken_spares
      intro single matched
      refine ⟨⟨_, ?_, matched⟩, rfl⟩
      simp [onlyPayload?, single]
  | logout content =>
      refine StoreProgram.Spares.bind ?_ fun _ => ends _
      apply BaseAuthService.logout_spares
      intro same
      exact notLoggedOut (congrArg some same)
  | mutate key sessionType mutator =>
      refine StoreProgram.Spares.bind ?_ fun value => ends _
      exact AuthSessionService.Mutator.program_spares _ _ _
  | check params request =>
      refine StoreProgram.Spares.bind ?_ fun admission => ends _
      exact JwtGuard.canActivate_spares _ _

end Spared

/-! ## Whole schedules -/

/--
Every sign-out is accounted for.  Whatever calls interleave, command by command,
from whatever entries: if an entry of a bound identifier is stored at one
instant and not at a later one, then the identifier was logged out, or there was
an instant at which a call that leaves its user one token alone sent its scan,
with a pattern that matches the identifier, and the scan showed its token.  An
entry counts as stored until it is deleted, also when its lifetime is over.
-/
theorem signOut_accounted
    {env : CoreEnvironment}
    {jwt : JwtService}
    {now : Nat}
    {store : ExpiringStore String JsonObject}
    {first second : List (Action AuthOperation)}
    {middle final : AuthWorld}
    (ranFirst :
      (AuthWorld.holding now store).run? (AuthOperation.behaviour env jwt)
          first =
        some middle)
    (ranSecond :
      middle.run? (AuthOperation.behaviour env jwt) second = some final)
    {service : SessionService}
    {boundId : String}
    (stored :
      (middle.backend.store.lookup (boundKey service boundId)).isSome =
        true)
    (lost :
      final.backend.store.lookup (boundKey service boundId) = none) :
    (∃ operation ∈ World.calls (first ++ second),
        operation.loggedOut? = some boundId) ∨
      ∃ before index rest current thread,
        first ++ second = before ++ .advance index :: rest ∧
          (AuthWorld.holding now store).run?
              (AuthOperation.behaviour env jwt) before =
            some current ∧
          current.threads[index]? = some thread ∧
          thread.operation.Supersedes boundId ∧
          thread.program.Shows (fun key => key = boundKey .token boundId)
            current.now current.backend ∧
          (current.backend.store.read current.now
              (boundKey .token boundId)).isSome =
            true := by
  by_cases loggedOut :
      ∃ operation ∈ World.calls (first ++ second),
        operation.loggedOut? = some boundId
  · exact Or.inl loggedOut
  right
  have spares :
      ∀ operation,
        .invoke operation ∈ first ++ second →
          (operation.behaviour env jwt).Spares (IsEntryOf boundId)
            (operation.Hidden boundId) := by
    intro operation member
    apply AuthOperation.behaviour_spares
    intro isLoggedOut
    have called : operation ∈ World.calls (first ++ second) :=
      List.mem_filterMap.mpr ⟨_, member, rfl⟩
    exact loggedOut ⟨operation, called, isLoggedOut⟩
  obtain ⟨before, index, rest, current, thread, split, ran, found, shows⟩ :=
    World.shownIn_of_lost rfl rfl spares ranFirst ranSecond ⟨service, rfl⟩
      stored lost
  obtain ⟨key, ⟨supersedes, isToken⟩, showsKey, readable⟩ :=
    shows.exists_key
  subst isToken
  exact ⟨before, index, rest, current, thread, split, ran, found,
    supersedes, showsKey, readable⟩

namespace Sample

/-- A login of the user, and another one after it. -/
def loggedIn : List (Action AuthOperation) :=
  [.invoke (login .user "first"), .advance 0, .advance 0, .advance 0]

/-- The second login has sent its scan, and one deletion has come through. -/
def loggedInAgain : List (Action AuthOperation) :=
  [.invoke (login .user "second"), .advance 1, .advance 1, .drain 0]

end Sample

/-- The first token of a user goes back to the scan of the second login. -/
theorem signOut_accounted_second :
    ∃ middle final,
      (AuthWorld.holding 0 ∅).run? Sample.behaviour Sample.loggedIn =
          some middle ∧
        middle.run? Sample.behaviour Sample.loggedInAgain = some final ∧
        ∃ before index rest current thread,
          Sample.loggedIn ++ Sample.loggedInAgain =
              before ++ .advance index :: rest ∧
            (AuthWorld.holding 0 ∅).run? Sample.behaviour before =
              some current ∧
            current.threads[index]? = some thread ∧
            thread.operation.Supersedes "alice:first" ∧
            (current.backend.store.read current.now
                (boundKey .token "alice:first")).isSome =
              true := by
  have outcome :
      (((AuthWorld.holding 0 ∅).run? Sample.behaviour
          Sample.loggedIn).bind fun middle =>
        (middle.run? Sample.behaviour Sample.loggedInAgain).map
          fun final =>
            ((middle.backend.store.lookup
                (boundKey .token "alice:first")).isSome,
              (final.backend.store.lookup
                (boundKey .token "alice:first")).isNone)) =
        some (true, true) := by
    decide +kernel
  obtain ⟨middle, ranFirst, rest⟩ := Option.bind_eq_some_iff.mp outcome
  obtain ⟨final, ranSecond, both⟩ := Option.map_eq_some_iff.mp rest
  obtain ⟨stored, lost⟩ := Prod.mk.inj both
  rcases signOut_accounted ranFirst ranSecond stored
      (Option.isNone_iff_eq_none.mp lost) with
    ⟨operation, member, isLogout⟩ |
      ⟨before, index, later, current, thread, split, ran, found, supersedes,
        -, readable⟩
  · have isLogin :
        operation = Sample.login .user "first" ∨
          operation = Sample.login .user "second" := by
      simpa [World.calls, Sample.loggedIn, Sample.loggedInAgain]
        using member
    rcases isLogin with rfl | rfl <;> cases isLogout
  · exact ⟨middle, final, ranFirst, ranSecond, before, index, later, current,
      thread, split, ran, found, supersedes, readable⟩

end NestBackend
