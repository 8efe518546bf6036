import NestBackend.AuthSystem
import NestBackend.EntryLifetimes
import NestBackend.SessionLifetime

namespace NestBackend

open JavaScript

/-!
# When sessions end

Every change of a session writes it anew, with a lifetime that is computed from
its `exp` and from a clock that has gone on since the session was read.  No
interleaving of such changes with anything else moves the end of a session by a
second or more.
-/

namespace AuthOperation

/-- A session that is stored at a login has no `exp` of its own. -/
def LeavesExp : AuthOperation → Prop
  | .authenticate _ _ _ session _ _ _ => session "exp" = none
  | .authenticateWithHardSecret _ _ session _ _ => session "exp" = none
  | _ => True

/-- The bound identifier of the session that a login stores. -/
def storesSession? (operation : AuthOperation) : Option String :=
  if operation.authenticates then
    operation.issuedPayload?.map BaseJwtPayload.sessionBoundId
  else
    none

/-- The login that stores the session of a bound identifier. -/
def stores (boundId : String) (operation : AuthOperation) : Bool :=
  operation.storesSession? = some boundId

end AuthOperation

/-- A session ends within the second that its `exp` begins. -/
def EndsInTime (key : String) (entry : Entry JsonObject) : Prop :=
  ∀ boundId,
    key = boundKey .session boundId →
      ∃ exp : Int,
        entry.value "exp" = some (.int exp) ∧
          1000 * exp ≤ entry.expiresAt ∧
          entry.expiresAt < 1000 * exp + 1000

/-- A session whose `exp` is a whole number. -/
def HasExp (key : String) (session : JsonObject) : Prop :=
  ∀ boundId,
    key = boundKey .session boundId →
      ∃ exp : Int, session "exp" = some (.int exp)

/-- The key is not one of a session. -/
def NotSession (key : String) (_ : JsonObject) : Prop :=
  ∀ boundId, key ≠ boundKey .session boundId

section Ends

variable
  {env : CoreEnvironment}
  {jwt : JwtService}
  {boundId : String}

/-- Tokens are not under the keys of sessions. -/
theorem notSession_token
    (channel storedId : String)
    (value : JsonObject) :
    NotSession (SessionService.token.storageKey channel storedId) value :=
  fun _ => SessionService.storageKey_token_ne_session _ _ _ _

/-- A program that writes no session leaves their ends in time. -/
theorem lasts_of_notSession
    {Result : Type}
    {program : SessionProgram Result}
    {ensures : Except Failure Result → Prop}
    (satisfies : program.Satisfies HasExp NotSession ensures) :
    program.Lasts HasExp EndsInTime ensures :=
  satisfies.lasts fun other _ _ boundId same =>
    absurd same (other boundId)

/-- A session with an `exp` of its own is written back with that. -/
theorem stored_exp
    {mutator : AuthSessionService.Mutator}
    {session : JsonObject}
    {value : Properties}
    {held : Json}
    (changed : mutator.change session = .ok value)
    (own : session "exp" = some held)
    (now : Nat)
    (seconds : Option Int) :
    ((SessionService.stamp now seconds).spread value).stringify "exp" =
      some held := by
  have kept : value "exp" = some (some held) := by
    rw [AuthSessionService.Mutator.change_other changed (by decide)
      (by decide), JsonObject.properties, own]
    rfl
  simp [Properties.stringify, Properties.spread, kept]

/-- A change of a session leaves the end where it is. -/
theorem AuthSessionService.Mutator.program_lasts
    {ensures : Except Failure Properties → Prop}
    (ensured : ∀ outcome, ensures outcome)
    (mutator : Mutator)
    (key : String)
    (sessionType : JwtSession) :
    (mutator.program key sessionType).Lasts HasExp EndsInTime ensures := by
  intro now
  rcases mutator.program_cases key sessionType with rewrites | refused
  · rw [rewrites, rewriteSession_eq]
    intro reply relied later
    cases reply with
    | error error => exact ensured _
    | ok found =>
        cases found with
        | none => exact ensured _
        | some session =>
            simp only
            cases changed : mutator.change session with
            | error failure => exact ensured _
            | ok value =>
                simp only [SessionService.addSession_eq,
                  StoreProgram.LastsFrom]
                refine ⟨?_, ?_⟩
                · intro count left positive boundId isKey
                  obtain ⟨exp, own⟩ := relied session rfl boundId isKey
                  rw [secondsLeft_int own] at left
                  obtain rfl := Option.some.inj left
                  have within :=
                    SessionCall.expiry_within positive
                      ((SessionService.stamp later
                        (some (exp - (later / 1000 : Nat)))).spread
                        value).stringify
                  exact ⟨exp, stored_exp changed own _ _, within⟩
                · intro reply _
                  cases reply with
                  | ok stored => cases stored <;> exact ensured _
                  | error error => exact ensured _
  · rw [refused]
    exact ensured _

/-- A login stores a session that ends with its lifetime. -/
theorem BaseAuthService.addBoundSession_lasts
    {payload : BaseJwtPayload}
    {session : Properties}
    {ensures : Except Failure Properties → Prop}
    (ensured : ∀ outcome, ensures outcome)
    (noExp : session "exp" = none)
    (expireTime : Int)
    (sessionLifeTime : Option Int) :
    (addBoundSession payload session expireTime sessionLifeTime).Lasts
      HasExp EndsInTime ensures := by
  intro now
  unfold addBoundSession
  split
  · exact ensured _
  · rename_i earlier _
    have bound : boundSession session payload earlier "exp" = none := by
      unfold boundSession
      rw [Properties.set_other (by decide), Properties.set_other (by decide)]
      exact noExp
    simp only [SessionService.addSession_eq, StoreProgram.LastsFrom]
    refine ⟨?_, ?_⟩
    · intro count lifetime positive boundId _
      obtain rfl := Option.some.inj lifetime
      refine ⟨(now / 1000 : Nat) + sessionExpiry sessionLifeTime expireTime,
        ?_, ?_, ?_⟩
      · exact AuthSessionService.SessionCall.stamped_exp_iff.mpr (Or.inl bound)
      · simp only [Entry.expiresAt]
        omega
      · simp only [Entry.expiresAt]
        omega
    · intro reply _
      cases reply with
      | ok stored => cases stored <;> exact ensured _
      | error error => exact ensured _

/-- Every call leaves the ends of sessions in time. -/
theorem AuthOperation.behaviour_lasts
    {operation : AuthOperation}
    (leavesExp : operation.LeavesExp) :
    (operation.behaviour env jwt).Lasts HasExp EndsInTime
      (fun _ => True) := by
  have onlyTokens :
      operation.authenticates = false →
      (∀ key sessionType mutator,
        operation ≠ .mutate key sessionType mutator) →
        (operation.behaviour env jwt).Lasts HasExp EndsInTime
          (fun _ => True) := by
    intro noLogin noMutator
    apply lasts_of_notSession
    apply AuthOperation.behaviour_contract
    · intro payload content _ now seconds _
      exact notSession_token _ _ _
    · intro payload session _ isLogin
      rw [noLogin] at isLogin
      cases isLogin
    · intro key sessionType mutator session value isMutator
      exact absurd isMutator (noMutator key sessionType mutator)
  cases operation with
  | authenticate drawnId secretGeneration payload session expireTime
      sessionLifeTime allowMultipleTokens =>
      intro now
      apply StoreProgram.LastsFrom.bind
      unfold BaseAuthService.authenticate
      apply StoreProgram.LastsFrom.bind
      refine lasts_of_notSession
        (BaseAuthService.createToken_satisfies ?_
          (fun _ _ _ => notSession_token _ _ _)) now
      intro outcome
      cases outcome with
      | error failure => trivial
      | ok token =>
          intro later
          split
          · trivial
          · apply StoreProgram.LastsFrom.bind
            refine BaseAuthService.addBoundSession_lasts ?_ leavesExp _ _
              later
            intro bound
            cases bound with
            | error failure => trivial
            | ok value => exact fun _ _ => trivial
  | authenticateWithHardSecret drawnId payload session expireTime
      sessionLifeTime =>
      intro now
      apply StoreProgram.LastsFrom.bind
      unfold BaseAuthService.authenticateWithHardSecret
      simp only [StoreProgram.LastsFrom]
      split
      · trivial
      · apply StoreProgram.LastsFrom.bind
        refine lasts_of_notSession
          (SessionService.addSession_satisfies ?_
            (fun _ => notSession_token _ _ _)) now
        intro outcome
        cases outcome with
        | error failure => trivial
        | ok stored =>
            intro later
            apply StoreProgram.LastsFrom.bind
            refine BaseAuthService.addBoundSession_lasts ?_ leavesExp _ _
              later
            intro bound
            cases bound with
            | error failure => trivial
            | ok value => exact fun _ _ => trivial
  | renewToken drawnId secretGeneration content expireTime
      allowMultipleTokens =>
      exact onlyTokens rfl (fun _ _ _ same => by cases same)
  | logout content =>
      exact onlyTokens rfl (fun _ _ _ same => by cases same)
  | mutate key sessionType mutator =>
      intro now
      apply StoreProgram.LastsFrom.bind
      refine AuthSessionService.Mutator.program_lasts ?_ mutator key
        sessionType now
      intro outcome
      cases outcome with
      | error failure => trivial
      | ok value => exact fun _ => trivial
  | check params request =>
      exact onlyTokens rfl (fun _ _ _ same => by cases same)

/-! ## Who decides on the end -/

/-- The `exp` of a session. -/
def expOf (session : JsonObject) : Option Json :=
  session "exp"

/-- A call that does not log the session in copies its `exp`. -/
theorem AuthOperation.behaviour_copies
    {operation : AuthOperation}
    (notStored : operation.storesSession? ≠ some boundId) :
    (operation.behaviour env jwt).Copies (boundKey .session boundId)
      expOf := by
  have otherSession :
      ∀ {payload},
        operation.issuedPayload? = some payload →
          operation.authenticates = true →
            SessionService.session.storageKey payload.sessionChannel.text
                payload.sessionBoundId ≠
              boundKey .session boundId := by
    intro payload issued isLogin same
    apply notStored
    have sameId : payload.sessionBoundId = boundId := by
      cases payload.sessionChannel
      exact SessionService.storageKey_injective same
    simp [storesSession?, isLogin, issued, sameId]
  constructor
  · intro held
    apply AuthOperation.behaviour_contract
    · intro payload content _ now seconds _
      exact heldAt_of_ne
        (SessionService.storageKey_token_ne_session _ _ _ _) _
    · intro payload session issued isLogin earlier now seconds
      exact heldAt_of_ne (otherSession issued isLogin) _
    · intro key sessionType mutator session value _ now seconds relied
        changed isKey
      exact stored_exp changed (relied isKey) now seconds
  · apply AuthOperation.behaviour_contract
    · intro payload content _ now seconds _
      exact SessionService.storageKey_token_ne_session _ _ _ _
    · intro payload session issued isLogin earlier now seconds
      exact otherSession issued isLogin
    · intro key sessionType mutator session value _ now seconds relied _
      exact relied

/-- A login writes its session once, with an `exp`. -/
theorem BaseAuthService.addBoundSession_writesOnce
    {payload : BaseJwtPayload}
    {session : Properties}
    (noExp : session "exp" = none)
    (expireTime : Int)
    (sessionLifeTime : Option Int)
    (key : String) :
    (addBoundSession payload session expireTime sessionLifeTime).WritesOnce
      key expOf := by
  unfold addBoundSession
  split
  · trivial
  · rename_i earlier _
    have bound : boundSession session payload earlier "exp" = none := by
      unfold boundSession
      rw [Properties.set_other (by decide), Properties.set_other (by decide)]
      exact noExp
    rw [SessionService.addSession_eq]
    intro now
    refine ⟨trivial, ?_⟩
    by_cases isKey :
        SessionService.session.storageKey payload.sessionChannel.text
            payload.sessionBoundId =
          key
    · refine Or.inr ⟨isKey, ?_, ?_⟩
      · have stamped :
            ((SessionService.stamp now
                  (some (sessionExpiry sessionLifeTime expireTime))).spread
                (boundSession session payload earlier)).stringify "exp" =
              some (.int
                ((now / 1000 : Nat) +
                  sessionExpiry sessionLifeTime expireTime)) :=
          AuthSessionService.SessionCall.stamped_exp_iff.mpr (Or.inl bound)
        simp only [expOf, stamped, Option.isSome_some]
      · intro reply
        cases reply with
        | ok stored => cases stored <;> trivial
        | error error => trivial
    · refine Or.inl ⟨isKey, ?_⟩
      intro reply
      cases reply with
      | ok stored => cases stored <;> trivial
      | error error => trivial

/-- A login writes the session of its bound identifier once. -/
theorem AuthOperation.behaviour_writesOnce
    {operation : AuthOperation}
    (leavesExp : operation.LeavesExp)
    (isLogin : operation.storesSession? = some boundId) :
    (operation.behaviour env jwt).WritesOnce (boundKey .session boundId)
      expOf := by
  have noToken :
      ∀ (channel storedId : String) (value : JsonObject),
        Elsewhere (fun _ _ => True) (boundKey .session boundId)
          (SessionService.token.storageKey channel storedId) value :=
    fun _ _ _ =>
      ⟨trivial, SessionService.storageKey_token_ne_session _ _ _ _⟩
  cases operation with
  | authenticate drawnId secretGeneration payload session expireTime
      sessionLifeTime allowMultipleTokens =>
      refine StoreProgram.Founds.bind_last ?_ (fun _ => trivial)
      unfold BaseAuthService.authenticate
      apply StoreProgram.Founds.bind
      refine BaseAuthService.createToken_satisfies ?_
        (fun _ _ _ => noToken _ _ _)
      intro outcome
      cases outcome with
      | error failure => trivial
      | ok token =>
          simp only
          split
          · trivial
          · exact
              (BaseAuthService.addBoundSession_writesOnce leavesExp _ _
                _).bind_last (fun _ => trivial)
  | authenticateWithHardSecret drawnId payload session expireTime
      sessionLifeTime =>
      refine StoreProgram.Founds.bind_last ?_ (fun _ => trivial)
      unfold BaseAuthService.authenticateWithHardSecret
      intro now
      simp only
      split
      · trivial
      · apply StoreProgram.Founds.bind
        refine SessionService.addSession_satisfies ?_
          (fun _ => noToken _ _ _)
        intro outcome
        cases outcome with
        | error failure => trivial
        | ok stored =>
            exact
              (BaseAuthService.addBoundSession_writesOnce leavesExp _ _
                _).bind_last (fun _ => trivial)
  | renewToken drawnId secretGeneration content expireTime
      allowMultipleTokens => cases isLogin
  | logout content => cases isLogin
  | mutate key sessionType mutator => cases isLogin
  | check params request => cases isLogin

/--
Whatever calls interleave, command by command, with whatever values, as long as
every login takes a bound identifier of its own and a session without `exp`: at
any two instants at which the session of a bound identifier is stored it has the
same `exp`, and both times it ends within the second that `exp` begins.
-/
theorem session_end_kept
    {start : Nat}
    {first second : List (Action AuthOperation)}
    {middle final : AuthWorld}
    (leaveExp :
      ∀ operation ∈ World.calls (first ++ second), operation.LeavesExp)
    (distinct :
      ((World.calls (first ++ second)).filterMap
        AuthOperation.storesSession?).Nodup)
    (ranFirst :
      (AuthWorld.initial start).run? (AuthOperation.behaviour env jwt)
          first =
        some middle)
    (ranSecond :
      middle.run? (AuthOperation.behaviour env jwt) second = some final)
    {boundId : String}
    {entry later : Entry JsonObject}
    (found :
      middle.backend.store.lookup (boundKey .session boundId) = some entry)
    (foundLater :
      final.backend.store.lookup (boundKey .session boundId) =
        some later) :
    ∃ exp : Int,
      (entry.value "exp" = some (.int exp) ∧
          1000 * exp ≤ entry.expiresAt ∧
          entry.expiresAt < 1000 * exp + 1000) ∧
        later.value "exp" = some (.int exp) ∧
          1000 * exp ≤ later.expiresAt ∧
          later.expiresAt < 1000 * exp + 1000 := by
  have called :
      ∀ {operation : AuthOperation} {actions : List (Action AuthOperation)},
        .invoke operation ∈ actions → operation ∈ World.calls actions :=
    fun member => List.mem_filterMap.mpr ⟨_, member, rfl⟩
  have split :
      World.calls (first ++ second) =
        World.calls first ++ World.calls second :=
    List.filterMap_append
  have lastsFirst :
      (AuthWorld.initial start).Lasting HasExp EndsInTime := by
    refine ⟨?_, ?_⟩
    · intro key stored isThere
      cases isThere
    · intro thread member
      cases member
  have reliable :
      ∀ {key : String} {stored : Entry JsonObject},
        EndsInTime key stored → HasExp key stored.value := by
    intro key stored inTime boundId isKey
    obtain ⟨exp, own, -⟩ := inTime boundId isKey
    exact ⟨exp, own⟩
  have lastsMiddle : middle.Lasting HasExp EndsInTime := by
    refine lastsFirst.run reliable ?_ ranFirst
    intro operation member
    apply AuthOperation.behaviour_lasts
    apply leaveExp
    rw [split]
    exact List.mem_append_left _ (called member)
  have lastsFinal : final.Lasting HasExp EndsInTime := by
    refine lastsMiddle.run reliable ?_ ranSecond
    intro operation member
    apply AuthOperation.behaviour_lasts
    apply leaveExp
    rw [split]
    exact List.mem_append_right _ (called member)
  have one :
      World.OneFounder (AuthOperation.stores boundId)
        (World.calls (first ++ second)) := by
    refine (List.pairwise_filterMap.mp distinct).imp ?_
    intro earlier other different isFounder
    cases founder : AuthOperation.stores boundId other with
    | false => rfl
    | true =>
        exact (different boundId
          (by simpa [AuthOperation.stores] using isFounder) boundId
          (by simpa [AuthOperation.stores] using founder) rfl).elim
  have same : expOf later.value = expOf entry.value := by
    refine World.aspect_kept rfl rfl one ?_ ranFirst ranSecond found
      foundLater
    intro operation member
    by_cases isLogin : operation.storesSession? = some boundId
    · rw [if_pos (by simpa [AuthOperation.stores] using isLogin)]
      exact AuthOperation.behaviour_writesOnce (leaveExp operation member)
        isLogin
    · rw [if_neg (by simpa [AuthOperation.stores] using isLogin)]
      exact AuthOperation.behaviour_copies isLogin
  obtain ⟨exp, own, within⟩ :=
    lastsMiddle.entries _ entry found boundId rfl
  obtain ⟨laterExp, laterOwn, laterWithin⟩ :=
    lastsFinal.entries _ later foundLater boundId rfl
  unfold expOf at same
  rw [own, laterOwn] at same
  obtain rfl : laterExp = exp :=
    Json.int_injective (Option.some.inj same)
  exact ⟨laterExp, ⟨own, within⟩, laterOwn, laterWithin⟩

end Ends

namespace Sample

/-- Late in the first second the user logs in. -/
def loginLate : List (Action AuthOperation) :=
  [.tick 900, .invoke (login .user "first"), .advance 0, .advance 0,
    .advance 0]

/-- Two changes of the session, each begun before the other one ends. -/
def changesInterleaved : List (Action AuthOperation) :=
  [.invoke (.mutate "alice:first" .token
      (.addPermissions [.otpVerified])),
    .invoke (.mutate "alice:first" .token
      (.clearFlowSession (.octo .signContract))),
    .advance 1, .tick 1500, .advance 2, .advance 2, .tick 700, .advance 1]

/-- When the session ends, and when it was written. -/
def sessionTimes (world : AuthWorld) : Option (Nat × Nat) :=
  (world.backend.store.lookup (boundKey .session "alice:first")).map
    fun entry => (entry.expiresAt, entry.writtenAt)

end Sample

/-- A session of ten seconds that is written again twice. -/
theorem session_end_kept_alice :
    ∃ (middle final : AuthWorld) (entry later : Entry JsonObject) (exp : Int),
      (AuthWorld.initial 0).run? Sample.behaviour Sample.loginLate =
          some middle ∧
        middle.run? Sample.behaviour Sample.changesInterleaved =
          some final ∧
        (entry.expiresAt, entry.writtenAt) = (10900, 900) ∧
        (later.expiresAt, later.writtenAt) = (10100, 3100) ∧
        later.value "exp" = some (.int exp) ∧
        later.expiresAt < 1000 * exp + 1000 := by
  have outcome :
      (((AuthWorld.initial 0).run? Sample.behaviour
          Sample.loginLate).bind fun middle =>
        (middle.run? Sample.behaviour Sample.changesInterleaved).map
          fun final =>
            (Sample.sessionTimes middle, Sample.sessionTimes final)) =
        some (some (10900, 900), some (10100, 3100)) := by
    decide +kernel
  obtain ⟨middle, ranFirst, rest⟩ := Option.bind_eq_some_iff.mp outcome
  obtain ⟨final, ranSecond, both⟩ := Option.map_eq_some_iff.mp rest
  obtain ⟨timesMiddle, timesFinal⟩ := Prod.mk.inj both
  obtain ⟨entry, found, times⟩ := Option.map_eq_some_iff.mp timesMiddle
  obtain ⟨later, foundLater, laterTimes⟩ :=
    Option.map_eq_some_iff.mp timesFinal
  have leaveExp :
      ∀ operation ∈
          World.calls (Sample.loginLate ++ Sample.changesInterleaved),
        operation.LeavesExp := by
    intro operation member
    have cases_ :
        operation = Sample.login .user "first" ∨
          operation =
            .mutate "alice:first" .token (.addPermissions [.otpVerified]) ∨
          operation =
            .mutate "alice:first" .token
              (.clearFlowSession (.octo .signContract)) := by
      simpa [World.calls, Sample.loginLate, Sample.changesInterleaved]
        using member
    rcases cases_ with rfl | rfl | rfl
    · rfl
    · trivial
    · trivial
  obtain ⟨exp, -, own, -, before⟩ :=
    session_end_kept leaveExp (by decide +kernel) ranFirst ranSecond found
      foundLater
  exact ⟨middle, final, entry, later, exp, ranFirst, ranSecond, times,
    laterTimes, own, before⟩

end NestBackend
