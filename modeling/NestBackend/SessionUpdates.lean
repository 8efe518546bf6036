import NestBackend.IssuingRuns
import NestBackend.ReadModifyWrite

namespace NestBackend

open JavaScript

/-!
# Concurrent changes of one session

Each of the five operations of `AuthSessionService` that change a session reads
it and writes it back, so two concurrent calls of them are serial or lose one
of the two changes, depending on whether their commands overlap.
-/

namespace AuthSessionService.Mutator

/--
What a call that read `session` stores at an instant; a call that throws in
between stores nothing.
-/
def written
    (mutator : Mutator)
    (now : Nat)
    (session : JsonObject) : JsonObject :=
  match mutator.change session with
  | .error _ => session
  | .ok value =>
      ((SessionService.stamp now (secondsLeft session now)).spread
        value).stringify

/-- The rest of a call that has read `session`. -/
def holding
    (mutator : Mutator)
    (key : String)
    (sessionType : JwtSession)
    (session : JsonObject) : SessionProgram AuthAnswer :=
  match mutator.change session with
  | .error failure => .done (.error failure)
  | .ok value =>
      .clock fun now => do
        let stored ← SessionService.session.addSession sessionType.text
          key (secondsLeft session now) value
        return .session stored

variable
  {mutator : Mutator}
  {key : String}
  {sessionType : JwtSession}

/-- The write of a call that holds a session. -/
theorem holding_step
    (now : Nat)
    (backend : Backend String JsonObject)
    (session : JsonObject) :
    (∃ failure,
        StoreProgram.step now backend
            (mutator.holding key sessionType session) =
          (backend, .done (.error failure))) ∨
      ∃ lifetime result,
        StoreProgram.step now backend
            (mutator.holding key sessionType session) =
          ({ backend with
              store :=
                backend.store.write now
                  (SessionService.session.storageKey sessionType.text key)
                  lifetime (mutator.written now session) },
            .done (.ok result)) := by
  unfold holding written
  cases changed : mutator.change session with
  | error failure => exact Or.inl ⟨failure, rfl⟩
  | ok value =>
      simp only [SessionService.addSession_eq, StoreProgram.step,
        StoreProgram.clock_bind, StoreProgram.setex_bind]
      cases lifetime : secondsLeft session now with
      | none => exact Or.inl ⟨_, rfl⟩
      | some seconds =>
          by_cases positive : 0 < seconds
          · right
            rw [Backend.setex_of_pos _ _ _ positive]
            exact ⟨_, _, rfl⟩
          · left
            simp only [Backend.setex, if_neg positive]
            exact ⟨_, rfl⟩

/-- A call is refused at once, or starts with the read. -/
theorem behaviour_cases
    (env : CoreEnvironment)
    (jwt : JwtService)
    (mutator : Mutator)
    (key : String)
    (sessionType : JwtSession) :
    (∃ failure,
        (AuthOperation.mutate key sessionType mutator).behaviour env jwt =
          .done (.error failure)) ∨
      (AuthOperation.mutate key sessionType mutator).behaviour env jwt =
        .get (SessionService.session.storageKey sessionType.text key)
          fun reply =>
            match reply with
            | .ok (some session) => mutator.holding key sessionType session
            | _ =>
                .done (.error (.unauthorizedException
                  "Failed to get session value")) := by
  unfold AuthOperation.behaviour
  rcases mutator.program_cases key sessionType with
    rewrites | refused
  · right
    simp only [rewrites, rewriteSession_eq, StoreProgram.get_bind]
    congr 1
    funext reply
    rcases reply with error | (_ | session)
    · rfl
    · rfl
    · unfold holding
      cases changed : mutator.change session with
      | error failure => simp only [changed, StoreProgram.error_bind]
      | ok value => simp only [changed, StoreProgram.clock_bind]
  · left
    simp only [refused, StoreProgram.error_bind]
    exact ⟨_, rfl⟩

/-- Every call reads its session and writes it back. -/
theorem readsThenWrites
    (env : CoreEnvironment)
    (jwt : JwtService)
    (mutator : Mutator)
    (key : String)
    (sessionType : JwtSession) :
    ((AuthOperation.mutate key sessionType mutator).behaviour env
        jwt).ReadsThenWrites
      (SessionService.session.storageKey sessionType.text key)
      mutator.written (mutator.holding key sessionType) where
  notDone result done := by
    rcases mutator.behaviour_cases env jwt key sessionType with
      ⟨failure, refused⟩ | reads
    · rw [refused] at done
      cases done
    · rw [reads] at done
      cases done
  holdingNotDone session result done := by
    unfold holding at done
    cases changed : mutator.change session with
    | error failure =>
        rw [changed] at done
        cases done
    | ok value =>
        rw [changed] at done
        cases done
  reads now backend := by
    rcases mutator.behaviour_cases env jwt key sessionType with
      ⟨failure, refused⟩ | reads
    · left
      exact ⟨failure, by rw [refused]; rfl⟩
    · rw [reads]
      simp only [StoreProgram.step]
      cases found :
          backend.store.read now
            (SessionService.session.storageKey sessionType.text key) with
      | none => exact Or.inl ⟨_, rfl⟩
      | some session => exact Or.inr ⟨session, rfl, rfl⟩
  writes now backend session := holding_step now backend session

/--
What a call that runs alone and succeeds leaves: the value computed from the
session it found, at the instant of its write.
-/
theorem run_written
    {env : CoreEnvironment}
    {jwt : JwtService}
    {clock : Nat → Nat}
    {backend after : Backend String JsonObject}
    {answer : AuthAnswer}
    {session : JsonObject}
    (found :
      backend.store.read (clock 0)
          (SessionService.session.storageKey sessionType.text key) =
        some session)
    (ran :
      ((AuthOperation.mutate key sessionType mutator).behaviour env
          jwt).run clock backend =
        (after, .ok answer)) :
    ∃ entry,
      after.store.lookup
          (SessionService.session.storageKey sessionType.text key) =
        some entry ∧
        entry.value = mutator.written (clock 1) session := by
  rcases mutator.behaviour_cases env jwt key sessionType with
    ⟨failure, refused⟩ | reads
  · rw [refused] at ran
    cases ran
  · rw [reads] at ran
    simp only [StoreProgram.run, found] at ran
    unfold holding at ran
    unfold written
    cases changed : mutator.change session with
    | error failure =>
        rw [changed] at ran
        cases ran
    | ok value =>
        rw [changed] at ran
        simp only [StoreProgram.run] at ran
        obtain ⟨seconds, -, -, finished⟩ :=
          SessionService.addSession_bind_run_ok ran
        simp only [StoreProgram.pure_eq, StoreProgram.run,
          Prod.mk.injEq] at finished
        rw [← finished.1]
        exact ⟨_, ExpiringStore.lookup_write_same _ _ _ _ _, rfl⟩

end AuthSessionService.Mutator

/-- The world in which these calls have been made and have done nothing yet. -/
def AuthWorld.called
    (env : CoreEnvironment)
    (jwt : JwtService)
    (now : Nat)
    (backend : Backend String JsonObject)
    (operations : List AuthOperation) : AuthWorld where
  now := now
  backend := backend
  threads :=
    operations.map fun operation =>
      ⟨operation, operation.behaviour env jwt, 0⟩

section TwoCalls

variable
  {env : CoreEnvironment}
  {jwt : JwtService}
  {key : String}
  {sessionType : JwtSession}
  {start : Nat}
  {store : ExpiringStore String JsonObject}
  {session : JsonObject}
  {actions : List (Action AuthOperation)}
  {final : AuthWorld}

open AuthSessionService

/-- The first of two calls, at position zero, and the second. -/
def byPosition (first second : Mutator) : Nat → Mutator
  | 0 => first
  | _ => second

/--
Two calls on one live session that both succeed: if their commands do not
overlap, the session left is that of the one call after the other; if both read
before either writes, it is that of the later writer alone.
-/
theorem AuthSessionService.Mutator.two_calls_interleaved
    (first second : Mutator)
    (live :
      store.read start
          (SessionService.session.storageKey sessionType.text key) =
        some session)
    (noInvoke : NoInvoke actions)
    (ran :
      (AuthWorld.called env jwt start ⟨store, []⟩
          [.mutate key sessionType first,
            .mutate key sessionType second]).run?
          (AuthOperation.behaviour env jwt) actions =
        some final)
    (succeeded : final.Succeeded) :
    ∃ left,
      final.Holds
          (SessionService.session.storageKey sessionType.text key) left ∧
        Interleaved
          (fun index => (byPosition first second index).written)
          session (turns actions) left := by
  have pair :
      World.Pair
        (AuthWorld.called env jwt start ⟨store, []⟩
          [.mutate key sessionType first,
            .mutate key sessionType second])
        0 1
        ((AuthOperation.mutate key sessionType
          (byPosition first second 0)).behaviour env jwt)
        ((AuthOperation.mutate key sessionType
          (byPosition first second 1)).behaviour env jwt) := by
    refine ⟨by decide, ⟨_, rfl, rfl⟩, ⟨_, rfl, rfl⟩, ?_⟩
    intro index thread found
    match index with
    | 0 => exact Or.inl rfl
    | 1 => exact Or.inr rfl
    | later + 2 => cases found
  obtain ⟨entry, lookup, -, value⟩ := ExpiringStore.read_eq_some.mp live
  have calls (index : Nat) :=
    (byPosition first second index).readsThenWrites env jwt key sessionType
  exact pair.interleaved calls rfl noInvoke ran succeeded
    ⟨entry, lookup, value⟩

end TwoCalls

namespace Sample

/-- The texts of a session's permissions. -/
def permissionTexts (session : JsonObject) : List String :=
  match session "permissions" with
  | some (.arr elements) => elements.map Json.templateText
  | _ => []

/-- Two grants to this session, in a given schedule from the second second. -/
def grantBoth (actions : List (Action AuthOperation)) : Option AuthWorld :=
  (AuthWorld.called environment JwtService.Marked.service 1000
    ⟨sessionStore, []⟩
    [.mutate "alice:first" .token (.addPermissions [.otpVerified]),
      .mutate "alice:first" .token
        (.addPermissions [.uploadImagePrivate])]).run? behaviour actions

/-- Whether every call has succeeded. -/
def allSucceeded (world : AuthWorld) : Bool :=
  world.threads.all fun thread =>
    match thread.program with
    | .done (.ok _) => true
    | _ => false

/-- What is left of the session, when both calls have succeeded. -/
def permissionsAfter
    (actions : List (Action AuthOperation)) : Option (List String) := do
  let world ← grantBoth actions
  if allSucceeded world then
    let left ← world.backend.store.read world.now
      (SessionService.session.storageKey JwtSession.token.text
        "alice:first")
    some (permissionTexts left)
  else
    none

end Sample

/-- The test for success is right. -/
theorem succeeded_of_allSucceeded
    {world : AuthWorld}
    (all : Sample.allSucceeded world = true) :
    world.Succeeded := by
  intro thread member
  have ended := List.all_eq_true.mp all thread member
  split at ended
  · rename_i result done
    exact ⟨result, done⟩
  · cases ended

/-- Two grants whose commands do not overlap. -/
theorem AuthSessionService.Mutator.two_calls_interleaved_grants :
    ∃ final left,
      Sample.grantBoth [.advance 0, .advance 0, .advance 1, .advance 1] =
          some final ∧
        final.Holds
          (SessionService.session.storageKey JwtSession.token.text
            "alice:first") left ∧
        Interleaved
          (fun index =>
            (byPosition (.addPermissions [.otpVerified])
              (.addPermissions [.uploadImagePrivate]) index).written)
          ((SessionService.stamp 0 (some 10)).spread
            (BaseAuthService.boundSession Sample.session
              (Sample.issuedPayload .user "first") [])).stringify
          [0, 0, 1, 1] left := by
  have outcome :
      (Sample.grantBoth
        [.advance 0, .advance 0, .advance 1, .advance 1]).any
          Sample.allSucceeded =
        true := by
    decide +kernel
  obtain ⟨final, ran, all⟩ := (Option.any_eq_true _ _).mp outcome
  have live :
      Sample.sessionStore.read 1000
          (SessionService.session.storageKey JwtSession.token.text
            "alice:first") =
        some ((SessionService.stamp 0 (some 10)).spread
          (BaseAuthService.boundSession Sample.session
            (Sample.issuedPayload .user "first") [])).stringify := by
    have sameKey :
        SessionService.session.storageKey JwtSession.token.text
            "alice:first" =
          BaseAuthService.sessionKey
            (Sample.issuedPayload .user "first") := by
      decide +kernel
    rw [sameKey]
    exact ExpiringStore.read_eq_some.mpr
      ⟨_, BaseAuthService.writeBoth_session, by decide, rfl⟩
  have noInvoke :
      NoInvoke
        ([.advance 0, .advance 0, .advance 1, .advance 1] :
          List (Action AuthOperation)) := by
    intro operation member
    simp at member
  have schedule := ran
  unfold Sample.grantBoth at schedule
  obtain ⟨left, holds, interleaved⟩ :=
    AuthSessionService.Mutator.two_calls_interleaved
      (.addPermissions [.otpVerified])
      (.addPermissions [.uploadImagePrivate]) live noInvoke schedule
      (succeeded_of_allSucceeded all)
  exact ⟨final, left, ran, holds, interleaved⟩

/--
Two grants that read the session before either writes it: one of the two
permissions is gone, and it is there in both serial orders.
-/
theorem AuthSessionService.Mutator.overlapping_grant_lost :
    Sample.permissionsAfter
        [.advance 0, .advance 1, .advance 0, .advance 1] =
        some ["UPLOAD_IMAGE_PRIVATE"] ∧
      Sample.permissionsAfter
          [.advance 0, .advance 0, .advance 1, .advance 1] =
        some ["OTP_VERIFIED", "UPLOAD_IMAGE_PRIVATE"] ∧
      Sample.permissionsAfter
          [.advance 1, .advance 1, .advance 0, .advance 0] =
        some ["UPLOAD_IMAGE_PRIVATE", "OTP_VERIFIED"] := by
  decide +kernel

end NestBackend
