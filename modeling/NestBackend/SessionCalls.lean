import NestBackend.AuthSessionService

namespace NestBackend

open JavaScript

/-!
# Calls on one session, one at a time

A call of `AuthSessionService` reads the session at one instant; at another it
computes the lifetime that is left and sends its write.
-/

namespace AuthSessionService

/-- A call with the instants of its two commands. -/
structure SessionCall where
  mutator : Mutator
  readAt : Nat
  writtenAt : Nat

/-- The call passes the check that comes before the read. -/
def Mutator.typed : Mutator → Bool
  | .addFlowSession value => (value.get "type").any Json.truthy
  | .updateFlowSession value => (value.get "type").any Json.truthy
  | _ => true

namespace SessionCall

/-- The instants of the commands. -/
def clock (call : SessionCall) : Nat → Nat
  | 0 => call.readAt
  | _ => call.writtenAt

/-- Make the call while no other is under way. -/
def perform
    (key : String)
    (sessionType : JwtSession)
    (backend : Backend String JsonObject)
    (call : SessionCall) :
    Backend String JsonObject × Except Failure Properties :=
  (call.mutator.program key sessionType).run call.clock backend

/-- Make some calls, one after the other. -/
def performAll
    (key : String)
    (sessionType : JwtSession)
    (backend : Backend String JsonObject)
    (calls : List SessionCall) : Backend String JsonObject :=
  calls.foldl
    (fun backend call => (call.perform key sessionType backend).1) backend

end SessionCall

/-- A call without a type is refused; every other one rewrites its session. -/
theorem Mutator.program_eq
    (mutator : Mutator)
    (key : String)
    (sessionType : JwtSession) :
    mutator.program key sessionType =
      if mutator.typed then
        rewriteSession sessionType sessionType key mutator.change
      else
        .done (.error (.internalServerErrorException
          SystemCode.sorrySomethingWentWrong.text)) := by
  have onlyToken : JwtSession.token = sessionType := by
    cases sessionType
    rfl
  cases mutator with
  | addPermissions permissions =>
      simp [program, typed, change, AuthSessionService.addPermissions,
        onlyToken]
  | addFlowSession value => rfl
  | updateFlowSession value => rfl
  | clearFlowSession type => rfl
  | addFlowPermissions type permissions => rfl

namespace SessionCall

section Perform

variable
  {key : String}
  {sessionType : JwtSession}
  {backend : Backend String JsonObject}
  {call : SessionCall}

/--
A call that returns: it has read the session and computed the new one, and some
lifetime was left when it wrote.
-/
structure Returns
    (call : SessionCall)
    (key : String)
    (sessionType : JwtSession)
    (backend : Backend String JsonObject)
    (session : JsonObject)
    (value : Properties)
    (seconds : Int) : Prop where
  typed : call.mutator.typed = true
  read :
    backend.store.read call.readAt
        (SessionService.session.storageKey sessionType.text key) =
      some session
  changed : call.mutator.change session = .ok value
  secondsLeft :
    AuthSessionService.secondsLeft session call.writtenAt = some seconds
  positive : 0 < seconds

/-- What is stored by a call that returns. -/
def stored
    (call : SessionCall)
    (value : Properties)
    (seconds : Int) : JsonObject :=
  ((SessionService.stamp call.writtenAt (some seconds)).spread
    value).stringify

/-- The backend after a call that returns. -/
theorem Returns.perform
    {session : JsonObject}
    {value : Properties}
    {seconds : Int}
    (returns :
      call.Returns key sessionType backend session value seconds) :
    call.perform key sessionType backend =
      ({ backend with
          store :=
            backend.store.write call.writtenAt
              (SessionService.session.storageKey sessionType.text key)
              (seconds.toNat * 1000) (call.stored value seconds) },
        .ok value) := by
  simp only [SessionCall.perform, Mutator.program_eq, returns.typed,
    ↓reduceIte, rewriteSession_eq, StoreProgram.run, clock, returns.read,
    returns.changed, SessionService.addSession_eq, returns.secondsLeft,
    Backend.setex_of_pos _ _ _ returns.positive, stored]

/-- A session with a lifetime left has an `exp`. -/
theorem Returns.own_exp
    {session : JsonObject}
    {value : Properties}
    {seconds : Int}
    (returns :
      call.Returns key sessionType backend session value seconds) :
    ∃ exp, session "exp" = some exp := by
  cases held : session "exp" with
  | none =>
      have left := returns.secondsLeft
      simp [AuthSessionService.secondsLeft, held, toNumber?, Numeric.minus,
        Numeric.toInt?] at left
  | some exp => exact ⟨exp, rfl⟩

/-- A call keeps the own `exp` and `iat` of the session it found. -/
theorem Returns.stored_own
    {session : JsonObject}
    {value : Properties}
    {seconds : Int}
    (returns :
      call.Returns key sessionType backend session value seconds)
    {name : String}
    {held : Json}
    (own : session name = some held)
    (notPermissions : name ≠ "permissions")
    (notFlows : name ≠ "flowSessions") :
    call.stored value seconds name = some held := by
  have kept :=
    Mutator.change_other returns.changed notPermissions notFlows
  simp [stored, Properties.stringify, Properties.spread, kept,
    JsonObject.properties, own]

/-- A call returns, or it throws and leaves everything as it was. -/
theorem perform_cases
    (key : String)
    (sessionType : JwtSession)
    (backend : Backend String JsonObject)
    (call : SessionCall) :
    (∃ session value seconds,
        call.Returns key sessionType backend session value seconds) ∨
      ∃ failure,
        call.perform key sessionType backend = (backend, .error failure) := by
  by_cases typed : call.mutator.typed = true
  case neg =>
    right
    simp [perform, Mutator.program_eq, typed, StoreProgram.run]
  cases read :
      backend.store.read call.readAt
        (SessionService.session.storageKey sessionType.text key) with
  | none =>
      right
      simp [perform, Mutator.program_eq, typed, rewriteSession_eq,
        StoreProgram.run, clock, read]
  | some session =>
      cases changed : call.mutator.change session with
      | error failure =>
          right
          simp [perform, Mutator.program_eq, typed, rewriteSession_eq,
            StoreProgram.run, clock, read, changed]
      | ok value =>
          cases left :
              AuthSessionService.secondsLeft session call.writtenAt with
          | none =>
              right
              simp [perform, Mutator.program_eq, typed, rewriteSession_eq,
                StoreProgram.run, clock, read, changed,
                SessionService.addSession_eq, left, Backend.setex]
          | some seconds =>
              by_cases positive : 0 < seconds
              · exact .inl
                  ⟨session, value, seconds, typed, read, changed, left,
                    positive⟩
              · right
                simp [perform, Mutator.program_eq, typed,
                  rewriteSession_eq, StoreProgram.run, clock, read,
                  changed, SessionService.addSession_eq, left,
                  Backend.setex, positive]

end Perform

end SessionCall

end AuthSessionService

end NestBackend
