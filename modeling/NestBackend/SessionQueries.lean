import NestBackend.SessionStore

namespace NestBackend

open JavaScript

/-!
# The queries of the session store

`checkSession`, `getSessionValue` and `getKeys` ask in three ways whether a
session is there.  After any history of one service the last two agree with the
history; the first does not look at what it has read.
-/

namespace SessionService

/-- A call that changes what is stored, and when it is made. -/
inductive StoreCall where
  | addSession
      (now : Nat)
      (type : JwtSession)
      (id : String)
      (expireInSeconds : Option Int)
      (value : Properties)
  | clearSession
      (now : Nat)
      (type : JwtSession)
      (id : String)

/-- An accepted `addSession`. -/
structure Added where
  now : Nat
  seconds : Int
  value : Properties

namespace Added

/-- The call. -/
def call (added : Added) (type : JwtSession) (id : String) : StoreCall :=
  .addSession added.now type id (some added.seconds) added.value

/-- Its value, completed with `exp` and `iat`. -/
def completed (added : Added) : JsonObject :=
  ((stamp added.now (some added.seconds)).spread added.value).stringify

/-- The entry that it writes. -/
def entry (added : Added) : Entry JsonObject :=
  ⟨added.completed, added.now, added.seconds.toNat * 1000⟩

end Added

namespace StoreCall

/-- Make the call. -/
def perform
    (service : SessionService)
    (backend : Backend String JsonObject) :
    StoreCall → Backend String JsonObject
  | .addSession now type id expireInSeconds value =>
      ((service.addSession type.text id expireInSeconds value).run
        (fun _ => now) backend).1
  | .clearSession now type id =>
      ((service.clearSession type.text id).run (fun _ => now) backend).1

/-- Make some calls, one after the other. -/
def performAll
    (service : SessionService)
    (backend : Backend String JsonObject)
    (calls : List StoreCall) : Backend String JsonObject :=
  calls.foldl (perform service) backend

/--
The call puts another session in the place of this one or clears it.  An
`addSession` that is refused does neither.
-/
def Replaces (type : JwtSession) (id : String) : StoreCall → Prop
  | .addSession _ otherType otherId expireInSeconds _ =>
      otherType = type ∧ otherId = id ∧
        ∃ seconds, expireInSeconds = some seconds ∧ 0 < seconds
  | .clearSession _ otherType otherId => otherType = type ∧ otherId = id

end StoreCall

section Queries

variable
  {service : SessionService}
  {type : JwtSession}
  {id : String}
  {backend : Backend String JsonObject}

open StoreCall

/-- A call that replaces the session is an accepted one, or clears it. -/
theorem Replaces.cases
    {call : StoreCall}
    (replaces : call.Replaces type id) :
    (∃ added : Added, 0 < added.seconds ∧ call = added.call type id) ∨
      ∃ now, call = .clearSession now type id := by
  cases call with
  | addSession now otherType otherId expireInSeconds value =>
      obtain ⟨rfl, rfl, seconds, rfl, positive⟩ := replaces
      exact .inl ⟨⟨now, seconds, value⟩, positive, rfl⟩
  | clearSession now otherType otherId =>
      obtain ⟨rfl, rfl⟩ := replaces
      exact .inr ⟨now, rfl⟩

end Queries

end SessionService

end NestBackend
