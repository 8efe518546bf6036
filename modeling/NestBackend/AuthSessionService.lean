import NestBackend.SessionPayload
import NestBackend.SessionStore

namespace NestBackend

open JavaScript

/-!
# `AuthSessionService`

The five operations that change a stored session.  Each reads the session,
computes the new one, and writes it back with the lifetime that `exp` leaves.
The computations are pure and stand first.
-/

namespace AuthSessionService

/-! ## Computing the new session -/

/-- `(session as any).exp - Math.floor(Date.now() / 1000)`. -/
def secondsLeft (session : JsonObject) (now : Nat) : Option Int :=
  ((toNumber? (session "exp")).minus (now / 1000 : Nat)).toInt?

/-- Push each text that the array does not include yet. -/
def pushMissing (elements : List Json) : List String → List Json
  | [] => elements
  | text :: rest =>
      if includes elements text then
        pushMissing elements rest
      else
        pushMissing (elements ++ [.str text]) rest

/-- `text.includes(part)`. -/
def includesText (text part : String) : Bool :=
  text.toList.tails.any part.toList.isPrefixOf

/--
`texts.forEach((p) => { if (!target.includes(p)) { target.push(p); } })`.
Only an array has both methods; a string has the first.
-/
def pushAll
    (target : Option Json) :
    List String → Except Failure (Option Json)
  | [] => .ok target
  | texts =>
      match target with
      | some (.arr elements) =>
          .ok (some (.arr (pushMissing elements texts)))
      | some (.str text) =>
          if texts.all (includesText text) then
            .ok target
          else
            .error .typeError
      | _ => .error .typeError

/-- `session.flowSessions && session.flowSessions[type]`. -/
def flowSession (session : JsonObject) (type : String) : Option Json :=
  (session "flowSessions").bind (Json.property type)

/--
`{ ...session, flowSessions: { ...session.flowSessions, [type]: flow } }`.
-/
def setFlowSession
    (session : JsonObject)
    (type : String)
    (flow : Option Json) : Properties :=
  (JsonObject.properties session).set "flowSessions"
    (some (.obj
      ((Properties.ofJson (session "flowSessions")).set type
        flow).stringify))

/-- The session that `addPermissions` writes. -/
def withPermissions
    (permissions : List UserPermission)
    (session : JsonObject) : Except Failure Properties :=
  let held :=
    if (session "permissions").any Json.truthy then
      session "permissions"
    else
      some (.arr [])
  (pushAll held (permissions.map UserPermission.text)).map fun updated =>
    (JsonObject.properties session).set "permissions" updated

/-- The session that `addFlowSession` writes. -/
def withFlowSession
    (value : Properties)
    (session : JsonObject) : Except Failure Properties :=
  let type := templateText? (value.get "type")
  .ok (setFlowSession session type
    (some (.obj
      ((Properties.ofJson (flowSession session type)).spread
        value).stringify)))

/-- The session that `clearFlowSession` writes. -/
def withoutFlowSession
    (type : FlowType)
    (session : JsonObject) : Except Failure Properties :=
  .ok (setFlowSession session type.text none)

/-- The session that `addFlowPermissions` writes. -/
def withFlowPermissions
    (type : FlowType)
    (permissions : List FlowPermission)
    (session : JsonObject) : Except Failure Properties :=
  match flowSession session type.text with
  | none =>
      .error (.badRequestException SystemCode.sessionNotAvailable.text)
  | some flow =>
      if flow.truthy then
        (pushAll (flow.property "permissions")
          (permissions.map FlowPermission.text)).map fun updated =>
            let own := Properties.ofJson (some flow)
            let granted :=
              match updated with
              | some held => own.set "permissions" (some held)
              | none => own
            setFlowSession session type.text (some (.obj granted.stringify))
      else
        .error (.badRequestException SystemCode.sessionNotAvailable.text)

/-! ## The operations -/

/--
The shape the operations share: read under one session type, write under
another, with the lifetime that is left.
-/
def rewriteSession
    (readType writeType : JwtSession)
    (key : String)
    (change : JsonObject → Except Failure Properties) :
    SessionProgram Properties := do
  let session ← SessionService.session.getSessionValue readType.text key
  match change session with
  | .error failure => throw failure
  | .ok value =>
      .clock fun now =>
        SessionService.session.addSession writeType.text key
          (secondsLeft session now) value

/-- `addPermissions`; it reads under `JWT_SESSION.TOKEN` in any case. -/
def addPermissions
    (key : String)
    (permissions : List UserPermission)
    (sessionType : JwtSession) : SessionProgram Properties :=
  rewriteSession .token sessionType key (withPermissions permissions)

/-- `addFlowSession`. -/
def addFlowSession
    (key : String)
    (value : Properties)
    (sessionType : JwtSession) : SessionProgram Properties :=
  if (value.get "type").any Json.truthy then
    rewriteSession sessionType sessionType key (withFlowSession value)
  else
    throw (.internalServerErrorException
      SystemCode.sorrySomethingWentWrong.text)

/-- `updateFlowSession`. -/
def updateFlowSession
    (key : String)
    (value : Properties)
    (sessionType : JwtSession) : SessionProgram Properties :=
  addFlowSession key value sessionType

/-- `getFlowSession`. -/
def getFlowSession
    (key : String)
    (type : FlowType)
    (sessionType : JwtSession) : SessionProgram Json := do
  let session ← SessionService.session.getSessionValue sessionType.text key
  match flowSession session type.text with
  | none =>
      throw (.badRequestException SystemCode.sessionNotAvailable.text)
  | some flow =>
      if flow.truthy then
        return flow
      else
        throw (.badRequestException SystemCode.sessionNotAvailable.text)

/-- `clearFlowSession`. -/
def clearFlowSession
    (key : String)
    (type : FlowType)
    (sessionType : JwtSession) : SessionProgram Properties :=
  rewriteSession sessionType sessionType key (withoutFlowSession type)

/-- `addFlowPermissions`. -/
def addFlowPermissions
    (key : String)
    (type : FlowType)
    (permissions : List FlowPermission)
    (sessionType : JwtSession) : SessionProgram Properties :=
  rewriteSession sessionType sessionType key
    (withFlowPermissions type permissions)

/-- A call of one of the operations that change a session. -/
inductive Mutator where
  | addPermissions (permissions : List UserPermission)
  | addFlowSession (value : Properties)
  | updateFlowSession (value : Properties)
  | clearFlowSession (type : FlowType)
  | addFlowPermissions
      (type : FlowType)
      (permissions : List FlowPermission)

namespace Mutator

/-- The program of the call. -/
def program
    (key : String)
    (sessionType : JwtSession) :
    Mutator → SessionProgram Properties
  | .addPermissions permissions =>
      AuthSessionService.addPermissions key permissions sessionType
  | .addFlowSession value =>
      AuthSessionService.addFlowSession key value sessionType
  | .updateFlowSession value =>
      AuthSessionService.updateFlowSession key value sessionType
  | .clearFlowSession type =>
      AuthSessionService.clearFlowSession key type sessionType
  | .addFlowPermissions type permissions =>
      AuthSessionService.addFlowPermissions key type permissions sessionType

/-- The computation of the call. -/
def change : Mutator → JsonObject → Except Failure Properties
  | .addPermissions permissions => withPermissions permissions
  | .addFlowSession value => withFlowSession value
  | .updateFlowSession value => withFlowSession value
  | .clearFlowSession type => withoutFlowSession type
  | .addFlowPermissions type permissions =>
      withFlowPermissions type permissions

end Mutator

/-! ## What the operations are as command trees -/

/-- One read, then one write unless the computation throws. -/
theorem rewriteSession_eq
    (readType writeType : JwtSession)
    (key : String)
    (change : JsonObject → Except Failure Properties) :
    rewriteSession readType writeType key change =
      .get (SessionService.session.storageKey readType.text key)
        fun reply =>
          match reply with
          | .ok (some session) =>
              match change session with
              | .error failure => .done (.error failure)
              | .ok value =>
                  .clock fun now =>
                    SessionService.session.addSession writeType.text key
                      (secondsLeft session now) value
          | _ =>
              .done (.error
                (.unauthorizedException "Failed to get session value")) := by
  unfold rewriteSession
  rw [SessionService.getSessionValue_eq, StoreProgram.get_bind]
  congr 1
  funext reply
  match reply with
  | .ok (some session) =>
      rw [StoreProgram.ok_bind]
      rfl
  | .ok none => rfl
  | .error error => rfl

/--
Every call is such a rewriting, except that a flow session without a type is
refused before anything is read.
-/
theorem Mutator.program_cases
    (mutator : Mutator)
    (key : String)
    (sessionType : JwtSession) :
    mutator.program key sessionType =
        rewriteSession sessionType sessionType key mutator.change ∨
      mutator.program key sessionType =
        .done (.error (.internalServerErrorException
          SystemCode.sorrySomethingWentWrong.text)) := by
  have onlyToken : JwtSession.token = sessionType := by
    cases sessionType
    rfl
  cases mutator with
  | addPermissions permissions =>
      left
      simp only [program, change, AuthSessionService.addPermissions,
        onlyToken]
  | addFlowSession value =>
      simp only [program, change, AuthSessionService.addFlowSession]
      split
      · exact Or.inl rfl
      · exact Or.inr rfl
  | updateFlowSession value =>
      simp only [program, change, AuthSessionService.updateFlowSession,
        AuthSessionService.addFlowSession]
      split
      · exact Or.inl rfl
      · exact Or.inr rfl
  | clearFlowSession type =>
      exact Or.inl rfl
  | addFlowPermissions type permissions =>
      exact Or.inl rfl

/-! ## What the operations leave alone -/

/-- A computation mapped to a result had a result. -/
theorem map_ok
    {Before After : Type}
    {outcome : Except Failure Before}
    {onResult : Before → After}
    {result : After}
    (mapped : outcome.map onResult = .ok result) :
    ∃ before, outcome = .ok before ∧ result = onResult before := by
  cases outcome with
  | error failure => cases mapped
  | ok before =>
      cases mapped
      exact ⟨before, rfl, rfl⟩

/-- Changing flow sessions changes no other property. -/
theorem setFlowSession_other
    {session : JsonObject}
    {type : String}
    {flow : Option Json}
    {name : String}
    (notFlows : name ≠ "flowSessions") :
    setFlowSession session type flow name =
      JsonObject.properties session name := by
  unfold setFlowSession
  rw [Properties.set_other notFlows]

/-- What a grant that succeeds has found, what it has pushed, and its result. -/
theorem withFlowPermissions_ok
    {type : FlowType}
    {permissions : List FlowPermission}
    {session : JsonObject}
    {value : Properties}
    (changed : withFlowPermissions type permissions session = .ok value) :
    ∃ flow updated,
      flowSession session type.text = some flow ∧
        flow.truthy = true ∧
        pushAll (flow.property "permissions")
            (permissions.map FlowPermission.text) =
          .ok updated ∧
        value =
          setFlowSession session type.text
            (some (.obj
              (match updated with
                | some held =>
                    (Properties.ofJson (some flow)).set "permissions"
                      (some held)
                | none => Properties.ofJson (some flow)).stringify)) := by
  unfold withFlowPermissions at changed
  cases found : flowSession session type.text with
  | none =>
      rw [found] at changed
      cases changed
  | some flow =>
      simp only [found] at changed
      cases truthy : flow.truthy with
      | false => simp [truthy] at changed
      | true =>
          rw [if_pos truthy] at changed
          obtain ⟨updated, pushed, rfl⟩ := map_ok changed
          exact ⟨flow, updated, rfl, truthy, pushed, rfl⟩

/-- A call sets the permissions of the session, or one flow session. -/
theorem Mutator.change_cases
    {mutator : Mutator}
    {session : JsonObject}
    {value : Properties}
    (changed : mutator.change session = .ok value) :
    (∃ permissions updated,
        mutator = .addPermissions permissions ∧
          value =
            (JsonObject.properties session).set "permissions" updated) ∨
      (∀ permissions, mutator ≠ .addPermissions permissions) ∧
        ∃ type flow, value = setFlowSession session type flow := by
  cases mutator with
  | addPermissions permissions =>
      obtain ⟨updated, -, rfl⟩ := map_ok changed
      exact Or.inl ⟨permissions, updated, rfl, rfl⟩
  | addFlowSession flow =>
      cases changed
      exact Or.inr ⟨by simp, _, _, rfl⟩
  | updateFlowSession flow =>
      cases changed
      exact Or.inr ⟨by simp, _, _, rfl⟩
  | clearFlowSession type =>
      cases changed
      exact Or.inr ⟨by simp, _, _, rfl⟩
  | addFlowPermissions type permissions =>
      obtain ⟨flow, updated, -, -, -, rfl⟩ := withFlowPermissions_ok changed
      exact Or.inr ⟨by simp, _, _, rfl⟩

/-- A call changes permissions and flow sessions and nothing else. -/
theorem Mutator.change_other
    {mutator : Mutator}
    {session : JsonObject}
    {value : Properties}
    (changed : mutator.change session = .ok value)
    {name : String}
    (notPermissions : name ≠ "permissions")
    (notFlows : name ≠ "flowSessions") :
    value name = JsonObject.properties session name := by
  rcases mutator.change_cases changed with
    ⟨permissions, updated, -, rfl⟩ | ⟨-, type, flow, rfl⟩
  · exact Properties.set_other notPermissions _ _
  · exact setFlowSession_other notFlows

/-- A property that a call does not set is stored as it was. -/
theorem stored_same
    {now : Nat}
    {seconds : Option Int}
    {session : JsonObject}
    {value : Properties}
    {name : String}
    (same : value name = JsonObject.properties session name)
    (notExp : name ≠ "exp")
    (notIat : name ≠ "iat") :
    ((SessionService.stamp now seconds).spread value).stringify name =
      session name := by
  rw [SessionService.stringify_stamp_spread notExp notIat]
  unfold Properties.stringify
  rw [same, JsonObject.properties]
  cases session name <;> rfl

/-- The flow session that a write has just set. -/
theorem flowSession_stored
    {now : Nat}
    {seconds : Option Int}
    {session : JsonObject}
    {type : String}
    {flow : Option Json} :
    flowSession
        ((SessionService.stamp now seconds).spread
          (setFlowSession session type flow)).stringify type =
      flow := by
  unfold flowSession
  rw [SessionService.stringify_stamp_spread (by decide) (by decide)]
  simp [setFlowSession, Properties.stringify, Properties.set,
    Json.property]

/-- A call leaves the other properties of the stored session. -/
theorem Mutator.stored_other
    {mutator : Mutator}
    {session : JsonObject}
    {value : Properties}
    (changed : mutator.change session = .ok value)
    {now : Nat}
    {seconds : Option Int}
    {name : String}
    (notStamped : name ≠ "exp" ∧ name ≠ "iat")
    (notChanged : name ≠ "permissions" ∧ name ≠ "flowSessions") :
    ((SessionService.stamp now seconds).spread value).stringify name =
      session name :=
  stored_same (change_other changed notChanged.1 notChanged.2)
    notStamped.1 notStamped.2

end AuthSessionService

end NestBackend
