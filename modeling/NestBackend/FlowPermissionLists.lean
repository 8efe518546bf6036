import NestBackend.PermissionInterceptor
import NestBackend.SessionRefinement

namespace NestBackend

open JavaScript

/-!
# The permissions list of every flow session

A `BaseFlowSession` is built with a list of permissions, and both readers of
that list rely on it.  `updateFlowSession` merges a partial value with the same
code, and where there is nothing to merge it into, it stores what it was given.
-/

namespace AuthSessionService

/-! ## The invariant -/

/-- A flow session as it is stored has a list of permissions. -/
def ListsPermissions (flow : Json) : Prop :=
  ∃ listed, flow.property "permissions" = some (.arr listed)

/-- The entries of `flowSessions`. -/
def flowEntries (session : JsonObject) : JsonObject :=
  (Properties.ofJson (session "flowSessions")).stringify

/-- Every entry of `flowSessions` has a list of permissions. -/
def PermissionsListed (session : JsonObject) : Prop :=
  ∀ name flow, flowEntries session name = some flow → ListsPermissions flow

/-- Neither reader of the lists throws a `TypeError`. -/
structure NoTypeError (session : JsonObject) : Prop where
  grants :
    ∀ type permissions,
      withFlowPermissions type permissions session ≠ .error .typeError
  requires :
    ∀ metadata,
      PermissionInterceptor.requireFlow metadata session ≠
        .error .typeError

/-- A value as it is built: the class has a list by default. -/
def BuiltFlowSession (value : Properties) : Prop :=
  ∃ listed, value "permissions" = some (some (.arr listed))

/--
A value that is merged into a flow session brings a list, or it says nothing
about permissions and the flow session is there.
-/
def MergesToList (value : Properties) (session : JsonObject) : Prop :=
  BuiltFlowSession value ∨
    value "permissions" = none ∧
      (flowSession session (templateText? (value.get "type"))).isSome

/-- A call leaves a list in the flow session that it writes, if any. -/
def Mutator.KeepsLists (mutator : Mutator) (session : JsonObject) : Prop :=
  match mutator with
  | .addFlowSession value => MergesToList value session
  | .updateFlowSession value => MergesToList value session
  | _ => True

variable
  {session : JsonObject}
  {value : Properties}
  {now : Nat}
  {seconds : Option Int}

/-! ## What the readers find -/

/-- A flow session is the entry under its type. -/
theorem flowEntries_of_flowSession
    {name : String}
    {flow : Json}
    (found : flowSession session name = some flow) :
    flowEntries session name = some flow := by
  unfold flowSession at found
  obtain ⟨flows, isFlows, entry⟩ := Option.bind_eq_some_iff.mp found
  unfold flowEntries
  rw [isFlows]
  cases flows with
  | obj entries => simpa [Properties.ofJson, Json.property] using entry
  | _ => cases entry

/-- A list can be asked for permissions, whichever they are. -/
theorem requireAll_ne_typeError
    (listed : List Json)
    (texts : List String) :
    PermissionInterceptor.requireAll (some (.arr listed)) texts ≠
      .error .typeError := by
  induction texts with
  | nil => simp [PermissionInterceptor.requireAll]
  | cons text rest inductionHypothesis =>
      simp only [PermissionInterceptor.requireAll,
        PermissionInterceptor.held]
      cases includes listed text with
      | false => simp
      | true => exact inductionHypothesis

/-- Where every flow session has a list, no reader throws. -/
theorem PermissionsListed.noTypeError
    (listed : PermissionsListed session) :
    NoTypeError session where
  grants type permissions := by
    unfold withFlowPermissions
    cases found : flowSession session type.text with
    | none => simp
    | some flow =>
        obtain ⟨held, isHeld⟩ :=
          listed _ _ (flowEntries_of_flowSession found)
        simp only [isHeld]
        split
        next =>
          intro failed
          obtain ⟨updated, pushed⟩ :
              ∃ updated,
                pushAll (some (.arr held))
                    (permissions.map FlowPermission.text) =
                  .ok updated := by
            cases permissions.map FlowPermission.text <;> exact ⟨_, rfl⟩
          rw [pushed] at failed
          cases failed
        next => simp
  requires metadata := by
    unfold PermissionInterceptor.requireFlow
    split
    next => simp
    next =>
      cases found : flowSession session metadata.flow.text with
      | none => simp
      | some flow =>
          obtain ⟨held, isHeld⟩ :=
            listed _ _ (flowEntries_of_flowSession found)
          simp only [isHeld]
          split
          next => exact requireAll_ne_typeError _ _
          next => simp

/-! ## What one call leaves -/

/-- The entries of a session in which one flow session has been set. -/
theorem flowEntries_setFlowSession
    (type : String)
    (flow : Option Json)
    (name : String) :
    flowEntries
        ((SessionService.stamp now seconds).spread
          (setFlowSession session type flow)).stringify name =
      if name = type then flow else flowEntries session name := by
  unfold flowEntries
  rw [SessionService.stringify_stamp_spread (by decide) (by decide)]
  have own :
      (setFlowSession session type flow).stringify "flowSessions" =
        some (.obj
          ((Properties.ofJson (session "flowSessions")).set type
            flow).stringify) := by
    simp [setFlowSession, Properties.stringify]
  rw [own, Properties.ofJson, Properties.stringify_properties,
    stringify_set, Function.update_apply]

/-- Setting one flow session keeps the lists exactly if that one has one. -/
theorem permissionsListed_setFlowSession
    (listed : PermissionsListed session)
    (type : String)
    (flow : Option Json) :
    PermissionsListed
        ((SessionService.stamp now seconds).spread
          (setFlowSession session type flow)).stringify ↔
      ∀ found, flow = some found → ListsPermissions found := by
  constructor
  · intro kept found isFound
    apply kept type
    rw [flowEntries_setFlowSession, if_pos rfl]
    exact isFound
  · intro lists name found isFound
    rw [flowEntries_setFlowSession] at isFound
    split at isFound
    next => exact lists found isFound
    next => exact listed name found isFound

/-- A merged flow session has a list exactly if there is one to merge. -/
theorem listsPermissions_merge
    (listed : PermissionsListed session) :
    ListsPermissions
        (.obj
          ((Properties.ofJson
                (flowSession session
                  (templateText? (value.get "type")))).spread
              value).stringify) ↔
      MergesToList value session := by
  unfold ListsPermissions MergesToList BuiltFlowSession
  rw [stringify_spread]
  simp only [Json.property, Overlay.apply]
  cases brought : value "permissions" with
  | some held => simp
  | none =>
      rw [stringify_ofJson (by decide +kernel)]
      cases found :
          flowSession session (templateText? (value.get "type")) with
      | none => simp
      | some flow =>
          have lists := listed _ _ (flowEntries_of_flowSession found)
          unfold ListsPermissions at lists
          simpa using lists

/-- A merge keeps the lists exactly if there is one to merge. -/
theorem permissionsListed_withFlowSession
    {added : Properties}
    (listed : PermissionsListed session)
    (changed : withFlowSession added session = .ok value) :
    PermissionsListed
        ((SessionService.stamp now seconds).spread value).stringify ↔
      MergesToList added session := by
  obtain rfl := Except.ok.inj changed
  rw [permissionsListed_setFlowSession listed,
    ← listsPermissions_merge listed]
  constructor
  · intro lists
    exact lists _ rfl
  · rintro lists _ isFound
    obtain rfl := Option.some.inj isFound
    exact lists

/-- A grant keeps the lists. -/
theorem permissionsListed_withFlowPermissions
    (listed : PermissionsListed session)
    {type : FlowType}
    {permissions : List FlowPermission}
    (changed : withFlowPermissions type permissions session = .ok value) :
    PermissionsListed
      ((SessionService.stamp now seconds).spread value).stringify := by
  obtain ⟨flow, updated, found, -, pushed, rfl⟩ :=
    withFlowPermissions_ok changed
  obtain ⟨held, isHeld⟩ := listed _ _ (flowEntries_of_flowSession found)
  rw [permissionsListed_setFlowSession listed]
  intro written isWritten
  obtain rfl := Option.some.inj isWritten
  have granted := pushAll_ok pushed
  rw [isHeld, Option.map_some, grantTo] at granted
  subst granted
  exact ⟨_, rfl⟩

/-- A call keeps the lists exactly if it leaves one where it writes. -/
theorem Mutator.permissionsListed_iff
    {mutator : Mutator}
    (listed : PermissionsListed session)
    (changed : mutator.change session = .ok value) :
    PermissionsListed
        ((SessionService.stamp now seconds).spread value).stringify ↔
      mutator.KeepsLists session := by
  cases mutator with
  | addPermissions permissions =>
      refine iff_of_true ?_ trivial
      obtain ⟨updated, -, rfl⟩ := map_ok changed
      have same :
          flowEntries
              ((SessionService.stamp now seconds).spread
                ((JsonObject.properties session).set "permissions"
                  updated)).stringify =
            flowEntries session := by
        unfold flowEntries
        rw [AuthSessionService.stored_same
          (Properties.set_other (by decide) _ _) (by decide) (by decide)]
      intro name flow
      rw [same]
      exact listed name flow
  | addFlowSession added =>
      exact permissionsListed_withFlowSession listed changed
  | updateFlowSession added =>
      exact permissionsListed_withFlowSession listed changed
  | clearFlowSession type =>
      obtain rfl := Except.ok.inj changed
      rw [permissionsListed_setFlowSession listed]
      exact iff_of_true (by simp) trivial
  | addFlowPermissions type permissions =>
      refine iff_of_true ?_ trivial
      exact permissionsListed_withFlowPermissions listed changed

/-! ## Every run -/

namespace SessionCall

section Runs

variable
  {key : String}
  {sessionType : JwtSession}
  {backend : Backend String JsonObject}

/-- What is stored of the session, if anything. -/
def storedSession?
    (key : String)
    (sessionType : JwtSession)
    (backend : Backend String JsonObject) : Option JsonObject :=
  (backend.store.lookup
    (SessionService.session.storageKey sessionType.text key)).map Entry.value

/--
After any of the calls every flow session that is stored has its list, and no
reader of the lists throws.
-/
def ListedThroughout
    (key : String)
    (sessionType : JwtSession)
    (backend : Backend String JsonObject)
    (calls : List SessionCall) : Prop :=
  ∀ before after,
    calls = before ++ after →
      ∀ session,
        storedSession? key sessionType
            (performAll key sessionType backend before) =
          some session →
          PermissionsListed session ∧ NoTypeError session

/-- Every call that is carried out leaves a list where it writes. -/
def KeepsListsThroughout
    (key : String)
    (sessionType : JwtSession)
    (backend : Backend String JsonObject)
    (calls : List SessionCall) : Prop :=
  ∀ before call after,
    calls = before ++ call :: after →
      ∀ session value seconds,
        call.Returns key sessionType
          (performAll key sessionType backend before) session value
          seconds →
          call.mutator.KeepsLists session

/-- One call after some others. -/
theorem performAll_concat
    (before : List SessionCall)
    (call : SessionCall) :
    performAll key sessionType backend (before ++ [call]) =
      (call.perform key sessionType
        (performAll key sessionType backend before)).1 := by
  simp [performAll]

/-- What a call that returns leaves is stored. -/
theorem Returns.storedSession?_perform
    {call : SessionCall}
    {session : JsonObject}
    {value : Properties}
    {seconds : Int}
    (returns :
      call.Returns key sessionType backend session value seconds) :
    storedSession? key sessionType
        (call.perform key sessionType backend).1 =
      some (call.stored value seconds) := by
  rw [returns.perform]
  unfold storedSession?
  rw [ExpiringStore.lookup_write_same]
  rfl

/-- What a call reads is stored. -/
theorem Returns.storedSession?_eq
    {call : SessionCall}
    {session : JsonObject}
    {value : Properties}
    {seconds : Int}
    (returns :
      call.Returns key sessionType backend session value seconds) :
    storedSession? key sessionType backend = some session := by
  obtain ⟨entry, lookup, -, rfl⟩ := ExpiringStore.read_eq_some.mp returns.read
  unfold storedSession?
  rw [lookup]
  rfl

/--
Every flow session that is stored has its list, whatever is called, exactly if
it is so at first and every value that is merged leaves one.
-/
theorem listedThroughout_iff
    (key : String)
    (sessionType : JwtSession)
    (backend : Backend String JsonObject)
    (calls : List SessionCall) :
    ListedThroughout key sessionType backend calls ↔
      (∀ session,
        storedSession? key sessionType backend = some session →
          PermissionsListed session) ∧
        KeepsListsThroughout key sessionType backend calls := by
  constructor
  · intro throughout
    refine ⟨?_, ?_⟩
    · intro session stored
      exact (throughout [] calls rfl session stored).1
    · intro before call after split session value seconds returns
      have listed :=
        (throughout before (call :: after) split session
          returns.storedSession?_eq).1
      have splitLater : calls = (before ++ [call]) ++ after := by
        rw [split]
        simp
      have later :=
        throughout (before ++ [call]) after splitLater
          (call.stored value seconds)
      rw [performAll_concat] at later
      exact
        (call.mutator.permissionsListed_iff listed returns.changed).mp
          (later returns.storedSession?_perform).1
  · rintro ⟨initially, keeps⟩ before
    induction before using List.reverseRecOn with
    | nil =>
        intro after split session stored
        have listed := initially session stored
        exact ⟨listed, listed.noTypeError⟩
    | append_singleton before call inductionHypothesis =>
        intro after split session stored
        have splitEarlier : calls = before ++ call :: after := by
          rw [split]
          simp
        have earlier := inductionHypothesis (call :: after) splitEarlier
        rw [performAll_concat] at stored
        rcases call.perform_cases key sessionType
            (performAll key sessionType backend before) with
          ⟨found, value, seconds, returns⟩ | ⟨failure, threw⟩
        · rw [returns.storedSession?_perform] at stored
          obtain rfl := Option.some.inj stored
          have listedBefore := (earlier found returns.storedSession?_eq).1
          have listed : PermissionsListed (call.stored value seconds) :=
            (call.mutator.permissionsListed_iff listedBefore
              returns.changed).mpr
              (keeps before call after splitEarlier found value seconds
                returns)
          exact ⟨listed, listed.noTypeError⟩
        · rw [threw] at stored
          exact earlier session stored

end Runs

/-- A partial value that names a flow and nothing else. -/
def namesFlow : Properties :=
  Properties.empty.set "type" (some (.str "SIGN_CONTRACT"))

/-- An update of a flow session that is not there stores one without a list. -/
theorem update_stores_no_list :
    ¬ ListedThroughout "alice:first" .token (tenSeconds .empty).1
        [⟨.updateFlowSession namesFlow, 1500, 1500⟩] := by
  intro throughout
  have returns :
      SessionCall.Returns ⟨.updateFlowSession namesFlow, 1500, 1500⟩
        "alice:first" .token (tenSeconds .empty).1
        ((SessionService.stamp 1500 (some 10)).spread .empty).stringify
        _ 10 :=
    ⟨rfl, tenSeconds_live rfl, rfl, by decide +kernel, by decide⟩
  have stored := throughout [_] [] rfl _ returns.storedSession?_perform
  obtain ⟨listed, isListed⟩ := stored.1 "SIGN_CONTRACT" _ rfl
  cases isListed

end SessionCall

end AuthSessionService

end NestBackend
