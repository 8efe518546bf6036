import NestBackend.GuardSoundness
import NestBackend.IssuingRuns
import NestBackend.SignContractRuns

namespace NestBackend

open JavaScript

/-!
# The order of the steps of a sign-contract flow

One request at a time, the permissions of the stored flow session are in the
order in which the steps have to be taken.  The guard's snapshot is then what
the handler and the grant find, so what was required of it still holds when the
next permission is added; and a new round starts from nothing, because the
defaults and the undefined properties of the new flow session override what an
earlier round left.
-/

/-! ## The computations of the session service -/

namespace AuthSessionService

/-- A list of texts that are pushed one by one stays without repetitions. -/
theorem pushMissing_nodup
    {held : List Json}
    (nodup : held.Nodup)
    (texts : List String) :
    (pushMissing held texts).Nodup := by
  induction texts generalizing held with
  | nil => exact nodup
  | cons text rest inductionHypothesis =>
      unfold pushMissing
      by_cases found : includes held text = true
      · rw [if_pos found]
        exact inductionHypothesis nodup
      · rw [if_neg found]
        apply inductionHypothesis
        refine List.Nodup.append nodup (List.nodup_singleton _) ?_
        intro element member same
        rw [List.mem_singleton.mp same] at member
        exact found (includes_iff.mpr member)

/-- What is held after the push. -/
theorem includes_pushMissing
    {held : List Json}
    {texts : List String}
    {text : String} :
    includes (pushMissing held texts) text = true ↔
      includes held text = true ∨ text ∈ texts := by
  induction texts generalizing held with
  | nil => simp [pushMissing]
  | cons head rest inductionHypothesis =>
      unfold pushMissing
      by_cases found : includes held head = true
      · rw [if_pos found, inductionHypothesis, List.mem_cons]
        constructor
        · rintro (before | later)
          · exact Or.inl before
          · exact Or.inr (Or.inr later)
        · rintro (before | rfl | later)
          · exact Or.inl before
          · exact Or.inl found
          · exact Or.inr later
      · rw [if_neg found, inductionHypothesis, List.mem_cons, includes_iff,
          includes_iff, List.mem_append, List.mem_singleton]
        constructor
        · rintro ((before | same) | later)
          · exact Or.inl before
          · exact Or.inr (Or.inl (Json.str.inj same))
          · exact Or.inr (Or.inr later)
        · rintro (before | rfl | later)
          · exact Or.inl (Or.inl before)
          · exact Or.inl (Or.inr rfl)
          · exact Or.inr later

end AuthSessionService

/-- Different permissions have different texts. -/
theorem SignContractFlowPermission.text_injective :
    Function.Injective SignContractFlowPermission.text := by
  intro first second same
  cases first <;> cases second <;> first | rfl | simp [text] at same

/-! ## The order of the steps -/

/-- The flow session of this flow in a stored session. -/
def signContractFlow (session : JsonObject) : Option Json :=
  AuthSessionService.flowSession session SignContractService.flow.text

/-- A permission is among those that are held. -/
def Granted
    (held : List Json)
    (permission : SignContractFlowPermission) : Prop :=
  includes held permission.text = true

/--
What the permissions of a flow session say about it: each step was preceded by
the one before it, and left behind what it leaves behind.
-/
structure FlowOrder (flow : Json) (held : List Json) : Prop where
  stored : flow.property "permissions" = some (.arr held)
  nodup : held.Nodup
  selfieVerified :
    Granted held .selfieVerified →
      Granted held .otpVerified ∧
        (flow.property "selfieId").isSome = true
  otpVerified : Granted held .otpVerified → Granted held .otpRequested
  otpRequested :
    Granted held .otpRequested →
      (flow.property "contractId").isSome = true ∧
        (flow.property "otpId").isSome = true

/-- The flow session of a session, if there is one, is in order. -/
def StepOrder (session : JsonObject) : Prop :=
  ∀ flow, signContractFlow session = some flow → ∃ held, FlowOrder flow held

/-- A flow session as `requestOtp` has just written it. -/
structure JustRequested
    (contractId otpId : String)
    (flow : Json) : Prop where
  permissions : flow.property "permissions" = some (.arr [])
  selfieId : flow.property "selfieId" = none
  contractId : flow.property "contractId" = some (.str contractId)
  otpId : flow.property "otpId" = some (.str otpId)

/-- A new round is in order. -/
theorem JustRequested.flowOrder
    {contractId otpId : String}
    {flow : Json}
    (requested : JustRequested contractId otpId flow) :
    FlowOrder flow [] where
  stored := requested.permissions
  nodup := List.nodup_nil
  selfieVerified granted := by cases granted
  otpVerified granted := by cases granted
  otpRequested granted := by cases granted

/-- What a permission needs in order to be granted. -/
def Grantable
    (flow : Json)
    (held : List Json) : SignContractFlowPermission → Prop
  | .otpRequested =>
      (flow.property "contractId").isSome = true ∧
        (flow.property "otpId").isSome = true
  | .otpVerified => Granted held .otpRequested
  | .selfieVerified =>
      Granted held .otpVerified ∧
        (flow.property "selfieId").isSome = true
  | .initContract => True

section Writes

variable
  {session : JsonObject}
  {value : Properties}
  {flow : Json}
  {held : List Json}
  {now : Nat}
  {seconds : Option Int}

/-- The write of `requestOtp`, whatever was there before. -/
theorem justRequested_stored
    {contractId otpId : String}
    (changed :
      AuthSessionService.withFlowSession
          (SignContractService.signContractSession contractId otpId)
          session =
        .ok value) :
    ∃ flow,
      signContractFlow
          ((SessionService.stamp now seconds).spread value).stringify =
        some flow ∧
        JustRequested contractId otpId flow := by
  cases changed
  refine ⟨_, AuthSessionService.flowSession_stored, ?_⟩
  constructor <;> rfl

/-- The flow session of this flow, if there is one, is an object. -/
def FlowObject (session : JsonObject) : Prop :=
  ∀ flow,
    signContractFlow session = some flow →
      ∃ properties, flow = .obj properties

/-- The write of `checkSelfie` adds the selfie and leaves the rest. -/
theorem checkedSelfie_stored
    {selfieId : String}
    (object : FlowObject session)
    (changed :
      AuthSessionService.withFlowSession
          (SignContractService.checkedSelfie selfieId) session =
        .ok value) :
    ∃ properties,
      signContractFlow
          ((SessionService.stamp now seconds).spread value).stringify =
        some (.obj properties) ∧
        properties "selfieId" = some (.str selfieId) ∧
        ∀ name,
          name ≠ "selfieId" → name ≠ "type" →
            properties name =
              (signContractFlow session).bind (Json.property name) := by
  cases changed
  refine ⟨_, AuthSessionService.flowSession_stored, rfl, ?_⟩
  intro name notSelfie notType
  have notOwned :
      SignContractService.checkedSelfie selfieId name = none := by
    unfold SignContractService.checkedSelfie
    split
    · exact (notSelfie rfl).elim
    · exact (notType rfl).elim
    · rfl
  have earlier :
      AuthSessionService.flowSession session
          (templateText?
            ((SignContractService.checkedSelfie selfieId).get "type")) =
        signContractFlow session := rfl
  rw [earlier]
  simp only [Properties.stringify, Properties.spread, notOwned,
    Option.none_or]
  cases present : signContractFlow session with
  | none => rfl
  | some flow =>
      obtain ⟨properties, rfl⟩ := object flow present
      simp only [Properties.ofJson, JsonObject.properties,
        Option.bind_some, Json.property]
      cases properties name <;> rfl

/-- A flow session with permissions is an object. -/
theorem FlowOrder.object
    (order : FlowOrder flow held)
    (present : signContractFlow session = some flow) :
    FlowObject session := by
  intro other otherPresent
  rw [present] at otherPresent
  cases otherPresent
  have stored := order.stored
  cases flow with
  | obj properties => exact ⟨properties, rfl⟩
  | _ => cases stored

/-- With the selfie the flow session is still in order. -/
theorem FlowOrder.of_checkedSelfie
    {properties : JsonObject}
    {selfieId : String}
    (order : FlowOrder flow held)
    (selfie : properties "selfieId" = some (.str selfieId))
    (same :
      ∀ name,
        name ≠ "selfieId" → name ≠ "type" →
          properties name = (some flow).bind (Json.property name)) :
    FlowOrder (.obj properties) held where
  stored := (same _ (by decide) (by decide)).trans order.stored
  nodup := order.nodup
  selfieVerified granted :=
    ⟨(order.selfieVerified granted).1, congrArg Option.isSome selfie⟩
  otpVerified := order.otpVerified
  otpRequested granted := by
    have contractId := same "contractId" (by decide) (by decide)
    have otpId := same "otpId" (by decide) (by decide)
    simp only [Json.property, contractId, otpId]
    exact order.otpRequested granted

/-- The write of a grant adds the permission and leaves the rest. -/
theorem granted_stored
    {permission : SignContractFlowPermission}
    (present : signContractFlow session = some flow)
    (stored : flow.property "permissions" = some (.arr held))
    (changed :
      AuthSessionService.withFlowPermissions SignContractService.flow
          [.signContract permission] session =
        .ok value) :
    ∃ properties,
      signContractFlow
          ((SessionService.stamp now seconds).spread value).stringify =
        some (.obj properties) ∧
        properties "permissions" =
          some (.arr
            (AuthSessionService.pushMissing held [permission.text])) ∧
        ∀ name,
          name ≠ "permissions" →
            properties name = flow.property name := by
  obtain ⟨found, updated, foundFlow, -, pushed, rfl⟩ :=
    AuthSessionService.withFlowPermissions_ok changed
  obtain rfl : flow = found :=
    Option.some.inj (present.symm.trans foundFlow)
  rw [stored] at pushed
  cases pushed
  cases flow with
  | obj properties =>
      refine ⟨_, AuthSessionService.flowSession_stored, rfl, ?_⟩
      intro name notPermissions
      simp only [Json.property, Properties.stringify,
        Properties.set_other notPermissions, Properties.ofJson,
        JsonObject.properties]
      cases properties name <;> rfl
  | _ => cases stored

/-- A permission that may be granted is granted in order. -/
theorem FlowOrder.of_granted
    {updated : Json}
    {permission : SignContractFlowPermission}
    (order : FlowOrder flow held)
    (grantable : Grantable flow held permission)
    (stored :
      updated.property "permissions" =
        some (.arr
          (AuthSessionService.pushMissing held [permission.text])))
    (same :
      ∀ name,
        name ≠ "permissions" →
          updated.property name = flow.property name) :
    FlowOrder updated
      (AuthSessionService.pushMissing held [permission.text]) := by
  have grows :
      ∀ other,
        Granted (AuthSessionService.pushMissing held [permission.text])
            other ↔
          Granted held other ∨ other = permission := by
    intro other
    unfold Granted
    rw [AuthSessionService.includes_pushMissing, List.mem_singleton,
      SignContractFlowPermission.text_injective.eq_iff]
  constructor
  · exact stored
  · exact AuthSessionService.pushMissing_nodup order.nodup _
  · intro granted
    rw [grows, same "selfieId" (by decide)]
    rcases (grows _).mp granted with before | rfl
    · obtain ⟨verified, selfie⟩ := order.selfieVerified before
      exact ⟨Or.inl verified, selfie⟩
    · exact ⟨Or.inl grantable.1, grantable.2⟩
  · intro granted
    rw [grows]
    rcases (grows _).mp granted with before | rfl
    · exact Or.inl (order.otpVerified before)
    · exact Or.inl grantable
  · intro granted
    rw [same "contractId" (by decide), same "otpId" (by decide)]
    rcases (grows _).mp granted with before | rfl
    · exact order.otpRequested before
    · exact grantable

end Writes

/-! ## Entries -/

/--
A token entry has the content of the payload its key names; a session entry
names the bound identifier its key ends with, and its flow session is in order.
-/
inductive FlowEntry (key : String) (value : JsonObject) : Prop where
  | token
      (payload : BaseJwtPayload)
      (identified : payload.id.isSome = true)
      (keyShape :
        key =
          SessionService.token.storageKey JwtSession.token.text
            payload.sessionBoundId)
      (content : TokenContentOf payload value)
  | session
      (boundId : String)
      (keyShape :
        key =
          SessionService.session.storageKey JwtSession.token.text boundId)
      (names : value "key" = some (.str boundId))
      (order : StepOrder value)

/-- What a conforming session entry says. -/
theorem flowEntry_session
    {boundId : String}
    {value : JsonObject}
    (entry :
      FlowEntry
        (SessionService.session.storageKey JwtSession.token.text boundId)
        value) :
    value "key" = some (.str boundId) ∧ StepOrder value := by
  cases entry with
  | token payload identified keyShape content =>
      exact (SessionService.storageKey_token_ne_session _ _ _ _
        keyShape.symm).elim
  | session other keyShape names order =>
      have same := SessionService.storageKey_injective keyShape
      subst same
      exact ⟨names, order⟩

section Requests

variable
  {env : CoreEnvironment}
  {jwt : JwtService}
  {http : GuardRequest}
  {request : SignContractRequest}
  {backend after : Backend String JsonObject}

/-- What the guard leaves on the request is what is stored for its user. -/
theorem admitted_snapshot
    {params : GuardParams}
    {store : ExpiringStore String JsonObject}
    {admitted : Admission}
    (conforms : store.Conforms FlowEntry)
    (admits : JwtGuard.Admits env jwt params http store admitted) :
    ∃ entry,
      store.lookup
          (SessionService.session.storageKey JwtSession.token.text
            admitted.user.sessionBoundId) =
        some entry ∧
        entry.value = admitted.session ∧
        templateText? (admitted.session "key") =
          admitted.user.sessionBoundId ∧
        StepOrder admitted.session := by
  obtain ⟨now, later, tokenAt, sessionAt, admission⟩ := admits
  obtain ⟨presented, content, -, tokenRead, checked, sessionRead, -, -⟩ :=
    JwtGuard.admission_eq_some admission
  obtain ⟨validated, -⟩ := JwtGuard.user?_eq_some checked
  have tokenEntry := conforms.read tokenRead
  generalize tokenKey : presented.storageKey .token = key at tokenEntry
  cases tokenEntry with
  | session boundId keyShape names order =>
      rw [← tokenKey] at keyShape
      exact (SessionService.storageKey_token_ne_session _ _ _ _
        keyShape).elim
  | token payload identified keyShape stored =>
      rw [← tokenKey] at keyShape
      obtain ⟨-, -, sameBound⟩ :=
        tokenContentOf_user identified stored validated
      have sessionKey :
          presented.storageKey .session =
            SessionService.session.storageKey JwtSession.token.text
              admitted.user.sessionBoundId := by
        rw [sameBound]
        exact SessionService.storageKey_transfer keyShape .session
      rw [sessionKey] at sessionRead
      obtain ⟨names, order⟩ := flowEntry_session (conforms.read sessionRead)
      obtain ⟨entry, lookup, -, value⟩ :=
        ExpiringStore.read_eq_some.mp sessionRead
      refine ⟨entry, lookup, value, ?_, order⟩
      rw [names]
      rfl

/-- A rewriting that leaves the flow session in order keeps the entries. -/
theorem rewrote_conforms
    {mutator : AuthSessionService.Mutator}
    {boundId : String}
    (conforms : backend.store.Conforms FlowEntry)
    (rewrote : mutator.Rewrote boundId backend after)
    (ordered :
      ∀ {entry value now seconds},
        backend.store.lookup
            (SessionService.session.storageKey JwtSession.token.text
              boundId) =
          some entry →
        mutator.change entry.value = .ok value →
        StepOrder
          ((SessionService.stamp now seconds).spread value).stringify) :
    after.store.Conforms FlowEntry := by
  obtain ⟨entry, value, now, seconds, instant, lifetime, lookup, changed,
    rfl⟩ := rewrote
  obtain ⟨names, -⟩ := flowEntry_session (conforms _ entry lookup)
  refine conforms.write ?_ instant lifetime
  refine .session boundId rfl ?_ (ordered lookup changed)
  rw [AuthSessionService.Mutator.stored_other changed (by decide)
    (by decide), names]

/-- The permission that a request provides. -/
def SignContractRequest.permission :
    SignContractRequest → SignContractFlowPermission
  | .requestOtp _ _ _ => .otpRequested
  | .checkOtp _ => .otpVerified
  | .checkSelfie _ _ => .selfieVerified

/-- The permissions that a request requires. -/
def SignContractRequest.requires :
    SignContractRequest → List SignContractFlowPermission
  | .requestOtp _ _ _ => []
  | .checkOtp _ => [.otpRequested]
  | .checkSelfie _ _ => [.otpRequested, .otpVerified]

/-- A request that passes the check was granted what it requires. -/
theorem SignContractRequest.check_granted
    {session : JsonObject}
    (checked : request.check session = .ok ())
    (requiresSome : request.requires ≠ []) :
    ∃ flow,
      signContractFlow session = some flow ∧
        ∀ held,
          flow.property "permissions" = some (.arr held) →
          ∀ permission ∈ request.requires, Granted held permission := by
  have required :
      PermissionInterceptor.requireFlow request.flowMetadata session =
        .ok () := checked
  have requiredTexts :
      request.flowMetadata.required.map FlowPermission.text =
        request.requires.map SignContractFlowPermission.text := by
    cases request <;> rfl
  have requiredSome : request.flowMetadata.required ≠ [] := by
    intro none
    rw [none] at requiredTexts
    exact requiresSome (List.map_eq_nil_iff.mp requiredTexts.symm)
  obtain ⟨flow, present, all⟩ :=
    PermissionInterceptor.requireFlow_ok required requiredSome
  refine ⟨flow, present, ?_⟩
  intro held stored permission member
  rw [stored, requiredTexts] at all
  exact PermissionInterceptor.includes_of_requireAll all
    (List.mem_map_of_mem member)

/-- The permission of the request may be granted to this session. -/
def Ready (request : SignContractRequest) (session : JsonObject) : Prop :=
  ∃ flow held,
    signContractFlow session = some flow ∧
      FlowOrder flow held ∧ Grantable flow held request.permission

/-- The session that a successful handler leaves is ready for the grant. -/
theorem handled_ready
    {admitted : Admission}
    (conforms : backend.store.Conforms FlowEntry)
    (admits :
      JwtGuard.Admits env jwt SignContractController.guardParams http
        backend.store admitted)
    (checked : request.check admitted.session = .ok ())
    (handled :
      request.Handled admitted.user.sessionBoundId backend after) :
    after.store.Conforms FlowEntry ∧
      ∃ entry,
        after.store.lookup
            (SessionService.session.storageKey JwtSession.token.text
              admitted.user.sessionBoundId) =
          some entry ∧
          Ready request entry.value := by
  obtain ⟨snapshot, lookup, sameSession, -, order⟩ :=
    admitted_snapshot conforms admits
  cases request with
  | requestOtp work contractId otpId =>
      have rewrote :
          AuthSessionService.Mutator.Rewrote
            (.addFlowSession
              (SignContractService.signContractSession contractId otpId))
            admitted.user.sessionBoundId backend after := handled.2
      refine ⟨rewrote_conforms conforms rewrote ?_, ?_⟩
      · intro entry value now seconds _ changed flow present
        obtain ⟨written, stored, requested⟩ :=
          justRequested_stored changed
        rw [stored] at present
        cases present
        exact ⟨[], requested.flowOrder⟩
      · obtain ⟨entry, value, now, seconds, instant, lifetime, -, changed,
          rfl⟩ := rewrote
        obtain ⟨written, stored, requested⟩ :=
          justRequested_stored changed
        refine ⟨_, ExpiringStore.lookup_write_same _ _ _ _ _, written, [],
          stored, requested.flowOrder, ?_⟩
        show _ ∧ _
        rw [requested.contractId, requested.otpId]
        exact ⟨rfl, rfl⟩
  | checkOtp work =>
      cases handled.2
      refine ⟨conforms, snapshot, lookup, ?_⟩
      obtain ⟨flow, present, granted⟩ :=
        SignContractRequest.check_granted checked (by
          intro none
          cases none)
      obtain ⟨held, flowOrder⟩ := order flow present
      rw [sameSession]
      exact ⟨flow, held, present, flowOrder,
        granted held flowOrder.stored _ (List.mem_cons_self ..)⟩
  | checkSelfie work selfieId =>
      have rewrote :
          AuthSessionService.Mutator.Rewrote
            (.updateFlowSession
              (SignContractService.checkedSelfie selfieId))
            admitted.user.sessionBoundId backend after := handled.2
      obtain ⟨flow, present, granted⟩ :=
        SignContractRequest.check_granted checked (by
          intro none
          cases none)
      obtain ⟨held, flowOrder⟩ := order flow present
      have verified : Granted held .otpVerified :=
        granted held flowOrder.stored _
          (List.mem_cons_of_mem _ (List.mem_cons_self ..))
      rw [← sameSession] at present
      refine ⟨rewrote_conforms conforms rewrote ?_, ?_⟩
      · intro entry value now seconds found changed written stored
        rw [lookup] at found
        cases found
        obtain ⟨updated, storedUpdated, selfie, same⟩ :=
          checkedSelfie_stored (flowOrder.object present) changed
        rw [storedUpdated] at stored
        cases stored
        rw [present] at same
        exact ⟨held, flowOrder.of_checkedSelfie selfie same⟩
      · obtain ⟨entry, value, now, seconds, instant, lifetime, found,
          changed, rfl⟩ := rewrote
        rw [lookup] at found
        cases found
        obtain ⟨updated, storedUpdated, selfie, same⟩ :=
          checkedSelfie_stored (flowOrder.object present) changed
        rw [present] at same
        exact ⟨_, ExpiringStore.lookup_write_same _ _ _ _ _, _, held,
          storedUpdated, flowOrder.of_checkedSelfie selfie same, verified,
          congrArg Option.isSome selfie⟩

/-- The grant to a session that is ready for it. -/
theorem ready_granted
    {entry : Entry JsonObject}
    {value : Properties}
    {now : Nat}
    {seconds : Option Int}
    (ready : Ready request entry.value)
    (changed : request.grantCall.change entry.value = .ok value) :
    ∃ flow held updated,
      signContractFlow entry.value = some flow ∧
        flow.property "permissions" = some (.arr held) ∧
        signContractFlow
            ((SessionService.stamp now seconds).spread value).stringify =
          some updated ∧
        FlowOrder updated
          (AuthSessionService.pushMissing held
            [request.permission.text]) ∧
        ∀ name,
          name ≠ "permissions" →
            updated.property name = flow.property name := by
  obtain ⟨flow, held, present, order, grantable⟩ := ready
  have provides :
      request.provided = [.signContract request.permission] := by
    cases request <;> rfl
  have changes :
      AuthSessionService.withFlowPermissions SignContractService.flow
          [.signContract request.permission] entry.value =
        .ok value := by
    rw [← provides]
    exact changed
  obtain ⟨updated, stored, permissions, same⟩ :=
    granted_stored present order.stored changes
  exact ⟨flow, held, .obj updated, present, order.stored, stored,
    order.of_granted grantable permissions same, same⟩

/-- Whatever a request leaves, every entry is in order. -/
theorem leaves_conforms
    (conforms : backend.store.Conforms FlowEntry)
    (leaves :
      SignContractRequest.Leaves env jwt http request backend after) :
    after.store.Conforms FlowEntry := by
  cases leaves with
  | unchanged => exact conforms
  | handled admits checked handled =>
      exact (handled_ready conforms admits checked handled).1
  | granted admits checked handled granted =>
      obtain ⟨-, -, -, names, -⟩ := admitted_snapshot conforms admits
      obtain ⟨middleConforms, entry, lookup, ready⟩ :=
        handled_ready conforms admits checked handled
      rw [names] at granted
      refine rewrote_conforms middleConforms granted ?_
      intro found value now seconds foundLookup changed flow present
      rw [lookup] at foundLookup
      cases foundLookup
      obtain ⟨-, held, updated, -, -, stored, order, -⟩ :=
        ready_granted ready changed
      rw [stored] at present
      cases present
      exact ⟨_, order⟩

/-! ## Runs, one request at a time -/

/-- One request, given up after some number of its commands. -/
structure RequestCall where
  request : SignContractRequest
  http : GuardRequest
  clock : Nat → Nat
  limit : Nat

/-- The backend after one request. -/
def RequestCall.run
    (env : CoreEnvironment)
    (jwt : JwtService)
    (call : RequestCall)
    (backend : Backend String JsonObject) : Backend String JsonObject :=
  (call.request.program env jwt call.http).runFor call.limit call.clock
    backend

/-- The backend after a sequence of requests. -/
def runRequests
    (env : CoreEnvironment)
    (jwt : JwtService)
    (backend : Backend String JsonObject) :
    List RequestCall → Backend String JsonObject
  | [] => backend
  | call :: rest => runRequests env jwt (call.run env jwt backend) rest

/-- Every sequence of requests leaves entries that are in order. -/
theorem runRequests_conforms
    (conforms : backend.store.Conforms FlowEntry)
    (calls : List RequestCall) :
    (runRequests env jwt backend calls).store.Conforms FlowEntry := by
  induction calls generalizing backend with
  | nil => exact conforms
  | cons call rest inductionHypothesis =>
      apply inductionHypothesis
      exact leaves_conforms conforms
        ((call.request.program_leaves env jwt call.http
          backend).runFor call.limit call.clock)

/-! ## The beginning of a round -/

/-- The session under a bound identifier as `requestOtp` has just left it. -/
def RoundBegun
    (contractId otpId boundId : String)
    (backend : Backend String JsonObject) : Prop :=
  ∃ entry flow,
    backend.store.lookup
        (SessionService.session.storageKey JwtSession.token.text
          boundId) =
      some entry ∧
      signContractFlow entry.value = some flow ∧
      JustRequested contractId otpId flow

/-- The same after the grant: the one permission, and still no selfie. -/
def RoundGranted
    (contractId otpId boundId : String)
    (backend : Backend String JsonObject) : Prop :=
  ∃ entry flow,
    backend.store.lookup
        (SessionService.session.storageKey JwtSession.token.text
          boundId) =
      some entry ∧
      signContractFlow entry.value = some flow ∧
      flow.property "permissions" =
        some (.arr [.str SignContractFlowPermission.otpRequested.text]) ∧
      flow.property "selfieId" = none ∧
      flow.property "contractId" = some (.str contractId) ∧
      flow.property "otpId" = some (.str otpId)

section Rounds

variable
  {work : HandlerWork}
  {contractId otpId : String}

/-- The write of `requestOtp` begins a round. -/
theorem roundBegun_of_rewrote
    {boundId : String}
    (rewrote :
      AuthSessionService.Mutator.Rewrote
        (.addFlowSession
          (SignContractService.signContractSession contractId otpId))
        boundId backend after) :
    RoundBegun contractId otpId boundId after := by
  obtain ⟨entry, value, now, seconds, instant, lifetime, -, changed,
    rfl⟩ := rewrote
  obtain ⟨flow, stored, requested⟩ := justRequested_stored changed
  exact ⟨_, flow, ExpiringStore.lookup_write_same _ _ _ _ _, stored,
    requested⟩

/-- The handler writes nothing or begins a round. -/
theorem requestOtp_begins
    (work : HandlerWork)
    (contractId otpId : String)
    (tokenPayload : BaseJwtPayload)
    (backend : Backend String JsonObject) :
    (SignContractService.requestOtp work contractId otpId
        tokenPayload).Alone
      (fun after =>
        after = backend ∨
          RoundBegun contractId otpId tokenPayload.sessionBoundId after)
      (fun outcome after =>
        outcome = .ok () →
          RoundBegun contractId otpId tokenPayload.sessionBoundId after)
      backend := by
  have isHandler :
      SignContractService.requestOtp work contractId otpId tokenPayload =
        (SignContractRequest.requestOtp work contractId otpId).handler
          tokenPayload := rfl
  rw [isHandler]
  apply SignContractRequest.handler_alone
  · exact Or.inl rfl
  · intro failure _ success
    cases success
  · intro middle handled
    have begun := roundBegun_of_rewrote handled.2
    exact ⟨Or.inr begun, fun _ => begun⟩

/-- The grant that follows in the same request. -/
theorem roundGranted_of_begun
    {boundId : String}
    (begun : RoundBegun contractId otpId boundId backend)
    (granted :
      (SignContractRequest.requestOtp work contractId
        otpId).grantCall.Rewrote boundId backend after) :
    RoundGranted contractId otpId boundId after := by
  obtain ⟨entry, flow, lookup, present, requested⟩ := begun
  obtain ⟨found, value, now, seconds, instant, lifetime, foundLookup,
    changed, rfl⟩ := granted
  rw [lookup] at foundLookup
  cases foundLookup
  obtain ⟨updated, stored, permissions, same⟩ :=
    granted_stored present requested.permissions changed
  refine ⟨_, .obj updated, ExpiringStore.lookup_write_same _ _ _ _ _,
    stored, permissions, ?_, ?_, ?_⟩
  · exact (same _ (by decide)).trans requested.selfieId
  · exact (same _ (by decide)).trans requested.contractId
  · exact (same _ (by decide)).trans requested.otpId

/-- A `requestOtp` leaves the store as it was, or a round for one session. -/
theorem requestOtp_leaves
    (conforms : backend.store.Conforms FlowEntry)
    (leaves :
      SignContractRequest.Leaves env jwt http
        (.requestOtp work contractId otpId) backend after) :
    after = backend ∨
      ∃ boundId,
        RoundBegun contractId otpId boundId after ∨
          RoundGranted contractId otpId boundId after := by
  cases leaves with
  | unchanged => exact Or.inl rfl
  | handled admits checked handled =>
      exact Or.inr ⟨_, Or.inl (roundBegun_of_rewrote handled.2)⟩
  | granted admits checked handled granted =>
      obtain ⟨-, -, -, names, -⟩ := admitted_snapshot conforms admits
      rw [names] at granted
      have begun := roundBegun_of_rewrote handled.2
      exact Or.inr ⟨_, Or.inr (roundGranted_of_begun begun granted)⟩

end Rounds

/--
After any sequence of requests, one at a time and each given up anywhere, every
stored flow session is in order.  And whatever they left, the write of a
further `requestOtp` begins a round without permissions and without a selfie,
as long as its grant has not followed.
-/
theorem stepOrder_of_requests
    (conforms : backend.store.Conforms FlowEntry)
    (calls : List RequestCall) :
    (∀ boundId entry,
        (runRequests env jwt backend calls).store.lookup
            (SessionService.session.storageKey JwtSession.token.text
              boundId) =
          some entry →
        StepOrder entry.value) ∧
      (∀ work contractId otpId http limit clock,
        RequestCall.run env jwt
              ⟨.requestOtp work contractId otpId, http, clock, limit⟩
              (runRequests env jwt backend calls) =
            runRequests env jwt backend calls ∨
          ∃ boundId,
            RoundBegun contractId otpId boundId
                (RequestCall.run env jwt
                  ⟨.requestOtp work contractId otpId, http, clock, limit⟩
                  (runRequests env jwt backend calls)) ∨
              RoundGranted contractId otpId boundId
                (RequestCall.run env jwt
                  ⟨.requestOtp work contractId otpId, http, clock, limit⟩
                  (runRequests env jwt backend calls))) ∧
      ∀ work contractId otpId tokenPayload clock after,
        (SignContractService.requestOtp work contractId otpId
              tokenPayload).run clock
            (runRequests env jwt backend calls) =
          (after, .ok ()) →
        RoundBegun contractId otpId tokenPayload.sessionBoundId after := by
  have eventually :
      (runRequests env jwt backend calls).store.Conforms FlowEntry :=
    runRequests_conforms conforms calls
  refine ⟨?_, ?_, ?_⟩
  · intro boundId entry lookup
    exact (flowEntry_session (eventually _ entry lookup)).2
  · intro work contractId otpId http limit clock
    exact requestOtp_leaves eventually
      ((SignContractRequest.program_leaves env jwt http _ _).runFor limit
        clock)
  · intro work contractId otpId tokenPayload clock after ran
    have begins :=
      (requestOtp_begins work contractId otpId tokenPayload
        (runRequests env jwt backend calls)).run clock
    rw [ran] at begins
    exact begins rfl

end Requests

namespace Sample

/-- Work that succeeds. -/
def done : HandlerWork where
  outcome := .ok ()
  notSuccess failure failed := by cases failed

/-- A complete request of the logged-in user in the second second. -/
def requestCall (request : SignContractRequest) : RequestCall where
  request := request
  http := .bearer (loginToken .user "first")
  clock := fun _ => 1000
  limit := 6

/-- One whole round. -/
def wholeRound : List RequestCall :=
  [requestCall (.requestOtp done "contract" "otp"),
    requestCall (.checkOtp done),
    requestCall (.checkSelfie done "selfie")]

/-- The permissions of the flow session that some requests leave. -/
def flowPermissionsAfter (calls : List RequestCall) : List String :=
  match
    ((runRequests environment JwtService.Marked.service
      ⟨sessionStore, []⟩ calls).store.read 2000
      (SessionService.session.storageKey JwtSession.token.text
        "alice:first")).bind
      fun session =>
        (signContractFlow session).bind (Json.property "permissions") with
  | some (.arr elements) => elements.map Json.templateText
  | _ => []

/-- The store after a login is in order. -/
theorem sessionStore_conforms : sessionStore.Conforms FlowEntry := by
  have empty :
      (∅ : ExpiringStore String JsonObject).Conforms FlowEntry := by
    intro key entry lookup
    cases lookup
  refine ExpiringStore.Conforms.write
    (ExpiringStore.Conforms.write empty ?_ _ _) ?_ _ _
  · exact .token (issuedPayload .user "first") rfl rfl
      (BaseJwtPayload.tokenContentOf_content _ _)
  · refine .session (issuedPayload .user "first").sessionBoundId rfl ?_ ?_
    · rw [SessionService.stringify_stamp_spread (by decide) (by decide)]
      rfl
    · intro flow present
      unfold signContractFlow AuthSessionService.flowSession at present
      rw [SessionService.stringify_stamp_spread (by decide) (by decide)]
        at present
      cases present

end Sample

/-- One whole round after a login, and what holds at its end. -/
theorem stepOrder_of_requests_round :
    Sample.flowPermissionsAfter Sample.wholeRound =
        ["OTP_REQUESTED", "OTP_VERIFIED", "SELFIE_VERIFIED"] ∧
      ∀ boundId entry,
        (runRequests Sample.environment JwtService.Marked.service
            ⟨Sample.sessionStore, []⟩ Sample.wholeRound).store.lookup
            (SessionService.session.storageKey JwtSession.token.text
              boundId) =
          some entry →
        StepOrder entry.value := by
  refine ⟨by decide +kernel, ?_⟩
  exact (stepOrder_of_requests Sample.sessionStore_conforms
    Sample.wholeRound).1

end NestBackend
