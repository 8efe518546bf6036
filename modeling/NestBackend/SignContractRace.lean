import NestBackend.EventRun
import NestBackend.SignContractFlow

namespace NestBackend

open JavaScript

/-!
# Concurrent requests of one sign-contract flow

Requests interleave at the granularity of whole calls of the session service:
the guard takes a snapshot of the session, the handler makes its call, and the
interceptor makes the grant.  The grant does not say which contract it is for,
so a permission counts for the contract that is stored when it is made.
-/

namespace SignContractRequest

/-- The session after a call at one instant. -/
def stored
    (mutator : AuthSessionService.Mutator)
    (now : Nat)
    (seconds : Option Int)
    (session : JsonObject) : Except Failure JsonObject :=
  (mutator.change session).map fun value =>
    ((SessionService.stamp now seconds).spread value).stringify

/-- The session after the handler, if it succeeds. -/
def handle
    (request : SignContractRequest)
    (now : Nat)
    (seconds : Option Int)
    (session : JsonObject) : Except Failure JsonObject :=
  match request.work.outcome with
  | .error failure => .error failure
  | .ok () =>
      match request.handlerCall with
      | none => .ok session
      | some mutator => stored mutator now seconds session

/-- The session after the grant, if it succeeds. -/
def grant
    (request : SignContractRequest)
    (now : Nat)
    (seconds : Option Int)
    (session : JsonObject) : Except Failure JsonObject :=
  stored request.grantCall now seconds session

/-- The handler replaces the contract. -/
def begins : SignContractRequest → Bool
  | .requestOtp _ _ _ => true
  | .checkOtp _ => false
  | .checkSelfie _ _ => false

end SignContractRequest

/-! ## Requests in flight -/

/--
Where a request is.  `round` counts the contracts there have been when its
snapshot was taken, and `grantRound` when its grant was made.
-/
inductive RequestPhase where
  | waiting
  | admitted (snapshot : JsonObject) (round : Nat)
  | handled (snapshot : JsonObject) (round : Nat)
  | finished (snapshot : JsonObject) (round grantRound : Nat)
  | rejected

/-- The snapshot of a request that has one, with its round. -/
def RequestPhase.snapshot? : RequestPhase → Option (JsonObject × Nat)
  | .waiting => none
  | .admitted snapshot round => some (snapshot, round)
  | .handled snapshot round => some (snapshot, round)
  | .finished snapshot round _ => some (snapshot, round)
  | .rejected => none

/-- A request with its phase. -/
structure Visit where
  request : SignContractRequest
  phase : RequestPhase

/--
The stored session with the requests made so far.  `round` and `grantor` are
kept for the record only: how many contracts there have been, and which request
added a permission that is held now.
-/
structure Race where
  session : JsonObject
  visits : List Visit
  round : Nat
  grantor : SignContractFlowPermission → Option Nat

/-- What can happen next. -/
inductive RaceAction where
  | arrive (request : SignContractRequest)
  | guard (index : Nat)
  | handle (index : Nat) (now : Nat) (seconds : Option Int)
  | grant (index : Nat) (now : Nat) (seconds : Option Int)

/-- The permission is in the stored flow session. -/
def heldIn
    (session : JsonObject)
    (permission : SignContractFlowPermission) : Bool :=
  match
    (signContractFlow session).bind (Json.property "permissions") with
  | some (.arr elements) => includes elements permission.text
  | _ => false

/-- The contract of the stored flow session. -/
def contractId (session : JsonObject) : Option Json :=
  (signContractFlow session).bind (Json.property "contractId")

namespace Race

/-- Before the first request. -/
def initial (session : JsonObject) : Race where
  session := session
  visits := []
  round := 0
  grantor := fun _ => none

/-- A request goes on to another phase. -/
def move (race : Race) (index : Nat) (visit : Visit) : Race :=
  { race with visits := race.visits.set index visit }

/-- A request writes the session; whatever it adds is on its account. -/
def write (race : Race) (index : Nat) (session : JsonObject) : Race :=
  { race with
    session := session
    grantor := fun permission =>
      if heldIn session permission then
        if heldIn race.session permission then
          race.grantor permission
        else
          some index
      else
        none }

/-- One action; disabled when the request is not at that point. -/
def step (race : Race) : RaceAction → Option Race
  | .arrive request =>
      some { race with visits := race.visits ++ [⟨request, .waiting⟩] }
  | .guard index =>
      match race.visits[index]? with
      | some ⟨request, .waiting⟩ =>
          match request.check race.session with
          | .ok () =>
              some (race.move index
                ⟨request, .admitted race.session race.round⟩)
          | .error _ => some (race.move index ⟨request, .rejected⟩)
      | _ => none
  | .handle index now seconds =>
      match race.visits[index]? with
      | some ⟨request, .admitted snapshot round⟩ =>
          match request.handle now seconds race.session with
          | .ok session =>
              some { (race.write index session).move index
                  ⟨request, .handled snapshot round⟩ with
                round :=
                  if request.begins then race.round + 1 else race.round }
          | .error _ => some (race.move index ⟨request, .rejected⟩)
      | _ => none
  | .grant index now seconds =>
      match race.visits[index]? with
      | some ⟨request, .handled snapshot round⟩ =>
          match request.grant now seconds race.session with
          | .ok session =>
              some ((race.write index session).move index
                ⟨request, .finished snapshot round race.round⟩)
          | .error _ => some (race.move index ⟨request, .rejected⟩)
      | _ => none

/-- A whole schedule. -/
def run? (race : Race) : List RaceAction → Option Race
  | [] => some race
  | action :: rest =>
      match race.step action with
      | none => none
      | some next => next.run? rest

end Race

/-! ## What the calls do to the flow session -/

/-- The flow session is an object whose permissions are an array, if any. -/
def FlowShape (session : JsonObject) : Prop :=
  ∀ flow,
    signContractFlow session = some flow →
      ∃ properties,
        flow = .obj properties ∧
          ∀ permissions,
            properties "permissions" = some permissions →
              ∃ elements, permissions = .arr elements

/-- A call leaves the contract, and adds at most one permission. -/
structure KeepsContract
    (added : Option SignContractFlowPermission)
    (before after : JsonObject) : Prop where
  shape : FlowShape after
  contract : contractId after = contractId before
  held :
    ∀ permission,
      heldIn after permission = true ↔
        heldIn before permission = true ∨ some permission = added

/-- Such a flow session is an object. -/
theorem FlowShape.object
    {session : JsonObject}
    (shape : FlowShape session) :
    FlowObject session := by
  intro flow present
  obtain ⟨properties, isObject, -⟩ := shape flow present
  exact ⟨properties, isObject⟩

section Calls

variable
  {request : SignContractRequest}
  {now : Nat}
  {seconds : Option Int}
  {session after : JsonObject}

/-- A call that succeeded computed a value. -/
theorem stored_ok
    {mutator : AuthSessionService.Mutator}
    (ok :
      SignContractRequest.stored mutator now seconds session = .ok after) :
    ∃ value,
      mutator.change session = .ok value ∧
        after =
          ((SessionService.stamp now seconds).spread value).stringify :=
  AuthSessionService.map_ok ok

/-- What is held in a flow session with an array of permissions. -/
theorem heldIn_of_stored
    {flow : Json}
    {elements : List Json}
    (present : signContractFlow session = some flow)
    (permissions : flow.property "permissions" = some (.arr elements))
    (permission : SignContractFlowPermission) :
    heldIn session permission = includes elements permission.text := by
  unfold heldIn
  rw [present, Option.bind_some, permissions]

/-- Nothing happened. -/
theorem KeepsContract.refl
    (shape : FlowShape session) :
    KeepsContract none session session where
  shape := shape
  contract := rfl
  held permission := by simp

/-- The handler of `requestOtp` replaces the contract and all permissions. -/
theorem handle_begins
    (begins : request.begins = true)
    (ok : request.handle now seconds session = .ok after) :
    FlowShape after ∧ ∀ permission, heldIn after permission = false := by
  cases request with
  | requestOtp work contractId otpId =>
      simp only [SignContractRequest.handle] at ok
      split at ok
      · cases ok
      · obtain ⟨value, changed, rfl⟩ := stored_ok ok
        obtain ⟨flow, present, requested⟩ := justRequested_stored changed
        refine ⟨?_, ?_⟩
        · intro other otherPresent
          rw [present] at otherPresent
          cases otherPresent
          have permissions := requested.permissions
          cases flow with
          | obj properties =>
              refine ⟨properties, rfl, ?_⟩
              intro held heldShape
              exact ⟨[], Option.some.inj (heldShape.symm.trans
                permissions)⟩
          | _ => cases permissions
        · intro permission
          exact heldIn_of_stored present requested.permissions permission
  | checkOtp work => cases begins
  | checkSelfie work selfieId => cases begins

/-- The other handlers leave the contract and the permissions. -/
theorem handle_keeps
    (shape : FlowShape session)
    (begins : request.begins = false)
    (ok : request.handle now seconds session = .ok after) :
    KeepsContract none session after := by
  cases request with
  | requestOtp work contractId otpId => cases begins
  | checkOtp work =>
      simp only [SignContractRequest.handle] at ok
      split at ok
      · cases ok
      · cases ok
        exact .refl shape
  | checkSelfie work selfieId =>
      simp only [SignContractRequest.handle] at ok
      split at ok
      · cases ok
      · obtain ⟨value, changed, rfl⟩ := stored_ok ok
        obtain ⟨properties, present, -, same⟩ :=
          checkedSelfie_stored shape.object changed
        have samePermissions :=
          same "permissions" (by decide) (by decide)
        have sameContract := same "contractId" (by decide) (by decide)
        refine ⟨?_, ?_, ?_⟩
        · intro flow flowPresent
          rw [present] at flowPresent
          cases flowPresent
          refine ⟨properties, rfl, ?_⟩
          intro held heldShape
          rw [samePermissions] at heldShape
          obtain ⟨earlier, earlierPresent, earlierHeld⟩ :=
            Option.bind_eq_some_iff.mp heldShape
          obtain ⟨own, rfl, arrays⟩ := shape earlier earlierPresent
          exact arrays held earlierHeld
        · unfold contractId
          rw [present]
          exact sameContract
        · intro permission
          have sameHeld :
              heldIn
                  ((SessionService.stamp now seconds).spread
                    value).stringify permission =
                heldIn session permission := by
            unfold heldIn
            rw [present, ← samePermissions]
            rfl
          rw [sameHeld]
          simp

/-- A grant that succeeded found a flow session. -/
theorem granted_present
    {permission : SignContractFlowPermission}
    {value : Properties}
    (changed :
      AuthSessionService.withFlowPermissions SignContractService.flow
          [.signContract permission] session =
        .ok value) :
    ∃ flow, signContractFlow session = some flow := by
  obtain ⟨flow, _, present, -⟩ :=
    AuthSessionService.withFlowPermissions_ok changed
  exact ⟨flow, present⟩

/-- And its permissions were an array. -/
theorem granted_array
    {permission : SignContractFlowPermission}
    {value : Properties}
    {flow : Json}
    (shape : FlowShape session)
    (present : signContractFlow session = some flow)
    (changed :
      AuthSessionService.withFlowPermissions SignContractService.flow
          [.signContract permission] session =
        .ok value) :
    ∃ elements, flow.property "permissions" = some (.arr elements) := by
  obtain ⟨properties, rfl, arrays⟩ := shape flow present
  obtain ⟨found, updated, foundFlow, -, pushed, -⟩ :=
    AuthSessionService.withFlowPermissions_ok changed
  obtain rfl : Json.obj properties = found :=
    Option.some.inj (present.symm.trans foundFlow)
  cases held : properties "permissions" with
  | some permissions =>
      obtain ⟨elements, rfl⟩ := arrays permissions held
      exact ⟨elements, held⟩
  | none =>
      simp only [Json.property, held] at pushed
      cases pushed

/-- A grant leaves the contract and adds the permission of the request. -/
theorem grant_keeps
    (shape : FlowShape session)
    (ok : request.grant now seconds session = .ok after) :
    KeepsContract (some request.permission) session after := by
  obtain ⟨value, changed, rfl⟩ := stored_ok ok
  have changes :
      AuthSessionService.withFlowPermissions SignContractService.flow
          [.signContract request.permission] session =
        .ok value := by
    cases request <;> exact changed
  obtain ⟨flow, present⟩ := granted_present changes
  obtain ⟨elements, held⟩ := granted_array shape present changes
  obtain ⟨properties, stored, permissions, same⟩ :=
    granted_stored present held changes
  refine ⟨?_, ?_, ?_⟩
  · intro other otherPresent
    rw [stored] at otherPresent
    cases otherPresent
    refine ⟨properties, rfl, ?_⟩
    intro heldNow heldShape
    exact ⟨_, Option.some.inj (heldShape.symm.trans permissions)⟩
  · unfold contractId
    rw [stored, present]
    exact same "contractId" (by decide)
  · intro permission
    rw [heldIn_of_stored stored permissions, heldIn_of_stored present held,
      AuthSessionService.includes_pushMissing, List.mem_singleton,
      SignContractFlowPermission.text_injective.eq_iff, Option.some_inj]

end Calls

/-! ## What a step of the race can do -/

namespace Race

/-- The record of a visit that is not over. -/
def Visiting
    (race : Race)
    (index : Nat)
    (request : SignContractRequest)
    (phase : RequestPhase) : Prop :=
  race.visits[index]? = some ⟨request, phase⟩ ∧
    ∀ snapshot round grantRound,
      phase ≠ .finished snapshot round grantRound

/-- The cases of a step. -/
inductive Steps (race : Race) : Race → Prop where
  | arrived (request : SignContractRequest) :
      Steps race { race with visits := race.visits ++ [⟨request, .waiting⟩] }
  | guarded
      {index : Nat}
      {request : SignContractRequest}
      (visiting : race.Visiting index request .waiting)
      (checked : request.check race.session = .ok ()) :
      Steps race
        (race.move index ⟨request, .admitted race.session race.round⟩)
  | rejected
      {index : Nat}
      {request : SignContractRequest}
      {phase : RequestPhase}
      (visiting : race.Visiting index request phase) :
      Steps race (race.move index ⟨request, .rejected⟩)
  | handled
      {index : Nat}
      {request : SignContractRequest}
      {snapshot session : JsonObject}
      {round now : Nat}
      {seconds : Option Int}
      (visiting :
        race.Visiting index request (.admitted snapshot round))
      (ok : request.handle now seconds race.session = .ok session) :
      Steps race
        { (race.write index session).move index
            ⟨request, .handled snapshot round⟩ with
          round :=
            if request.begins then race.round + 1 else race.round }
  | granted
      {index : Nat}
      {request : SignContractRequest}
      {snapshot session : JsonObject}
      {round now : Nat}
      {seconds : Option Int}
      (visiting : race.Visiting index request (.handled snapshot round))
      (ok : request.grant now seconds race.session = .ok session) :
      Steps race
        ((race.write index session).move index
          ⟨request, .finished snapshot round race.round⟩)

/-- Every step is one of these. -/
theorem step_cases
    {race next : Race}
    {action : RaceAction}
    (stepped : race.step action = some next) :
    race.Steps next := by
  cases action with
  | arrive request =>
      cases stepped
      exact .arrived request
  | guard index =>
      simp only [step] at stepped
      split at stepped
      · rename_i request found
        have visiting : race.Visiting index request .waiting :=
          ⟨found, fun _ _ _ finished => by cases finished⟩
        split at stepped
        · rename_i checked
          cases stepped
          exact .guarded visiting checked
        · cases stepped
          exact .rejected visiting
      · cases stepped
  | handle index now seconds =>
      simp only [step] at stepped
      split at stepped
      · rename_i request snapshot round found
        have visiting :
            race.Visiting index request (.admitted snapshot round) :=
          ⟨found, fun _ _ _ finished => by cases finished⟩
        split at stepped
        · rename_i session ok
          cases stepped
          exact .handled visiting ok
        · cases stepped
          exact .rejected visiting
      · cases stepped
  | grant index now seconds =>
      simp only [step] at stepped
      split at stepped
      · rename_i request snapshot round found
        have visiting :
            race.Visiting index request (.handled snapshot round) :=
          ⟨found, fun _ _ _ finished => by cases finished⟩
        split at stepped
        · rename_i session ok
          cases stepped
          exact .granted visiting ok
        · cases stepped
          exact .rejected visiting
      · cases stepped

/-! ## Whose permissions are held -/

/-- A request added the permission in this round, with this snapshot. -/
def GrantedBy
    (race : Race)
    (permission : SignContractFlowPermission)
    (request : SignContractRequest)
    (snapshot : JsonObject)
    (round : Nat) : Prop :=
  ∃ index,
    race.grantor permission = some index ∧
      race.visits[index]? =
        some ⟨request, .finished snapshot round race.round⟩

/-- A snapshot of the present round shows the present contract. -/
def Recent (race : Race) (snapshot : JsonObject) (round : Nat) : Prop :=
  round ≤ race.round ∧
    (round = race.round →
      contractId snapshot = contractId race.session)

/--
The invariant of a race: snapshots of the present round show the present
contract, and whatever is held was granted in the present round.
-/
structure Accounted (race : Race) : Prop where
  shape : FlowShape race.session
  recent :
    ∀ visit ∈ race.visits,
      ∀ snapshot round,
        visit.phase.snapshot? = some (snapshot, round) →
        race.Recent snapshot round
  granted :
    ∀ permission,
      heldIn race.session permission = true →
      ∃ request snapshot round,
        request.permission = permission ∧
          race.GrantedBy permission request snapshot round

/-- A visit that goes on keeps its snapshot, or takes one now. -/
theorem Accounted.recent_set
    {race : Race}
    (accounted : race.Accounted)
    {index : Nat}
    {visit : Visit}
    (recent :
      ∀ snapshot round,
        visit.phase.snapshot? = some (snapshot, round) →
        race.Recent snapshot round) :
    ∀ other ∈ race.visits.set index visit,
      ∀ snapshot round,
        other.phase.snapshot? = some (snapshot, round) →
        race.Recent snapshot round := by
  intro other member
  rcases List.mem_or_eq_of_mem_set member with before | rfl
  · exact accounted.recent other before
  · exact recent

/-- A visit that is not over is nobody's grant. -/
theorem Visiting.grantedBy_move
    {race : Race}
    {index : Nat}
    {request : SignContractRequest}
    {phase : RequestPhase}
    (visiting : race.Visiting index request phase)
    (visit : Visit)
    {permission : SignContractFlowPermission}
    {other : SignContractRequest}
    {snapshot : JsonObject}
    {round : Nat}
    (granted : race.GrantedBy permission other snapshot round) :
    (race.move index visit).GrantedBy permission other snapshot round := by
  obtain ⟨grantor, recorded, found⟩ := granted
  refine ⟨grantor, recorded, ?_⟩
  have different : index ≠ grantor := by
    rintro rfl
    rw [visiting.1] at found
    cases found
    exact visiting.2 _ _ _ rfl
  exact (List.getElem?_set_ne different).trans found

/-- A visit that goes on without a write leaves the account as it was. -/
theorem Accounted.move
    {race : Race}
    (accounted : race.Accounted)
    {index : Nat}
    {request : SignContractRequest}
    {phase : RequestPhase}
    (visiting : race.Visiting index request phase)
    {visit : Visit}
    (recent :
      ∀ snapshot round,
        visit.phase.snapshot? = some (snapshot, round) →
        race.Recent snapshot round) :
    (race.move index visit).Accounted where
  shape := accounted.shape
  recent := accounted.recent_set recent
  granted permission held := by
    obtain ⟨other, snapshot, round, permits, granted⟩ :=
      accounted.granted permission held
    exact ⟨other, snapshot, round, permits,
      visiting.grantedBy_move visit granted⟩

/-- The snapshot of a visit is recent. -/
theorem Accounted.visiting
    {race : Race}
    (accounted : race.Accounted)
    {index : Nat}
    {request : SignContractRequest}
    {phase : RequestPhase}
    (visiting : race.Visiting index request phase)
    {snapshot : JsonObject}
    {round : Nat}
    (taken : phase.snapshot? = some (snapshot, round)) :
    race.Recent snapshot round :=
  accounted.recent _ (List.mem_of_getElem? visiting.1) snapshot round taken

section Write

variable
  {race : Race}
  {index : Nat}
  {session : JsonObject}
  {permission : SignContractFlowPermission}

/-- What was held already stays on the same account. -/
theorem write_grantor_of_held
    (before : heldIn race.session permission = true)
    (held : heldIn session permission = true) :
    (race.write index session).grantor permission =
      race.grantor permission := by
  simp only [write, held, before, ↓reduceIte]

/-- What a write adds is on the account of the one who wrote. -/
theorem write_grantor_of_added
    (before : heldIn race.session permission ≠ true)
    (held : heldIn session permission = true) :
    (race.write index session).grantor permission = some index := by
  simp [write, held, before]

end Write

/-- The snapshots are the same after a step that takes none. -/
theorem Accounted.recent_of_taken
    {race : Race}
    (accounted : race.Accounted)
    {index : Nat}
    {request : SignContractRequest}
    {phase : RequestPhase}
    (visiting : race.Visiting index request phase)
    {visit : Visit}
    (taken : visit.phase.snapshot? = phase.snapshot?) :
    ∀ other ∈ race.visits.set index visit,
      ∀ snapshot round,
        other.phase.snapshot? = some (snapshot, round) →
        race.Recent snapshot round := by
  apply accounted.recent_set
  intro snapshot round shown
  rw [taken] at shown
  exact accounted.visiting visiting shown

/-- A call that leaves the contract leaves the account of what was held. -/
theorem Accounted.keeps
    {race : Race}
    (accounted : race.Accounted)
    {added : Option SignContractFlowPermission}
    {session : JsonObject}
    (keeps : KeepsContract added race.session session)
    {index : Nat}
    {request : SignContractRequest}
    {phase : RequestPhase}
    (visiting : race.Visiting index request phase)
    {visit : Visit}
    (taken : visit.phase.snapshot? = phase.snapshot?)
    (adds :
      ∀ permission,
        some permission = added →
        request.permission = permission ∧
          ∃ snapshot round,
            visit =
              ⟨request, .finished snapshot round race.round⟩) :
    ((race.write index session).move index visit).Accounted where
  shape := keeps.shape
  recent := by
    intro other member snapshot round shown
    obtain ⟨notLater, sameContract⟩ :=
      accounted.recent_of_taken visiting taken other member snapshot round
        shown
    exact ⟨notLater, fun same =>
      (sameContract same).trans keeps.contract.symm⟩
  granted permission held := by
    by_cases before : heldIn race.session permission = true
    · obtain ⟨other, snapshot, round, permits, granted⟩ :=
        accounted.granted permission before
      obtain ⟨grantor, recorded, found⟩ :=
        visiting.grantedBy_move visit granted
      refine ⟨other, snapshot, round, permits, grantor, ?_, found⟩
      exact (write_grantor_of_held before held).trans recorded
    · have added : some permission = added :=
        ((keeps.held permission).mp held).resolve_left before
      obtain ⟨permits, snapshot, round, rfl⟩ := adds permission added
      refine ⟨request, snapshot, round, permits, index, ?_, ?_⟩
      · exact write_grantor_of_added before held
      · have inside : index < race.visits.length :=
          (List.getElem?_eq_some_iff.mp visiting.1).1
        exact List.getElem?_set_self inside

/-- A new contract leaves nothing to account for. -/
theorem Accounted.begins
    {race : Race}
    (accounted : race.Accounted)
    {session : JsonObject}
    (shape : FlowShape session)
    (nothing : ∀ permission, heldIn session permission = false)
    {index : Nat}
    {request : SignContractRequest}
    {phase : RequestPhase}
    (visiting : race.Visiting index request phase)
    {visit : Visit}
    (taken : visit.phase.snapshot? = phase.snapshot?) :
    { (race.write index session).move index visit with
      round := race.round + 1 : Race }.Accounted where
  shape := shape
  recent := by
    intro other member snapshot round shown
    obtain ⟨notLater, -⟩ :=
      accounted.recent_of_taken visiting taken other member snapshot round
        shown
    have earlier : round < race.round + 1 := Nat.lt_succ_of_le notLater
    exact ⟨earlier.le, fun same => (earlier.ne same).elim⟩
  granted permission held := by
    have notHeld : heldIn session permission = false := nothing permission
    rw [show heldIn session permission = true from held] at notHeld
    cases notHeld

/-- Every step keeps the account. -/
theorem Accounted.step
    {race next : Race}
    (accounted : race.Accounted)
    {action : RaceAction}
    (stepped : race.step action = some next) :
    next.Accounted := by
  cases step_cases stepped with
  | arrived request =>
      refine ⟨accounted.shape, ?_, ?_⟩
      · intro visit member snapshot round taken
        rcases List.mem_append.mp member with before | new
        · exact accounted.recent visit before snapshot round taken
        · rw [List.mem_singleton.mp new] at taken
          cases taken
      · intro permission held
        obtain ⟨other, snapshot, round, permits, grantor, recorded,
          found⟩ := accounted.granted permission held
        refine ⟨other, snapshot, round, permits, grantor, recorded, ?_⟩
        have inside : grantor < race.visits.length :=
          (List.getElem?_eq_some_iff.mp found).1
        exact (List.getElem?_append_left inside).trans found
  | guarded visiting checked =>
      apply accounted.move visiting
      intro snapshot round taken
      cases taken
      exact ⟨le_rfl, fun _ => rfl⟩
  | rejected visiting =>
      apply accounted.move visiting
      intro snapshot round taken
      cases taken
  | @handled index request snapshot session round now seconds visiting ok =>
      cases begins : request.begins with
      | true =>
          obtain ⟨shape, nothing⟩ := handle_begins begins ok
          exact accounted.begins shape nothing visiting rfl
      | false =>
          apply accounted.keeps
            (handle_keeps accounted.shape begins ok) visiting rfl
          intro permission added
          cases added
  | granted visiting ok =>
      apply accounted.keeps (grant_keeps accounted.shape ok) visiting rfl
      intro permission added
      cases added
      exact ⟨rfl, _, _, rfl⟩

/-- A schedule is a run of events. -/
theorem run?_eq
    (race : Race)
    (actions : List RaceAction) :
    race.run? actions = EventRun.run? step race actions := by
  induction actions generalizing race with
  | nil => rfl
  | cons action rest inductionHypothesis =>
      unfold run? EventRun.run?
      rw [List.foldlM_cons]
      cases race.step action with
      | none => rfl
      | some next => exact inductionHypothesis next

/-- Every schedule keeps the account. -/
theorem Accounted.run
    {race final : Race}
    (accounted : race.Accounted)
    {actions : List RaceAction}
    (ran : race.run? actions = some final) :
    final.Accounted := by
  rw [run?_eq] at ran
  refine EventRun.keeps ?_ ran accounted
  intro _ _ _ _ kept stepped
  exact kept.step stepped

/-- Before the first request nothing is held. -/
theorem initial_accounted
    {session : JsonObject}
    (shape : FlowShape session)
    (nothing : ∀ permission, heldIn session permission = false) :
    (initial session).Accounted where
  shape := shape
  recent visit member := by cases member
  granted permission held := by
    have notHeld : heldIn session permission = false := nothing permission
    rw [show heldIn session permission = true from held] at notHeld
    cases notHeld

/--
In every schedule a permission that is held was granted by a request of its own
kind, in the present round; and if that request took its snapshot in the
present round too, the snapshot showed the contract that is stored.
-/
theorem granted_for_contract
    {session : JsonObject}
    (shape : FlowShape session)
    (nothing : ∀ permission, heldIn session permission = false)
    {actions : List RaceAction}
    {race : Race}
    (ran : (initial session).run? actions = some race) :
    (heldIn race.session .otpVerified = true →
        ∃ work snapshot round,
          race.GrantedBy .otpVerified (.checkOtp work) snapshot round ∧
            round ≤ race.round ∧
            (round = race.round →
              contractId snapshot = contractId race.session)) ∧
      (heldIn race.session .selfieVerified = true →
        ∃ work selfieId snapshot round,
          race.GrantedBy .selfieVerified (.checkSelfie work selfieId)
              snapshot round ∧
            round ≤ race.round ∧
            (round = race.round →
              contractId snapshot = contractId race.session)) := by
  have accounted : race.Accounted :=
    (initial_accounted shape nothing).run ran
  have recent :
      ∀ {permission request snapshot round},
        race.GrantedBy permission request snapshot round →
        race.Recent snapshot round := by
    intro permission request snapshot round granted
    obtain ⟨index, -, found⟩ := granted
    exact accounted.recent _ (List.mem_of_getElem? found) snapshot round rfl
  constructor
  · intro held
    obtain ⟨request, snapshot, round, permits, granted⟩ :=
      accounted.granted _ held
    cases request with
    | requestOtp work contractId otpId => cases permits
    | checkOtp work => exact ⟨work, snapshot, round, granted, recent granted⟩
    | checkSelfie work selfieId => cases permits
  · intro held
    obtain ⟨request, snapshot, round, permits, granted⟩ :=
      accounted.granted _ held
    cases request with
    | requestOtp work contractId otpId => cases permits
    | checkOtp work => cases permits
    | checkSelfie work selfieId =>
        exact ⟨work, selfieId, snapshot, round, granted, recent granted⟩

end Race

/-! ## A request by itself is a race of its own -/

section Requests

variable
  {env : CoreEnvironment}
  {jwt : JwtService}
  {http : GuardRequest}
  {request : SignContractRequest}
  {backend after : Backend String JsonObject}
  {boundId : String}

/-- The session under a bound identifier. -/
def StoredSession
    (backend : Backend String JsonObject)
    (boundId : String)
    (session : JsonObject) : Prop :=
  ∃ entry,
    backend.store.lookup
        (SessionService.session.storageKey JwtSession.token.text
          boundId) =
      some entry ∧
      entry.value = session

/-- A rewriting of the store is a call of the race. -/
theorem stored_of_rewrote
    {mutator : AuthSessionService.Mutator}
    {session : JsonObject}
    (found : StoredSession backend boundId session)
    (rewrote : mutator.Rewrote boundId backend after) :
    ∃ now seconds next,
      SignContractRequest.stored mutator now seconds session = .ok next ∧
        StoredSession after boundId next := by
  obtain ⟨earlier, earlierLookup, rfl⟩ := found
  obtain ⟨entry, value, now, seconds, instant, lifetime, lookup, changed,
    rfl⟩ := rewrote
  rw [earlierLookup] at lookup
  cases lookup
  refine ⟨now, seconds, _, ?_, _,
    ExpiringStore.lookup_write_same _ _ _ _ _, rfl⟩
  unfold SignContractRequest.stored
  rw [changed]
  rfl

/-- What a handler leaves in the store it leaves in the race. -/
theorem handle_of_handled
    {session : JsonObject}
    (found : StoredSession backend boundId session)
    (handled : request.Handled boundId backend after) :
    ∃ now seconds next,
      request.handle now seconds session = .ok next ∧
        StoredSession after boundId next := by
  obtain ⟨succeeded, did⟩ := handled
  unfold SignContractRequest.handle
  rw [succeeded]
  cases call : request.handlerCall with
  | none =>
      rw [call] at did
      cases did
      exact ⟨0, none, session, rfl, found⟩
  | some mutator =>
      rw [call] at did
      exact stored_of_rewrote found did

/--
What a request leaves of its session when it runs alone on the store, given up
anywhere, is what a schedule of the race leaves for it.
-/
theorem leaves_raced
    (conforms : backend.store.Conforms FlowEntry)
    (leaves :
      SignContractRequest.Leaves env jwt http request backend after) :
    after = backend ∨
      ∃ boundId session actions race,
        StoredSession backend boundId session ∧
          (Race.initial session).run? (.arrive request :: .guard 0 ::
            actions) = some race ∧
          StoredSession after boundId race.session := by
  cases leaves with
  | unchanged => exact Or.inl rfl
  | @handled admitted after admits checked handled =>
      obtain ⟨entry, lookup, same, -, -⟩ :=
        admitted_snapshot conforms admits
      obtain ⟨now, seconds, next, ok, stored⟩ :=
        handle_of_handled ⟨entry, lookup, same⟩ handled
      have raced :
          ∃ race,
            (Race.initial admitted.session).run?
                [.arrive request, .guard 0, .handle 0 now seconds] =
              some race ∧ race.session = next := by
        simp [Race.run?, Race.step, Race.initial, Race.move, Race.write,
          checked, ok]
      obtain ⟨race, ran, rfl⟩ := raced
      exact Or.inr ⟨_, _, _, race, ⟨entry, lookup, same⟩, ran, stored⟩
  | @granted admitted middle after admits checked handled granted =>
      obtain ⟨entry, lookup, same, names, -⟩ :=
        admitted_snapshot conforms admits
      rw [names] at granted
      obtain ⟨now, seconds, between, ok, stored⟩ :=
        handle_of_handled ⟨entry, lookup, same⟩ handled
      obtain ⟨later, laterSeconds, next, laterOk, laterStored⟩ :=
        stored_of_rewrote stored granted
      have grantOk :
          request.grant later laterSeconds between = .ok next := laterOk
      have raced :
          ∃ race,
            (Race.initial admitted.session).run?
                [.arrive request, .guard 0, .handle 0 now seconds,
                  .grant 0 later laterSeconds] =
              some race ∧ race.session = next := by
        simp [Race.run?, Race.step, Race.initial, Race.move, Race.write,
          checked, ok, grantOk]
      obtain ⟨race, ran, rfl⟩ := raced
      exact Or.inr
        ⟨_, _, _, race, ⟨entry, lookup, same⟩, ran, laterStored⟩

end Requests

namespace Sample

/-- The session that a login leaves. -/
def loginSession : JsonObject :=
  ((SessionService.stamp 0 (some 10)).spread
    (BaseAuthService.boundSession session (issuedPayload .user "first")
      [])).stringify

/-- A whole `requestOtp`, then a whole `checkOtp`. -/
def oneAfterTheOther : List RaceAction :=
  [.arrive (.requestOtp done "contract" "otp"),
    .guard 0, .handle 0 1000 (some 9), .grant 0 1000 (some 9),
    .arrive (.checkOtp done),
    .guard 1, .handle 1 2000 (some 8), .grant 1 2000 (some 8)]

/-- A second contract comes between the check of a code and its grant. -/
def secondContract : List RaceAction :=
  [.arrive (.requestOtp done "contract" "otp"),
    .guard 0, .handle 0 1000 (some 9), .grant 0 1000 (some 9),
    .arrive (.checkOtp done),
    .arrive (.requestOtp done "other" "code"),
    .guard 1, .guard 2,
    .handle 2 2000 (some 8),
    .handle 1 2000 (some 8), .grant 1 2000 (some 8)]

/-- The race that a schedule leads to. -/
def raceAfter (actions : List RaceAction) : Race :=
  ((Race.initial loginSession).run? actions).getD
    (Race.initial loginSession)

/-- The text of a contract identifier. -/
def contractText (session : JsonObject) : String :=
  templateText? (contractId session)

/-- The contract that the snapshot of a request showed. -/
def snapshotContract (race : Race) (index : Nat) : Option String :=
  (race.visits[index]?.bind fun visit => visit.phase.snapshot?).map
    fun snapshot => contractText snapshot.1

/-- After a login there is no flow session. -/
theorem loginSession_fresh : signContractFlow loginSession = none := by
  unfold signContractFlow AuthSessionService.flowSession loginSession
  rw [SessionService.stringify_stamp_spread (by decide) (by decide)]
  rfl

/-- So its flow session is of the right shape. -/
theorem loginSession_shape : FlowShape loginSession := by
  intro flow present
  rw [loginSession_fresh] at present
  cases present

/-- And no permission is held. -/
theorem loginSession_nothing
    (permission : SignContractFlowPermission) :
    heldIn loginSession permission = false := by
  unfold heldIn
  rw [loginSession_fresh]
  rfl

/-- A schedule that goes through leads to its race. -/
theorem run_raceAfter
    {actions : List RaceAction}
    (enabled :
      ((Race.initial loginSession).run? actions).isSome = true) :
    (Race.initial loginSession).run? actions = some (raceAfter actions) := by
  unfold raceAfter
  obtain ⟨race, ran⟩ := Option.isSome_iff_exists.mp enabled
  rw [ran]
  rfl

end Sample

namespace Race

/-- Sequential requests: what is held, and for which contract. -/
theorem granted_for_contract_sequential :
    heldIn (Sample.raceAfter Sample.oneAfterTheOther).session
          .otpVerified =
        true ∧
      ∃ work snapshot round,
        (Sample.raceAfter Sample.oneAfterTheOther).GrantedBy .otpVerified
            (.checkOtp work) snapshot round ∧
          round ≤ (Sample.raceAfter Sample.oneAfterTheOther).round ∧
          (round = (Sample.raceAfter Sample.oneAfterTheOther).round →
            contractId snapshot =
              contractId
                (Sample.raceAfter Sample.oneAfterTheOther).session) := by
  have held :
      heldIn (Sample.raceAfter Sample.oneAfterTheOther).session
          .otpVerified =
        true := by
    decide +kernel
  refine ⟨held, ?_⟩
  exact (granted_for_contract Sample.loginSession_shape
    Sample.loginSession_nothing
    (Sample.run_raceAfter (by decide +kernel))).1 held

/-- A contract that nobody checked a code for counts as checked. -/
theorem code_of_first_contract_counts_for_second :
    ¬ ∀ session actions race,
        signContractFlow session = none →
        (initial session).run? actions = some race →
        heldIn race.session .otpVerified = true →
        ∃ index work snapshot round grantRound,
          race.grantor .otpVerified = some index ∧
            race.visits[index]? =
              some ⟨.checkOtp work, .finished snapshot round grantRound⟩ ∧
            contractId snapshot = contractId race.session := by
  intro claimed
  have recorded :
      (Sample.raceAfter Sample.secondContract).grantor .otpVerified =
        some 1 := by
    decide +kernel
  have before :
      Sample.snapshotContract (Sample.raceAfter Sample.secondContract) 1 =
        some "contract" := by
    decide +kernel
  have now :
      Sample.contractText
          (Sample.raceAfter Sample.secondContract).session =
        "other" := by
    decide +kernel
  obtain ⟨index, work, snapshot, round, grantRound, isGrantor, found,
    same⟩ :=
    claimed Sample.loginSession Sample.secondContract
      (Sample.raceAfter Sample.secondContract) Sample.loginSession_fresh
      (Sample.run_raceAfter (by decide +kernel)) (by decide +kernel)
  rw [recorded] at isGrantor
  cases isGrantor
  unfold Sample.snapshotContract at before
  rw [found] at before
  have snapshotText : Sample.contractText snapshot = "contract" :=
    Option.some.inj before
  unfold Sample.contractText at snapshotText now
  rw [same, now] at snapshotText
  exact absurd snapshotText (by decide)

end Race

end NestBackend
