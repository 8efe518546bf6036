import NestBackend.FaultyRun
import NestBackend.FlowSessions
import NestBackend.PermissionInterceptor

namespace NestBackend

open JavaScript

/-!
# What `PermissionInterceptor` grants

After a successful answer the interceptor makes up to two calls of
`AuthSessionService`, one after the other, inside a promise that it only
resolves.  Every command of these calls may fail.
-/

namespace GuardMetadata

/-- The call for the session. -/
def sessionGrants
    (metadata : GuardMetadata) : List AuthSessionService.Mutator :=
  if metadata.provided.isEmpty then
    []
  else
    [.addPermissions metadata.provided]

/-- The call for the flow session. -/
def flowGrants
    (metadata : GuardMetadata) : List AuthSessionService.Mutator :=
  match metadata.flowPermission with
  | none => []
  | some flowMetadata =>
      if flowMetadata.provided.isEmpty then
        []
      else
        [.addFlowPermissions flowMetadata.flow flowMetadata.provided]

/-- The calls that a grant makes. -/
def grants
    (metadata : GuardMetadata) : List AuthSessionService.Mutator :=
  metadata.sessionGrants ++ metadata.flowGrants

end GuardMetadata

namespace PermissionInterceptor

open AuthSessionService

/-- A session holds all permissions that a call adds. -/
def Granted (session : JsonObject) : Mutator → Prop
  | .addPermissions permissions =>
      ∀ permission ∈ permissions,
        held (session "permissions") permission.text = .ok true
  | .addFlowPermissions type permissions =>
      ∃ flow,
        flowSession session type.text = some flow ∧
          ∀ permission ∈ permissions,
            held (flow.property "permissions") permission.text = .ok true
  | _ => True

/-- Every permission that is provided is stored. -/
def Stores
    (metadata : GuardMetadata)
    (key : String)
    (backend : Backend String JsonObject) : Prop :=
  ∀ mutator ∈ metadata.grants,
    ∃ entry,
      backend.store.lookup
          (SessionService.session.storageKey JwtSession.token.text key) =
        some entry ∧
        Granted entry.value mutator

/--
The answer is emitted, and with a success every permission that is provided is
stored; or an error is signalled, and the session is stored as it was.
-/
def AllOrNothing
    (metadata : GuardMetadata)
    (key : String)
    (handled : Except Failure ResponseDTO)
    (before : Backend String JsonObject) :
    Backend String JsonObject × Except Failure (Option ResponseDTO) → Prop
  | (after, .ok (some res)) =>
      handled = .ok res ∧
        (res.systemCode = .success → Stores metadata key after)
  | (_, .ok none) => False
  | (after, .error _) =>
      after.store.lookup
          (SessionService.session.storageKey JwtSession.token.text key) =
        before.store.lookup
          (SessionService.session.storageKey JwtSession.token.text key)

/--
Both commands of a call are served, it can be carried out on the session, and
some lifetime is left when it writes.
-/
structure CanGrant
    (serve : Nat → Serving)
    (session : JsonObject)
    (mutator : Mutator) : Prop where
  readServed : (serve 0).fault = .served
  writeServed : (serve 1).fault = .served
  accepts : mutator.Accepts session
  left :
    ∃ seconds,
      secondsLeft session (serve 1).instant = some seconds ∧ 0 < seconds

/--
The session is there, and the first call can be made on it; so can the second,
if there is one, before the session expires that the first has written.
-/
def Grantable
    (mutators : List Mutator)
    (key : String)
    (serve : Nat → Serving)
    (backend : Backend String JsonObject) : Prop :=
  match mutators with
  | [] => True
  | first :: rest =>
      ∃ session,
        backend.store.read (serve 0).instant
            (SessionService.session.storageKey JwtSession.token.text
              key) =
          some session ∧
          CanGrant serve session first ∧
          ∀ second ∈ rest,
            CanGrant (servingsFrom serve 2) session second ∧
              ∀ seconds,
                secondsLeft session (serve 1).instant = some seconds →
                  (serve 2).instant <
                    (serve 1).instant + seconds.toNat * 1000

/-! ## One call with faults -/

/-- A call with the instants at which its commands are served. -/
def servedCall (serve : Nat → Serving) (mutator : Mutator) : SessionCall :=
  ⟨mutator, (serve 0).instant, (serve 1).instant⟩

/-- Both commands of a call are served, and it returns. -/
structure Carries
    (serve : Nat → Serving)
    (key : String)
    (backend : Backend String JsonObject)
    (mutator : Mutator)
    (session : JsonObject)
    (value : Properties)
    (seconds : Int) : Prop where
  readServed : (serve 0).fault = .served
  writeServed : (serve 1).fault = .served
  returns :
    (servedCall serve mutator).Returns key .token backend session value
      seconds

/-- The backend after a call that returns. -/
def written
    (serve : Nat → Serving)
    (key : String)
    (backend : Backend String JsonObject)
    (mutator : Mutator)
    (value : Properties)
    (seconds : Int) : Backend String JsonObject :=
  { backend with
    store :=
      backend.store.write (serve 1).instant
        (SessionService.session.storageKey JwtSession.token.text key)
        (seconds.toNat * 1000)
        ((servedCall serve mutator).stored value seconds) }

variable
  {serve : Nat → Serving}
  {key : String}
  {backend : Backend String JsonObject}
  {mutator : Mutator}
  {Result : Type}
  {rest : Properties → SessionProgram Result}

/-- A call that returns goes on with the rest. -/
theorem Carries.runWith
    {session : JsonObject}
    {value : Properties}
    {seconds : Int}
    (carries : Carries serve key backend mutator session value seconds) :
    (mutator.program key .token >>= rest).runWith serve backend =
      (rest value).runWith (servingsFrom serve 2)
        (written serve key backend mutator value seconds) := by
  obtain ⟨readServed, writeServed, typed, read, changed, left, positive⟩ :=
    carries
  simp only [servedCall] at typed read changed left
  rw [Mutator.program_eq, if_pos typed, rewriteSession_eq]
  simp [StoreProgram.runWith, readServed, writeServed, read,
    changed, left, SessionService.addSession_eq, Fault.answer,
    Fault.perform, Backend.setex_of_pos _ _ _ positive, written,
    servedCall, SessionCall.stored]

/-- What a call that returns has read and written is determined. -/
theorem Carries.unique
    {first second : JsonObject}
    {firstValue secondValue : Properties}
    {firstSeconds secondSeconds : Int}
    (carries :
      Carries serve key backend mutator first firstValue firstSeconds)
    (others :
      Carries serve key backend mutator second secondValue
        secondSeconds) :
    first = second ∧ firstValue = secondValue ∧
      firstSeconds = secondSeconds := by
  obtain ⟨-, -, -, read, changed, left, -⟩ := carries
  obtain ⟨-, -, -, otherRead, otherChanged, otherLeft, -⟩ := others
  obtain rfl := Option.some.inj (read.symm.trans otherRead)
  exact
    ⟨rfl, Except.ok.inj (changed.symm.trans otherChanged),
      Option.some.inj (left.symm.trans otherLeft)⟩

/-- Any other call fails. -/
theorem fails_of_not_carries
    (typed : mutator.typed = true)
    (unable :
      ¬ ∃ session value seconds,
        Carries serve key backend mutator session value seconds) :
    ∃ after failure,
      (mutator.program key .token >>= rest).runWith serve backend =
        (after, .error failure) := by
  rw [Mutator.program_eq, if_pos typed, rewriteSession_eq]
  by_cases readServed : (serve 0).fault = .served
  case neg =>
    cases fault : (serve 0).fault with
    | served => exact absurd fault readServed
    | refused => simp [StoreProgram.runWith, fault, Fault.answer]
    | lost => simp [StoreProgram.runWith, fault, Fault.answer]
  cases read :
      backend.store.read (serve 0).instant
        (SessionService.session.storageKey JwtSession.token.text key) with
  | none => simp [StoreProgram.runWith, readServed, Fault.answer, read]
  | some session =>
      cases changed : mutator.change session with
      | error failure =>
          simp [StoreProgram.runWith, readServed, Fault.answer, read,
            changed]
      | ok value =>
          cases fault : (serve 1).fault with
          | refused =>
              simp [StoreProgram.runWith, readServed, Fault.answer, read,
                changed, SessionService.addSession_eq, fault]
          | lost =>
              simp [StoreProgram.runWith, readServed, Fault.answer, read,
                changed, SessionService.addSession_eq, fault]
          | served =>
              cases left :
                  AuthSessionService.secondsLeft session
                    (serve 1).instant with
              | none =>
                  simp [StoreProgram.runWith, readServed, Fault.answer,
                    read, changed, SessionService.addSession_eq, fault,
                    left, Backend.setex]
              | some seconds =>
                  by_cases positive : 0 < seconds
                  · exact
                      (unable
                        ⟨session, value, seconds, readServed, fault, typed,
                          read, changed, left, positive⟩).elim
                  · simp [StoreProgram.runWith, readServed, Fault.answer,
                      read, changed, SessionService.addSession_eq, fault,
                      left, Backend.setex, positive]

/-! ## All calls of a grant -/

/-- Make some calls one after the other, and go on. -/
def grantAll
    (key : String)
    (next : SessionProgram Result) : List Mutator → SessionProgram Result
  | [] => next
  | mutator :: later => do
      let _ ← mutator.program key .token
      grantAll key next later

/-- The calls of two lists. -/
theorem grantAll_append
    (next : SessionProgram Result)
    (first second : List Mutator) :
    grantAll key next (first ++ second) =
      grantAll key (grantAll key next second) first := by
  induction first with
  | nil => rfl
  | cons mutator later inductionHypothesis =>
      rw [List.cons_append, grantAll, inductionHypothesis]
      rfl

/-- The part for the session makes one call at most. -/
theorem grantPermissions_eq
    (metadata : GuardMetadata)
    (next : SessionProgram Result) :
    (do
        let _ ← grantPermissions metadata key
        next) =
      grantAll key next metadata.sessionGrants := by
  unfold grantPermissions GuardMetadata.sessionGrants
  split
  next => rfl
  next =>
    rw [StoreProgram.bind_bind]
    rfl

/-- The part for the flow session makes one call at most. -/
theorem grantFlowPermissions_eq
    (metadata : GuardMetadata)
    (next : SessionProgram Result) :
    (do
        let _ ← grantFlowPermissions metadata key
        next) =
      grantAll key next metadata.flowGrants := by
  unfold grantFlowPermissions GuardMetadata.flowGrants
  cases metadata.flowPermission with
  | none => rfl
  | some flowMetadata =>
      simp only
      split
      next => rfl
      next =>
        rw [StoreProgram.bind_bind]
        rfl

/-- A grant makes its calls. -/
theorem grant_eq
    (metadata : GuardMetadata)
    (next : SessionProgram Result) :
    (do
        let _ ← grantPermissions metadata key
        let _ ← grantFlowPermissions metadata key
        next) =
      grantAll key next metadata.grants := by
  rw [grantPermissions_eq, grantFlowPermissions_eq, ← grantAll_append]
  rfl

/-- Some calls are made one after the other, and all of them return. -/
inductive CarriesAll
    (key : String) :
    (Nat → Serving) → Backend String JsonObject → List Mutator →
      Backend String JsonObject → Prop
  | none
      (serve : Nat → Serving)
      (backend : Backend String JsonObject) :
      CarriesAll key serve backend [] backend
  | some
      {serve : Nat → Serving}
      {backend after : Backend String JsonObject}
      {mutator : Mutator}
      {later : List Mutator}
      {session : JsonObject}
      {value : Properties}
      {seconds : Int}
      (carries : Carries serve key backend mutator session value seconds)
      (carriesLater :
        CarriesAll key (servingsFrom serve 2)
          (written serve key backend mutator value seconds) later after) :
      CarriesAll key serve backend (mutator :: later) after

/-- Either all calls return, or one of them fails. -/
theorem grantAll_cases
    {mutators : List Mutator}
    (typed : ∀ mutator ∈ mutators, mutator.typed = true)
    (result : Result)
    (serve : Nat → Serving)
    (backend : Backend String JsonObject) :
    (∃ after,
        CarriesAll key serve backend mutators after ∧
          (grantAll key (.done (.ok result)) mutators).runWith serve
              backend =
            (after, .ok result)) ∨
      (¬ ∃ after, CarriesAll key serve backend mutators after) ∧
        ∃ after failure,
          (grantAll key (.done (.ok result)) mutators).runWith serve
              backend =
            (after, .error failure) := by
  induction mutators generalizing serve backend with
  | nil => exact .inl ⟨backend, .none serve backend, rfl⟩
  | cons mutator later inductionHypothesis =>
      obtain ⟨typedFirst, typedLater⟩ := List.forall_mem_cons.mp typed
      by_cases able :
        ∃ session value seconds,
          Carries serve key backend mutator session value seconds
      case neg =>
        refine .inr ⟨?_, fails_of_not_carries typedFirst able⟩
        rintro ⟨after, all⟩
        cases all with
        | some carries carriesLater => exact able ⟨_, _, _, carries⟩
      obtain ⟨session, value, seconds, carries⟩ := able
      rw [grantAll, carries.runWith]
      rcases inductionHypothesis typedLater _ _ with
        ⟨after, carriesLater, ran⟩ | ⟨unable, failed⟩
      · exact .inl ⟨after, .some carries carriesLater, ran⟩
      · refine .inr ⟨?_, failed⟩
        rintro ⟨after, all⟩
        cases all with
        | some otherCarries carriesLater =>
            obtain ⟨rfl, rfl, rfl⟩ := carries.unique otherCarries
            exact unable ⟨after, carriesLater⟩

/-! ## When the calls return -/

/-- The calls of a grant: one at most for the session, then one for a flow. -/
inductive GrantShape : List Mutator → Prop
  | none : GrantShape []
  | session
      (permissions : List UserPermission) :
      GrantShape [.addPermissions permissions]
  | flow
      (type : FlowType)
      (permissions : List FlowPermission) :
      GrantShape [.addFlowPermissions type permissions]
  | both
      (permissions : List UserPermission)
      (type : FlowType)
      (flowPermissions : List FlowPermission) :
      GrantShape
        [.addPermissions permissions,
          .addFlowPermissions type flowPermissions]

/-- The calls have this shape. -/
theorem grants_shape (metadata : GuardMetadata) :
    GrantShape metadata.grants := by
  unfold GuardMetadata.grants GuardMetadata.sessionGrants
    GuardMetadata.flowGrants
  cases metadata.provided.isEmpty with
  | true =>
      cases metadata.flowPermission with
      | none => exact .none
      | some flowMetadata =>
          cases empty : flowMetadata.provided.isEmpty with
          | true => simpa [empty] using GrantShape.none
          | false => simpa [empty] using GrantShape.flow _ _
  | false =>
      cases metadata.flowPermission with
      | none => exact .session _
      | some flowMetadata =>
          cases empty : flowMetadata.provided.isEmpty with
          | true => simpa [empty] using GrantShape.session _
          | false => simpa [empty] using GrantShape.both _ _ _

/-- Such calls are typed. -/
theorem GrantShape.typed
    {mutators : List Mutator}
    (shape : GrantShape mutators) :
    ∀ mutator ∈ mutators, mutator.typed = true := by
  cases shape <;> simp [Mutator.typed]

/-- A call returns where it can be made on the session that is there. -/
theorem carries_iff
    (typed : mutator.typed = true)
    {session : JsonObject} :
    (∃ value seconds,
        Carries serve key backend mutator session value seconds) ↔
      backend.store.read (serve 0).instant
            (SessionService.session.storageKey JwtSession.token.text
              key) =
          some session ∧
        CanGrant serve session mutator := by
  constructor
  · rintro ⟨value, seconds, readServed, writeServed, -, read, changed, left,
      positive⟩
    exact
      ⟨read, readServed, writeServed,
        Mutator.change_isOk.mp ⟨value, changed⟩, seconds, left, positive⟩
  · rintro ⟨read, readServed, writeServed, accepts, seconds, left,
      positive⟩
    obtain ⟨value, changed⟩ := Mutator.change_isOk.mpr accepts
    exact
      ⟨value, seconds, readServed, writeServed, typed, read, changed, left,
        positive⟩

/-- A flow grant looks at the flow sessions and at `exp` only. -/
theorem canGrant_congr
    {first second : JsonObject}
    {type : FlowType}
    {permissions : List FlowPermission}
    (sameFlows : first "flowSessions" = second "flowSessions")
    (sameExp : first "exp" = second "exp") :
    CanGrant serve first (.addFlowPermissions type permissions) ↔
      CanGrant serve second (.addFlowPermissions type permissions) := by
  have sameAccepts :
      (Mutator.addFlowPermissions type permissions).Accepts first ↔
        (Mutator.addFlowPermissions type permissions).Accepts second := by
    simp only [Mutator.Accepts, flowSession, sameFlows]
  have sameLeft :
      ∀ now, secondsLeft first now = secondsLeft second now := by
    intro now
    simp only [secondsLeft, sameExp]
  constructor
  · rintro ⟨readServed, writeServed, accepts, left⟩
    exact
      ⟨readServed, writeServed, sameAccepts.mp accepts, sameLeft _ ▸ left⟩
  · rintro ⟨readServed, writeServed, accepts, left⟩
    exact
      ⟨readServed, writeServed, sameAccepts.mpr accepts,
        sameLeft _ ▸ left⟩

/-- The call for the session leaves the flow sessions and `exp`. -/
theorem Carries.stored_same
    {permissions : List UserPermission}
    {session : JsonObject}
    {value : Properties}
    {seconds : Int}
    (carries :
      Carries serve key backend (.addPermissions permissions) session value
        seconds) :
    (servedCall serve (.addPermissions permissions)).stored value seconds
          "flowSessions" =
        session "flowSessions" ∧
      (servedCall serve (.addPermissions permissions)).stored value seconds
          "exp" =
        session "exp" := by
  constructor
  · apply AuthSessionService.stored_same _ (by decide) (by decide)
    obtain ⟨updated, -, rfl⟩ := map_ok carries.returns.changed
    exact Properties.set_other (by decide) _ _
  · obtain ⟨exp, own⟩ := carries.returns.own_exp
    rw [own]
    exact carries.returns.stored_own own (by decide) (by decide)

/-- The first call returns, and then the others do. -/
theorem carriesAll_cons
    {later : List Mutator} :
    (∃ after, CarriesAll key serve backend (mutator :: later) after) ↔
      ∃ session value seconds,
        Carries serve key backend mutator session value seconds ∧
          ∃ after,
            CarriesAll key (servingsFrom serve 2)
              (written serve key backend mutator value seconds) later
              after := by
  constructor
  · rintro ⟨after, all⟩
    cases all with
    | some carries carriesLater =>
        exact ⟨_, _, _, carries, after, carriesLater⟩
  · rintro ⟨session, value, seconds, carries, after, carriesLater⟩
    exact ⟨after, .some carries carriesLater⟩

/-- A single call returns where it can be made. -/
theorem carriesAll_singleton
    (typed : mutator.typed = true) :
    (∃ after, CarriesAll key serve backend [mutator] after) ↔
      ∃ session,
        backend.store.read (serve 0).instant
              (SessionService.session.storageKey JwtSession.token.text
                key) =
            some session ∧
          CanGrant serve session mutator := by
  rw [carriesAll_cons]
  constructor
  · rintro ⟨session, value, seconds, carries, -⟩
    exact ⟨session, (carries_iff typed).mp ⟨value, seconds, carries⟩⟩
  · rintro ⟨session, able⟩
    obtain ⟨value, seconds, carries⟩ := (carries_iff typed).mpr able
    exact ⟨session, value, seconds, carries, _, .none _ _⟩

/-- What the call for the session has written is read until it expires. -/
theorem read_written
    {permissions : List UserPermission}
    {value : Properties}
    {seconds : Int}
    {now : Nat} :
    (written serve key backend (.addPermissions permissions) value
            seconds).store.read now
        (SessionService.session.storageKey JwtSession.token.text key) =
      if now < (serve 1).instant + seconds.toNat * 1000 then
        some
          ((servedCall serve (.addPermissions permissions)).stored value
            seconds)
      else
        none :=
  ExpiringStore.read_write_same _ _ _ _ _ _

/-- Whoever reads it finds that. -/
theorem stored_of_read
    {permissions : List UserPermission}
    {session : JsonObject}
    {value : Properties}
    {seconds : Int}
    {now : Nat}
    (read :
      (written serve key backend (.addPermissions permissions) value
              seconds).store.read now
          (SessionService.session.storageKey JwtSession.token.text key) =
        some session) :
    session =
      (servedCall serve (.addPermissions permissions)).stored value
        seconds := by
  rw [read_written] at read
  split at read
  next => exact (Option.some.inj read).symm
  next => cases read

/-- All calls of a grant return exactly where they can be made. -/
theorem GrantShape.carriesAll_iff
    {mutators : List Mutator}
    (shape : GrantShape mutators) :
    (∃ after, CarriesAll key serve backend mutators after) ↔
      Grantable mutators key serve backend := by
  cases shape with
  | none => exact ⟨fun _ => trivial, fun _ => ⟨backend, .none _ _⟩⟩
  | session permissions =>
      rw [carriesAll_singleton rfl]
      simp [Grantable]
  | flow type permissions =>
      rw [carriesAll_singleton rfl]
      simp [Grantable]
  | both permissions type flowPermissions =>
      rw [carriesAll_cons]
      constructor
      · rintro ⟨session, value, seconds, carries, later⟩
        obtain ⟨sameFlows, sameExp⟩ := carries.stored_same
        obtain ⟨read, able⟩ := (carries_iff rfl).mp ⟨_, _, carries⟩
        obtain ⟨second, secondRead, secondAble⟩ :=
          (carriesAll_singleton rfl).mp later
        rw [read_written] at secondRead
        split at secondRead
        next live =>
          obtain rfl := Option.some.inj secondRead
          refine ⟨session, read, able, ?_⟩
          intro mutator isSecond
          obtain rfl := List.mem_singleton.mp isSecond
          refine ⟨(canGrant_congr sameFlows sameExp).mp secondAble, ?_⟩
          intro otherSeconds left
          obtain rfl :=
            Option.some.inj (carries.returns.secondsLeft.symm.trans left)
          simpa using live
        next => cases secondRead
      · rintro ⟨session, read, able, others⟩
        obtain ⟨value, seconds, carries⟩ :=
          (carries_iff rfl).mpr ⟨read, able⟩
        obtain ⟨sameFlows, sameExp⟩ := carries.stored_same
        obtain ⟨secondAble, live⟩ := others _ List.mem_cons_self
        refine ⟨session, value, seconds, carries, ?_⟩
        refine
          (carriesAll_singleton rfl).mpr
            ⟨_, ?_, (canGrant_congr sameFlows sameExp).mpr secondAble⟩
        rw [read_written, if_pos]
        simpa using live seconds carries.returns.secondsLeft

/-! ## What is stored when they return -/

/-- What is pushed, or was there before, is included. -/
theorem includes_pushMissing
    {elements : List Json}
    {texts : List String}
    {text : String}
    (either : includes elements text = true ∨ text ∈ texts) :
    includes (pushMissing elements texts) text = true := by
  induction texts generalizing elements with
  | nil => exact either.resolve_right List.not_mem_nil
  | cons head rest inductionHypothesis =>
      unfold pushMissing
      split
      next found =>
        apply inductionHypothesis
        rcases either with before | member
        · exact .inl before
        · rcases List.mem_cons.mp member with rfl | later
          · exact .inl found
          · exact .inr later
      next =>
        apply inductionHypothesis
        rcases either with before | member
        · refine .inl (includes_iff.mpr ?_)
          exact List.mem_append_left _ (includes_iff.mp before)
        · rcases List.mem_cons.mp member with rfl | later
          · refine .inl (includes_iff.mpr ?_)
            exact List.mem_append_right _ (List.mem_singleton_self _)
          · exact .inr later

/-- What has been pushed is held. -/
theorem held_of_pushAll
    {target updated : Option Json}
    {texts : List String}
    (pushed : pushAll target texts = .ok updated)
    {text : String}
    (member : text ∈ texts) :
    held updated text = .ok true := by
  have accepted : Extensible target texts :=
    pushAll_isOk.mp (by rw [pushed]; rfl)
  cases texts with
  | nil => cases member
  | cons head rest =>
      rcases accepted with empty | ⟨listed, rfl⟩ | ⟨other, rfl, all⟩
      · cases empty
      · obtain rfl := Except.ok.inj pushed
        exact congrArg Except.ok (includes_pushMissing (.inr member))
      · simp only [pushAll, if_pos all] at pushed
        obtain rfl := Except.ok.inj pushed
        exact congrArg Except.ok (List.all_eq_true.mp all _ member)

/-- The call for the session stores what it adds. -/
theorem granted_session
    {permissions : List UserPermission}
    {session : JsonObject}
    {value : Properties}
    {now : Nat}
    {seconds : Option Int}
    (changed :
      (Mutator.addPermissions permissions).change session = .ok value) :
    Granted
      ((SessionService.stamp now seconds).spread value).stringify
      (.addPermissions permissions) := by
  obtain ⟨updated, pushed, rfl⟩ := map_ok changed
  intro permission member
  rw [SessionService.stringify_stamp_spread (by decide) (by decide)]
  simpa [Properties.stringify] using
    held_of_pushAll pushed (List.mem_map_of_mem member)

/-- The call for the flow session stores what it adds. -/
theorem granted_flow
    {type : FlowType}
    {permissions : List FlowPermission}
    {session : JsonObject}
    {value : Properties}
    {now : Nat}
    {seconds : Option Int}
    (changed :
      (Mutator.addFlowPermissions type permissions).change session =
        .ok value) :
    Granted
      ((SessionService.stamp now seconds).spread value).stringify
      (.addFlowPermissions type permissions) := by
  obtain ⟨flow, updated, -, -, pushed, rfl⟩ :=
    withFlowPermissions_ok changed
  refine ⟨_, flowSession_stored, ?_⟩
  intro permission member
  have isHeld := held_of_pushAll pushed (List.mem_map_of_mem member)
  cases updated with
  | none => cases isHeld
  | some granted =>
      simpa [Json.property, Properties.stringify] using isHeld

/-- The call for the flow session leaves the permissions of the session. -/
theorem granted_kept
    {permissions : List UserPermission}
    {type : FlowType}
    {flowPermissions : List FlowPermission}
    {session : JsonObject}
    {value : Properties}
    {now : Nat}
    {seconds : Option Int}
    (changed :
      (Mutator.addFlowPermissions type flowPermissions).change session =
        .ok value)
    (granted : Granted session (.addPermissions permissions)) :
    Granted
      ((SessionService.stamp now seconds).spread value).stringify
      (.addPermissions permissions) := by
  obtain ⟨flow, updated, -, -, -, rfl⟩ := withFlowPermissions_ok changed
  intro permission member
  rw [AuthSessionService.stored_same (setFlowSession_other (by decide))
    (by decide) (by decide)]
  exact granted permission member

/-- What a call has written is stored. -/
theorem lookup_written
    {value : Properties}
    {seconds : Int} :
    (written serve key backend mutator value seconds).store.lookup
        (SessionService.session.storageKey JwtSession.token.text key) =
      some
        ⟨(servedCall serve mutator).stored value seconds,
          (serve 1).instant, seconds.toNat * 1000⟩ :=
  ExpiringStore.lookup_write_same _ _ _ _ _

/-- When all calls have returned, every permission is stored. -/
theorem GrantShape.stores
    {mutators : List Mutator}
    {after : Backend String JsonObject}
    (shape : GrantShape mutators)
    (all : CarriesAll key serve backend mutators after) :
    ∀ mutator ∈ mutators,
      ∃ entry,
        after.store.lookup
            (SessionService.session.storageKey JwtSession.token.text
              key) =
          some entry ∧
          Granted entry.value mutator := by
  cases shape with
  | none => simp
  | session permissions =>
      cases all with
      | some carries later =>
          cases later with
          | none =>
              intro mutator member
              obtain rfl := List.mem_singleton.mp member
              exact
                ⟨_, lookup_written,
                  granted_session carries.returns.changed⟩
  | flow type permissions =>
      cases all with
      | some carries later =>
          cases later with
          | none =>
              intro mutator member
              obtain rfl := List.mem_singleton.mp member
              exact
                ⟨_, lookup_written, granted_flow carries.returns.changed⟩
  | both permissions type flowPermissions =>
      cases all with
      | some carries later =>
          cases later with
          | some secondCarries later =>
              cases later with
              | none =>
                  have found := stored_of_read secondCarries.returns.read
                  intro mutator member
                  refine ⟨_, lookup_written, ?_⟩
                  rcases List.mem_cons.mp member with rfl | isFlow
                  · apply granted_kept secondCarries.returns.changed
                    rw [found]
                    exact granted_session carries.returns.changed
                  · obtain rfl := List.mem_singleton.mp isFlow
                    exact granted_flow secondCarries.returns.changed

/-! ## The interceptor -/

/-- What is granted where a handler has answered with a success. -/
theorem runWith_granting
    (metadata : GuardMetadata)
    (res : ResponseDTO)
    (serve : Nat → Serving)
    (backend : Backend String JsonObject) :
    (∃ after,
        CarriesAll key serve backend metadata.grants after ∧
          ((grantAll key (.done (.ok (some res))) metadata.grants).tryCatch
              (fun _ => .done (.ok none))).runWith serve backend =
            (after, .ok (some res))) ∨
      (¬ ∃ after, CarriesAll key serve backend metadata.grants after) ∧
        ∃ after,
          ((grantAll key (.done (.ok (some res))) metadata.grants).tryCatch
              (fun _ => .done (.ok none))).runWith serve backend =
            (after, .ok none) := by
  have caught :=
    StoreProgram.runWith_tryCatch serve
      (grantAll key (.done (.ok (some res))) metadata.grants)
      (fun _ => .ok none) backend
  rcases grantAll_cases (grants_shape metadata).typed (some res) serve
      backend with ⟨after, all, ran⟩ | ⟨unable, after, failure, ran⟩
  · refine .inl ⟨after, all, ?_⟩
    rw [ran] at caught
    exact caught
  · refine .inr ⟨unable, after, ?_⟩
    rw [ran] at caught
    exact caught

/-- After a success, the interceptor makes the calls of its grant. -/
theorem intercept_success
    {metadata : GuardMetadata}
    {session : JsonObject}
    {res : ResponseDTO}
    (checked : check metadata session = .ok ())
    (success : res.systemCode = .success) :
    intercept metadata session (.done (.ok res)) =
      (grantAll (templateText? (session "key")) (.done (.ok (some res)))
          metadata.grants).tryCatch
        (fun _ => .done (.ok none)) := by
  rw [← grant_eq]
  simp only [intercept, checked, StoreProgram.ok_bind, success, ↓reduceIte]
  rfl

/--
The interceptor grants all or nothing, and answers, exactly where it stops
before the grant, has nothing to grant, or can make every call of the grant.
-/
theorem allOrNothing_iff
    (metadata : GuardMetadata)
    (session : JsonObject)
    (handled : Except Failure ResponseDTO)
    (serve : Nat → Serving)
    (backend : Backend String JsonObject) :
    AllOrNothing metadata (templateText? (session "key")) handled backend
        ((intercept metadata session (.done handled)).runWith serve
          backend) ↔
      (check metadata session = .ok () →
        handled = .ok ⟨.success⟩ →
          Grantable metadata.grants (templateText? (session "key")) serve
            backend) := by
  cases checked : check metadata session with
  | error failure =>
      refine iff_of_true ?_ (by simp)
      simp [intercept, checked, StoreProgram.runWith, AllOrNothing]
  | ok done =>
      cases handled with
      | error failure =>
          refine iff_of_true ?_ (by simp)
          simp [intercept, checked, StoreProgram.runWith, AllOrNothing]
      | ok res =>
          obtain ⟨systemCode⟩ := res
          by_cases success : systemCode = .success
          · subst success
            rw [intercept_success checked rfl,
              ← (grants_shape metadata).carriesAll_iff]
            rcases runWith_granting metadata ⟨.success⟩ serve backend with
              ⟨after, all, ran⟩ | ⟨unable, after, ran⟩
            · rw [ran]
              refine iff_of_true ⟨rfl, fun _ => ?_⟩ (fun _ _ => ⟨after, all⟩)
              exact (grants_shape metadata).stores all
            · rw [ran]
              exact iff_of_false id (fun able => unable (able rfl rfl))
          · refine iff_of_true ?_ (by simp [success])
            simp [intercept, checked, StoreProgram.runWith, AllOrNothing,
              success]

/-- A handler that provides a permission of the session. -/
def providing (permission : UserPermission) : GuardMetadata where
  permission :=
    some
      { providePermissions := some [permission]
        requiredPermissions := none }
  flowPermission := none

/-- Where the session is gone, a successful answer is never given. -/
theorem success_unanswered :
    ¬ AllOrNothing (providing .otpVerified) (templateText? none)
        (.ok ⟨.success⟩) ⟨∅, []⟩
        ((intercept (providing .otpVerified) (fun _ => none)
            (.done (.ok ⟨.success⟩))).runWith
          (fun _ => ⟨0, .served⟩) ⟨∅, []⟩) := by
  intro all
  exact all

end PermissionInterceptor

end NestBackend
