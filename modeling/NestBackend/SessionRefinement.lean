import NestBackend.FlowSessions
import NestBackend.SessionLifetime

namespace NestBackend

open JavaScript

/-!
# A stored session behaves as a map of flow sessions

Whatever is called on a session, one call after the other, what is stored
stands for the map that the calls that returned make of the one at the start.
-/

namespace AuthSessionService

namespace SessionCall

section Sequence

variable
  {key : String}
  {sessionType : JwtSession}
  {backend : Backend String JsonObject}

/-- The calls among these that return, in order. -/
def returned
    (key : String)
    (sessionType : JwtSession) :
    Backend String JsonObject → List SessionCall → List Mutator
  | _, [] => []
  | backend, call :: rest =>
      match call.perform key sessionType backend with
      | (next, .ok _) =>
          call.mutator :: returned key sessionType next rest
      | (next, .error _) => returned key sessionType next rest

/-- What the calls that return do to the flow sessions. -/
def flowEdits
    (returned : List Mutator) : List (String × RecordEdit String Json) :=
  returned.filterMap Mutator.flowEdit?

/--
What is stored after some calls have returned.  Under a flow type it is the
record that the edits of this type make since the last that clears it, from the
one at the start if none does.
-/
structure Represents
    (session : JsonObject)
    (returned : List Mutator)
    (stored : JsonObject) : Prop where
  flows :
    ∀ type : FlowType,
      flowsOf stored type.text =
        RecordEdit.performAll
          (RecordEdit.sinceClear
            (RecordMap.editsOf type.text (flowEdits returned)))
          (if
              (RecordMap.editsOf type.text (flowEdits returned)).any
                RecordEdit.clears then
            none
          else
            flowsOf session type.text)
  permissions :
    permissionsOf stored =
      returned.foldl (fun held mutator => mutator.permit held)
        (permissionsOf session)
  others :
    ∀ name,
      name ≠ "permissions" → name ≠ "flowSessions" → name ≠ "iat" →
        stored name = session name
  iat : (session "iat").isSome → stored "iat" = session "iat"

/-- What `getFlowSession` answers for the record under a flow type. -/
def Answers
    (outcome : Except Failure Json)
    (record : Option (Record String Json)) : Prop :=
  match record with
  | some fields => ∃ flow, outcome = .ok flow ∧ flowFields flow = fields
  | none =>
      outcome =
        .error (.badRequestException SystemCode.sessionNotAvailable.text)

/-- What a call changes in the session is its own part. -/
structure OwnPart
    (mutator : Mutator)
    (session stored : JsonObject) : Prop where
  flows :
    ∀ type : FlowType,
      mutator.flowEdit?.map Prod.fst ≠ some type.text →
        flowSession stored type.text = flowSession session type.text
  permissions :
    (∀ permissions, mutator ≠ .addPermissions permissions) →
      stored "permissions" = session "permissions"
  others :
    ∀ name,
      name ≠ "permissions" → name ≠ "flowSessions" → name ≠ "iat" →
        stored name = session name
  iat : (session "iat").isSome → stored "iat" = session "iat"

/--
What one call does on a stored session: when it returns, and what it leaves,
whether it does or not.
-/
structure OneCall
    (key : String)
    (sessionType : JwtSession)
    (backend : Backend String JsonObject)
    (entry : Entry JsonObject)
    (call : SessionCall) : Prop where
  returns :
    (∃ value, (call.perform key sessionType backend).2 = .ok value) ↔
      call.mutator.typed = true ∧ entry.LiveAt call.readAt ∧
        call.mutator.Accepts entry.value ∧
        ∃ seconds,
          secondsLeft entry.value call.writtenAt = some seconds ∧
            0 < seconds
  ownPart :
    ∀ value,
      (call.perform key sessionType backend).2 = .ok value →
        ∃ next,
          (call.perform key sessionType backend).1.store.lookup
                (SessionService.session.storageKey sessionType.text key) =
              some next ∧
            OwnPart call.mutator entry.value next.value
  otherEntries :
    ∀ other,
      other ≠ SessionService.session.storageKey sessionType.text key →
        (call.perform key sessionType backend).1.store.lookup other =
          backend.store.lookup other
  thrown :
    ∀ failure,
      (call.perform key sessionType backend).2 = .error failure →
        (call.perform key sessionType backend).1 = backend

variable
  {call : SessionCall}
  {session : JsonObject}
  {value : Properties}
  {seconds : Int}

/-- A call that returns has found an `exp`. -/
theorem Returns.exp_isSome
    (returns :
      call.Returns key sessionType backend session value seconds) :
    ∃ exp, session "exp" = some exp := by
  apply Option.ne_none_iff_exists'.mp
  intro absent
  have left := returns.secondsLeft
  simp [AuthSessionService.secondsLeft, absent, toNumber?, Numeric.minus,
    Numeric.toInt?] at left

/-- The properties that are no part of any call. -/
theorem Returns.stored_others
    (returns :
      call.Returns key sessionType backend session value seconds)
    {name : String}
    (notPermissions : name ≠ "permissions")
    (notFlows : name ≠ "flowSessions")
    (notIat : name ≠ "iat") :
    call.stored value seconds name = session name := by
  by_cases isExp : name = "exp"
  · subst isExp
    obtain ⟨exp, own⟩ := returns.exp_isSome
    rw [own]
    exact returns.stored_own own (by decide) (by decide)
  · exact Mutator.stored_other returns.changed ⟨isExp, notIat⟩
      ⟨notPermissions, notFlows⟩

/-- An `iat` that is there stays. -/
theorem Returns.stored_iat
    (returns :
      call.Returns key sessionType backend session value seconds)
    (present : (session "iat").isSome) :
    call.stored value seconds "iat" = session "iat" := by
  obtain ⟨iat, own⟩ := Option.isSome_iff_exists.mp present
  rw [own]
  exact returns.stored_own own (by decide) (by decide)

/-- A call that returns changes its own part. -/
theorem Returns.ownPart
    (returns :
      call.Returns key sessionType backend session value seconds) :
    OwnPart call.mutator session (call.stored value seconds) where
  flows _ other := call.mutator.flowSession_changed returns.changed other
  permissions notGrant := by
    rcases call.mutator.change_permissions returns.changed with
      ⟨permissions, grants⟩ | ⟨-, kept⟩
    · exact absurd grants (notGrant permissions)
    · exact stored_same kept (by decide) (by decide)
  others _ := returns.stored_others
  iat := returns.stored_iat

/-- Under a flow type is what all its edits make of the start. -/
theorem Represents.edits
    {returned : List Mutator}
    {stored : JsonObject}
    (represents : Represents session returned stored)
    (type : FlowType) :
    flowsOf stored type.text =
      RecordEdit.performAll
        (RecordMap.editsOf type.text (flowEdits returned))
        (flowsOf session type.text) := by
  rw [represents.flows, ← RecordEdit.performAll_sinceClear]

/-- Before the first call a session represents itself. -/
theorem Represents.initially : Represents session [] session where
  flows _ := rfl
  permissions := rfl
  others _ _ _ _ := rfl
  iat _ := rfl

/-- The edits of a call and of those that follow it. -/
theorem flowEdits_cons
    (mutator : Mutator)
    (rest : List Mutator) :
    flowEdits (mutator :: rest) =
      mutator.flowEdit?.toList ++ flowEdits rest := by
  unfold flowEdits
  cases edit : mutator.flowEdit? with
  | none => simp [edit]
  | some change => simp [List.filterMap_cons_some edit]

/-- The entry after a call that returns. -/
theorem Returns.lookup
    (returns :
      call.Returns key sessionType backend session value seconds) :
    (call.perform key sessionType backend).1.store.lookup
        (SessionService.session.storageKey sessionType.text key) =
      some
        ⟨call.stored value seconds, call.writtenAt,
          seconds.toNat * 1000⟩ := by
  rw [returns.perform]
  exact ExpiringStore.lookup_write_same _ _ _ _ _

/-- A call that returns comes before the calls that return after it. -/
theorem Represents.cons
    {rest : List Mutator}
    {stored : JsonObject}
    (returns :
      call.Returns key sessionType backend session value seconds)
    (represents : Represents (call.stored value seconds) rest stored) :
    Represents session (call.mutator :: rest) stored where
  flows type := by
    rw [represents.edits, ← RecordEdit.performAll_sinceClear,
      flowEdits_cons, RecordMap.editsOf_append]
    have first :
        flowsOf (call.stored value seconds) type.text =
          RecordEdit.performAll
            (RecordMap.editsOf type.text call.mutator.flowEdit?.toList)
            (flowsOf session type.text) := by
      rw [← RecordMap.foldl_edit]
      exact call.mutator.flowsOf_changed returns.changed type
    rw [first]
    exact (List.foldl_append ..).symm
  permissions := by
    rw [represents.permissions, List.foldl_cons]
    congr 1
    exact call.mutator.permissionsOf_changed returns.changed
  others name notPermissions notFlows notIat :=
    (represents.others name notPermissions notFlows notIat).trans
      (returns.stored_others notPermissions notFlows notIat)
  iat present := by
    have kept := returns.stored_iat present
    rw [← kept] at present
    exact (represents.iat present).trans kept

/-- Whatever is called, what is stored represents the calls that returned. -/
theorem represents_performAll
    (calls : List SessionCall)
    {entry : Entry JsonObject}
    (lookup :
      backend.store.lookup
          (SessionService.session.storageKey sessionType.text key) =
        some entry) :
    ∃ after,
      (performAll key sessionType backend calls).store.lookup
          (SessionService.session.storageKey sessionType.text key) =
        some after ∧
        Represents entry.value (returned key sessionType backend calls)
          after.value := by
  induction calls generalizing backend entry with
  | nil => exact ⟨entry, lookup, .initially⟩
  | cons call rest inductionHypothesis =>
      have both :
          performAll key sessionType backend (call :: rest) =
            performAll key sessionType
              (call.perform key sessionType backend).1 rest :=
        rfl
      rw [both, returned]
      rcases call.perform_cases key sessionType backend with
        ⟨session, value, seconds, returns⟩ | ⟨failure, threw⟩
      · obtain ⟨found, foundLookup, -, rfl⟩ :=
          ExpiringStore.read_eq_some.mp returns.read
        obtain rfl := Option.some.inj (lookup.symm.trans foundLookup)
        obtain ⟨after, afterLookup, represents⟩ :=
          inductionHypothesis returns.lookup
        refine ⟨after, afterLookup, ?_⟩
        simp only [returns.perform] at represents ⊢
        exact represents.cons returns
      · simp only [threw]
        exact inductionHypothesis lookup

/-- What one call does. -/
theorem oneCall
    {entry : Entry JsonObject}
    (call : SessionCall)
    (lookup :
      backend.store.lookup
          (SessionService.session.storageKey sessionType.text key) =
        some entry) :
    OneCall key sessionType backend entry call := by
  rcases call.perform_cases key sessionType backend with
    ⟨session, value, seconds, returns⟩ | ⟨failure, threw⟩
  · obtain ⟨found, foundLookup, live, rfl⟩ :=
      ExpiringStore.read_eq_some.mp returns.read
    obtain rfl := Option.some.inj (lookup.symm.trans foundLookup)
    refine ⟨?_, ?_, ?_, ?_⟩
    · apply iff_of_true
      · exact ⟨value, by rw [returns.perform]⟩
      · exact ⟨returns.typed, live,
          Mutator.change_isOk.mp ⟨value, returns.changed⟩, seconds,
          returns.secondsLeft, returns.positive⟩
    · intro _ _
      exact ⟨_, returns.lookup, returns.ownPart⟩
    · intro other different
      rw [returns.perform]
      exact ExpiringStore.lookup_write_other _ different _ _ _
    · intro failure threw
      rw [returns.perform] at threw
      cases threw
  · refine ⟨?_, ?_, ?_, ?_⟩
    · apply iff_of_false
      · rintro ⟨value, ended⟩
        rw [threw] at ended
        cases ended
      · rintro ⟨typed, live, accepts, seconds, left, positive⟩
        obtain ⟨value, changed⟩ := Mutator.change_isOk.mpr accepts
        have returns :
            call.Returns key sessionType backend entry.value value
              seconds :=
          ⟨typed,
            ExpiringStore.read_eq_some.mpr ⟨entry, lookup, live, rfl⟩,
            changed, left, positive⟩
        have ended := congrArg Prod.snd (threw.symm.trans returns.perform)
        cases ended
    · intro value ended
      rw [threw] at ended
      cases ended
    · intro other _
      rw [threw]
    · intro _ _
      rw [threw]

/-- `getFlowSession` answers for what the session stands for. -/
theorem getFlowSession_answers
    {entry : Entry JsonObject}
    {instant : Nat}
    (lookup :
      backend.store.lookup
          (SessionService.session.storageKey sessionType.text key) =
        some entry)
    (live : entry.LiveAt instant)
    (type : FlowType) :
    Answers
      ((getFlowSession key type sessionType).run (fun _ => instant)
        backend).2
      (flowsOf entry.value type.text) := by
  have read :
      backend.store.read instant
          (SessionService.session.storageKey sessionType.text key) =
        some entry.value :=
    ExpiringStore.read_eq_some.mpr ⟨entry, lookup, live, rfl⟩
  unfold getFlowSession
  rw [SessionService.getSessionValue_eq, StoreProgram.get_bind]
  simp only [StoreProgram.run, read, StoreProgram.ok_bind]
  unfold Answers flowsOf
  cases found : flowSession entry.value type.text with
  | none => rfl
  | some flow =>
      cases truthy : flow.truthy with
      | true =>
          simp only [Option.filter, truthy, ↓reduceIte, Option.map_some]
          exact ⟨flow, rfl, rfl⟩
      | false =>
          simp only [Option.filter, truthy, Bool.false_eq_true, ↓reduceIte,
            Option.map_none]
          rfl

/--
From any live session on, whatever is called, what is stored represents the
calls that have returned; `getFlowSession` answers accordingly; and what the
next call does is bounded to its own part.
-/
theorem sequence_represents
    {now : Nat}
    (live :
      backend.store.read now
          (SessionService.session.storageKey sessionType.text key) =
        some session)
    (calls : List SessionCall) :
    ∃ entry,
      (performAll key sessionType backend calls).store.lookup
            (SessionService.session.storageKey sessionType.text key) =
          some entry ∧
        Represents session (returned key sessionType backend calls)
          entry.value ∧
        (∀ instant,
          entry.LiveAt instant →
            ∀ type,
              Answers
                ((getFlowSession key type sessionType).run
                  (fun _ => instant)
                  (performAll key sessionType backend calls)).2
                (flowsOf entry.value type.text)) ∧
        ∀ call,
          OneCall key sessionType
            (performAll key sessionType backend calls) entry call := by
  obtain ⟨first, lookup, -, rfl⟩ := ExpiringStore.read_eq_some.mp live
  obtain ⟨entry, entryLookup, represents⟩ :=
    represents_performAll calls lookup
  refine ⟨entry, entryLookup, represents, ?_, ?_⟩
  · intro instant entryLive type
    exact getFlowSession_answers entryLookup entryLive type
  · intro call
    exact oneCall call entryLookup

end Sequence

/-- A new session that brings these properties is stored and live. -/
theorem tenSeconds_live
    {value : Properties}
    (created : (tenSeconds value).2 = .ok value) :
    (tenSeconds value).1.store.read 1500
        (SessionService.session.storageKey JwtSession.token.text
          "alice:first") =
      some
        ((SessionService.stamp 1500 (some 10)).spread value).stringify := by
  have creation :
      (SessionService.session.addSession JwtSession.token.text
          "alice:first" (some 10) value).run (fun _ => 1500)
          emptyBackend =
        ((tenSeconds value).1, .ok value) :=
    Prod.ext rfl created
  obtain ⟨-, lookup⟩ := addSession_stored creation
  have notExpired : 1500 < 1500 + (10 : Int).toNat * 1000 := by decide
  exact ExpiringStore.read_eq_some.mpr ⟨_, lookup, notExpired, rfl⟩

/-- A flow session is added, granted a permission, and cleared. -/
def threeCalls : List SessionCall :=
  [⟨.addFlowSession
      ((Properties.empty.set "type" (some (.str "SIGN_CONTRACT"))).set
        "permissions" (some (.arr []))), 1600, 1700⟩,
    ⟨.addFlowPermissions (.octo .signContract)
      [.signContract .otpRequested], 2600, 2700⟩,
    ⟨.clearFlowSession (.partner .signContract), 3600, 3700⟩]

/-- On a new session. -/
theorem sequence_represents_three :
    ∃ entry,
      (performAll "alice:first" .token (tenSeconds .empty).1
            threeCalls).store.lookup
            (SessionService.session.storageKey JwtSession.token.text
              "alice:first") =
          some entry ∧
        Represents
          ((SessionService.stamp 1500 (some 10)).spread
            .empty).stringify
          (returned "alice:first" .token (tenSeconds .empty).1 threeCalls)
          entry.value ∧
        (∀ instant,
          entry.LiveAt instant →
            ∀ type,
              Answers
                ((getFlowSession "alice:first" type .token).run
                  (fun _ => instant)
                  (performAll "alice:first" .token (tenSeconds .empty).1
                    threeCalls)).2
                (flowsOf entry.value type.text)) ∧
        ∀ call,
          OneCall "alice:first" .token
            (performAll "alice:first" .token (tenSeconds .empty).1
              threeCalls)
            entry call :=
  sequence_represents (tenSeconds_live rfl) threeCalls

/-- A session stored without an `iat` does not keep it so. -/
theorem iat_stamped_later :
    ∃ session after,
      (tenSeconds (Properties.empty.set "iat" none)).1.store.read 1500
            (SessionService.session.storageKey JwtSession.token.text
              "alice:first") =
          some session ∧
        (performAll "alice:first" .token
              (tenSeconds (Properties.empty.set "iat" none)).1
              [⟨.clearFlowSession (.octo .signContract), 1500,
                1500⟩]).store.lookup
            (SessionService.session.storageKey JwtSession.token.text
              "alice:first") =
          some after ∧
        after.value "iat" ≠ session "iat" := by
  have live :
      (tenSeconds (Properties.empty.set "iat" none)).1.store.read 1500
          (SessionService.session.storageKey JwtSession.token.text
            "alice:first") =
        some
          ((SessionService.stamp 1500 (some 10)).spread
            (Properties.empty.set "iat" none)).stringify :=
    tenSeconds_live rfl
  obtain ⟨entry, lookup, entryLive, value⟩ :=
    ExpiringStore.read_eq_some.mp live
  have noIat : entry.value "iat" = none := by
    rw [value]
    rfl
  have storedExp : entry.value "exp" = some (.int 11) := by
    rw [value]
    rfl
  obtain ⟨after, afterLookup, stamped⟩ :=
    clearing_stamps_iat 1500 (.octo .signContract) lookup storedExp noIat
      entryLive (by decide)
  refine ⟨_, after, live, afterLookup, ?_⟩
  rw [← value, noIat]
  exact stamped

end SessionCall

end AuthSessionService

end NestBackend
