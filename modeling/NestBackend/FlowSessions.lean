import NestBackend.RecordMap
import NestBackend.SessionCalls

namespace NestBackend

open JavaScript

/-!
# Flow sessions as a map of records

What the flow sessions of a stored session stand for: under each flow type the
fields of the flow session, if there is one.  A value that is not truthy counts
as none, and a value that is no object has the properties that spreading it
copies.
-/

namespace AuthSessionService

/-! ## The abstract session -/

/-- The fields of a stored flow session. -/
def flowFields (flow : Json) : Record String Json :=
  (Properties.ofJson (some flow)).stringify

/-- The flow sessions that a session stands for. -/
def flowsOf (session : JsonObject) : RecordMap String String Json :=
  fun type => ((flowSession session type).filter Json.truthy).map flowFields

/-- The permissions that a session stands for. -/
def permissionsOf (session : JsonObject) : Json :=
  ((session "permissions").filter Json.truthy).getD (.arr [])

/-- The texts that a list does not have yet, each once, in their order. -/
def missing (listed : List Json) (texts : List String) : List Json :=
  (texts.filter (fun text => !includes listed text)).eraseDups.map .str

/-- Append what is missing, if there is a list. -/
def grantTo (texts : List String) : Json → Json
  | .arr listed => .arr (listed ++ missing listed texts)
  | other => other

/-- Append what is missing to the permissions of a flow session. -/
def grantFields
    (texts : List String)
    (fields : Record String Json) : Record String Json :=
  Function.update fields "permissions"
    ((fields "permissions").map (grantTo texts))

/-- What a call does to the flow sessions: an edit under one type, or nothing. -/
def Mutator.flowEdit? :
    Mutator → Option (String × RecordEdit String Json)
  | .addPermissions _ => none
  | .addFlowSession value =>
      some (templateText? (value.get "type"), .merge value)
  | .updateFlowSession value =>
      some (templateText? (value.get "type"), .merge value)
  | .clearFlowSession type => some (type.text, .clear)
  | .addFlowPermissions type permissions =>
      some
        (type.text,
          .revise (grantFields (permissions.map FlowPermission.text)))

/-- What a call does to the permissions of the session. -/
def Mutator.permit : Mutator → Json → Json
  | .addPermissions permissions =>
      grantTo (permissions.map UserPermission.text)
  | _ => id

/-- Whether nothing has to be pushed or pushing works. -/
def Extensible (held : Option Json) (texts : List String) : Prop :=
  texts = [] ∨
    (∃ listed, held = some (.arr listed)) ∨
    ∃ text,
      held = some (.str text) ∧ texts.all (includesText text) = true

/-- Whether a call can be carried out on a session. -/
def Mutator.Accepts (mutator : Mutator) (session : JsonObject) : Prop :=
  match mutator with
  | .addPermissions permissions =>
      Extensible (some (permissionsOf session))
        (permissions.map UserPermission.text)
  | .addFlowPermissions type permissions =>
      ∃ flow,
        flowSession session type.text = some flow ∧ flow.truthy = true ∧
          Extensible (flow.property "permissions")
            (permissions.map FlowPermission.text)
  | _ => True

/-! ## Pushing permissions -/

/-- Pushing appends what is missing. -/
theorem pushMissing_eq
    (listed : List Json)
    (texts : List String) :
    pushMissing listed texts = listed ++ missing listed texts := by
  induction texts generalizing listed with
  | nil => simp [pushMissing, missing]
  | cons text rest inductionHypothesis =>
      by_cases found : includes listed text = true
      · rw [pushMissing, if_pos found, inductionHypothesis]
        simp [missing, found]
      · have later :
            rest.filter (fun other =>
                !includes (listed ++ [.str text]) other) =
              (rest.filter (fun other => !includes listed other)).filter
                (fun other => !other == text) := by
          rw [List.filter_filter]
          congr 1
          funext other
          have symmetric : (text == other) = (other == text) := BEq.comm
          simp [includes, Json.isText, Bool.and_comm, symmetric]
        rw [pushMissing, if_neg found, inductionHypothesis]
        simp [missing, found, later, List.eraseDups_cons]

/-- What pushing leaves. -/
theorem pushAll_ok
    {held updated : Option Json}
    {texts : List String}
    (pushed : pushAll held texts = .ok updated) :
    updated = held.map (grantTo texts) := by
  cases texts with
  | nil =>
      obtain rfl := Except.ok.inj pushed
      cases held with
      | none => rfl
      | some value =>
          cases value <;> simp [grantTo, missing]
  | cons text rest =>
      match held with
      | some (.arr listed) =>
          obtain rfl := Except.ok.inj pushed
          simp [grantTo, pushMissing_eq]
      | some (.str held) =>
          simp only [pushAll] at pushed
          split at pushed
          · obtain rfl := Except.ok.inj pushed
            rfl
          · cases pushed
      | none => cases pushed
      | some .null => cases pushed
      | some (.bool _) => cases pushed
      | some (.num _ _) => cases pushed
      | some (.obj _) => cases pushed

/-- When pushing works. -/
theorem pushAll_isOk
    {held : Option Json}
    {texts : List String} :
    (pushAll held texts).isOk = true ↔ Extensible held texts := by
  unfold Extensible
  cases texts with
  | nil => simp [pushAll, Except.isOk, Except.toBool]
  | cons text rest =>
      match held with
      | some (.arr listed) => simp [pushAll, Except.isOk, Except.toBool]
      | some (.str held) =>
          simp only [pushAll]
          split
          next all => simp_all [Except.isOk, Except.toBool]
          next all => simp_all [Except.isOk, Except.toBool]
      | none => simp [pushAll, Except.isOk, Except.toBool]
      | some .null => simp [pushAll, Except.isOk, Except.toBool]
      | some (.bool _) => simp [pushAll, Except.isOk, Except.toBool]
      | some (.num _ _) => simp [pushAll, Except.isOk, Except.toBool]
      | some (.obj _) => simp [pushAll, Except.isOk, Except.toBool]

/-! ## Properties that are no indices -/

/-- An index is not a name that does not start with a digit. -/
theorem toString_ne
    {name : String}
    (noDigit : name.toList.head?.any Char.isDigit = false)
    (index : Nat) :
    toString index ≠ name := by
  rintro rfl
  have digits : (toString index).toList = Nat.toDigits 10 index := by
    simp [Nat.toList_repr]
  rw [digits] at noDigit
  cases first : Nat.toDigits 10 index with
  | nil => exact absurd first Nat.toDigits_ne_nil
  | cons char rest =>
      have member : char ∈ Nat.toDigits 10 index := by
        rw [first]
        exact List.mem_cons_self ..
      have isDigit : char.isDigit = true :=
        Nat.isDigit_of_mem_toDigits (by decide) (by decide) member
      rw [first] at noDigit
      simp [isDigit] at noDigit

/-- Spreading a list copies nothing under such a name. -/
theorem indexed_eq_none
    {name : String}
    (noDigit : name.toList.head?.any Char.isDigit = false)
    (elements : List Json) :
    Properties.indexed elements name = none := by
  unfold Properties.indexed
  rw [Option.map_eq_none_iff, List.find?_eq_none]
  intro index _
  simpa using toString_ne noDigit index

/-- A spread copies the property that an access reads. -/
theorem stringify_ofJson
    {name : String}
    (noDigit : name.toList.head?.any Char.isDigit = false)
    (value : Option Json) :
    (Properties.ofJson value).stringify name =
      value.bind (Json.property name) := by
  match value with
  | some (.obj properties) =>
      simp [Properties.ofJson, Json.property]
  | some (.arr elements) =>
      simp [Properties.ofJson, Properties.stringify, Json.property,
        indexed_eq_none noDigit]
  | some (.str text) =>
      simp [Properties.ofJson, Properties.stringify, Json.property,
        indexed_eq_none noDigit]
  | none => rfl
  | some .null => rfl
  | some (.bool _) => rfl
  | some (.num _ _) => rfl

/-- No flow type looks like an index. -/
theorem FlowType.text_noDigit
    (type : FlowType) :
    type.text.toList.head?.any Char.isDigit = false := by
  rcases type with type | type <;> cases type <;> decide +kernel

/-- Nothing is spread of a value that is not truthy. -/
theorem stringify_ofJson_of_not_truthy
    {value : Json}
    (falsy : value.truthy = false) :
    (Properties.ofJson (some value)).stringify = fun _ => none := by
  match value with
  | .obj properties => cases falsy
  | .arr elements => cases falsy
  | .str text =>
      have empty : text = "" := by simpa [Json.truthy] using falsy
      subst empty
      rfl
  | .null => rfl
  | .bool _ => rfl
  | .num _ _ => rfl

/-! ## What a call makes of a session -/

section Changed

variable
  {now : Nat}
  {seconds : Option Int}
  {session : JsonObject}
  {value : Properties}

/-- The stored flow sessions after one has been set. -/
theorem flowSession_setFlowSession
    (text : String)
    (flow : Option Json)
    (type : FlowType) :
    flowSession
        ((SessionService.stamp now seconds).spread
          (setFlowSession session text flow)).stringify type.text =
      if type.text = text then flow
      else flowSession session type.text := by
  by_cases same : type.text = text
  · rw [if_pos same, same]
    exact flowSession_stored
  · have own :
        (setFlowSession session text flow).stringify "flowSessions" =
          some (.obj
            ((Properties.ofJson (session "flowSessions")).set text
              flow).stringify) := by
      simp [setFlowSession, Properties.stringify]
    rw [if_neg same]
    unfold flowSession
    rw [SessionService.stringify_stamp_spread (by decide) (by decide), own,
      Option.bind_some, Json.property,
      ← stringify_ofJson (FlowType.text_noDigit type)]
    simp [Properties.stringify, Properties.set_other same]

/-- The stored flow sessions after another property has been changed. -/
theorem flowSession_other
    (same : value "flowSessions" = JsonObject.properties session "flowSessions")
    (type : String) :
    flowSession
        ((SessionService.stamp now seconds).spread value).stringify type =
      flowSession session type := by
  unfold flowSession
  rw [SessionService.stringify_stamp_spread (by decide) (by decide)]
  unfold Properties.stringify
  rw [same, JsonObject.properties]
  cases session "flowSessions" <;> rfl

/-- What a flow session that has been set stands for. -/
theorem flowsOf_setFlowSession
    (text : String)
    (flow : Option Json)
    (type : FlowType) :
    flowsOf
        ((SessionService.stamp now seconds).spread
          (setFlowSession session text flow)).stringify type.text =
      if type.text = text then
        (flow.filter Json.truthy).map flowFields
      else
        flowsOf session type.text := by
  unfold flowsOf
  rw [flowSession_setFlowSession]
  split <;> rfl

/-- The fields of the flow session that a merge starts from. -/
theorem flowsOf_getD (type : FlowType) :
    (flowsOf session type.text).getD (fun _ => none) =
      (Properties.ofJson (flowSession session type.text)).stringify := by
  unfold flowsOf
  cases found : flowSession session type.text with
  | none => rfl
  | some flow =>
      cases truthy : flow.truthy with
      | true => simp [Option.filter, truthy, flowFields]
      | false =>
          simp [Option.filter, truthy, stringify_ofJson_of_not_truthy truthy]

/-- A spread is an overlay. -/
theorem stringify_spread
    (under upper : Properties) :
    (under.spread upper).stringify =
      Overlay.apply upper under.stringify := by
  funext name
  unfold Properties.stringify Properties.spread Overlay.apply
  cases upper name <;> rfl

/-- A flow session that is there. -/
theorem flowsOf_of_found
    {type : String}
    {flow : Json}
    (found : flowSession session type = some flow)
    (truthy : flow.truthy = true) :
    flowsOf session type = some (flowFields flow) := by
  simp [flowsOf, found, Option.filter, truthy]

/-- The object itself is what it stands for. -/
@[simp] theorem flowFields_obj (fields : JsonObject) :
    flowFields (.obj fields) = fields := by
  simp [flowFields, Properties.ofJson]

/-- A merge. -/
theorem flowsOf_withFlowSession
    {added : Properties}
    (changed : withFlowSession added session = .ok value)
    (type : FlowType) :
    flowsOf ((SessionService.stamp now seconds).spread value).stringify
        type.text =
      (flowsOf session).edit
        (templateText? (added.get "type"), .merge added) type.text := by
  obtain rfl := Except.ok.inj changed
  rw [flowsOf_setFlowSession, RecordMap.edit_apply]
  split
  next same =>
    rw [← same, RecordEdit.perform, flowsOf_getD, stringify_spread]
    simp [Option.filter, Json.truthy]
  next => rfl

/-- Defining one property changes one field. -/
theorem stringify_set
    (name : String)
    (held : Option Json)
    (own : Properties) :
    (own.set name held).stringify =
      Function.update own.stringify name held := by
  funext query
  by_cases same : query = name
  · rw [same]
    simp [Properties.stringify]
  · simp [Properties.stringify, Properties.set_other same, same]

/-- The copy of a flow session with the permissions that pushing has left. -/
theorem stringify_granted
    {own : Properties}
    {updated : Option Json}
    {texts : List String}
    (held :
      updated = (own.stringify "permissions").map (grantTo texts)) :
    (match updated with
      | some held => own.set "permissions" (some held)
      | none => own).stringify =
      grantFields texts own.stringify := by
  unfold grantFields
  rw [← held]
  cases updated with
  | some granted => exact stringify_set "permissions" (some granted) own
  | none =>
      have absent : own.stringify "permissions" = none :=
        Option.map_eq_none_iff.mp held.symm
      have unchanged := Function.update_eq_self "permissions" own.stringify
      rw [absent] at unchanged
      exact unchanged.symm

/-- A grant. -/
theorem flowsOf_withFlowPermissions
    {flowType : FlowType}
    {permissions : List FlowPermission}
    (changed :
      withFlowPermissions flowType permissions session = .ok value)
    (type : FlowType) :
    flowsOf ((SessionService.stamp now seconds).spread value).stringify
        type.text =
      (flowsOf session).edit
        (flowType.text,
          .revise (grantFields (permissions.map FlowPermission.text)))
        type.text := by
  obtain ⟨flow, updated, found, truthy, pushed, rfl⟩ :=
    withFlowPermissions_ok changed
  have own :
      flow.property "permissions" = flowFields flow "permissions" := by
    rw [flowFields, stringify_ofJson (by decide +kernel)]
    rfl
  rw [flowsOf_setFlowSession, RecordMap.edit_apply]
  split
  next same =>
    have held :
        updated =
          (flowFields flow "permissions").map
            (grantTo (permissions.map FlowPermission.text)) := by
      rw [← own]
      exact pushAll_ok pushed
    rw [same, flowsOf_of_found found truthy]
    exact congrArg some
      ((flowFields_obj _).trans (stringify_granted held))
  next => rfl

/-- A call edits the flow sessions that the session stands for. -/
theorem Mutator.flowsOf_changed
    {mutator : Mutator}
    (changed : mutator.change session = .ok value)
    (type : FlowType) :
    flowsOf ((SessionService.stamp now seconds).spread value).stringify
        type.text =
      mutator.flowEdit?.toList.foldl RecordMap.edit (flowsOf session)
        type.text := by
  cases mutator with
  | addPermissions permissions =>
      obtain ⟨updated, -, rfl⟩ := map_ok changed
      unfold flowsOf
      rw [flowSession_other (Properties.set_other (by decide) _ _)]
      rfl
  | addFlowSession added => exact flowsOf_withFlowSession changed type
  | updateFlowSession added => exact flowsOf_withFlowSession changed type
  | clearFlowSession cleared =>
      obtain rfl := Except.ok.inj changed
      rw [flowsOf_setFlowSession]
      exact (RecordMap.edit_apply _ (cleared.text, .clear) _).symm
  | addFlowPermissions flowType permissions =>
      exact flowsOf_withFlowPermissions changed type

/-- The flow sessions of other types are stored as they were. -/
theorem Mutator.flowSession_changed
    {mutator : Mutator}
    (changed : mutator.change session = .ok value)
    {type : FlowType}
    (other : mutator.flowEdit?.map Prod.fst ≠ some type.text) :
    flowSession ((SessionService.stamp now seconds).spread value).stringify
        type.text =
      flowSession session type.text := by
  have unlessSet :
      ∀ {text : String} {flow : Option Json},
        some text ≠ some type.text →
          flowSession
              ((SessionService.stamp now seconds).spread
                (setFlowSession session text flow)).stringify type.text =
            flowSession session type.text := by
    intro text flow different
    rw [flowSession_setFlowSession, if_neg]
    rintro rfl
    exact different rfl
  cases mutator with
  | addPermissions permissions =>
      obtain ⟨updated, -, rfl⟩ := map_ok changed
      exact flowSession_other (Properties.set_other (by decide) _ _) _
  | addFlowSession added =>
      obtain rfl := Except.ok.inj changed
      exact unlessSet other
  | updateFlowSession added =>
      obtain rfl := Except.ok.inj changed
      exact unlessSet other
  | clearFlowSession cleared =>
      obtain rfl := Except.ok.inj changed
      exact unlessSet other
  | addFlowPermissions flowType permissions =>
      obtain ⟨flow, updated, -, -, -, rfl⟩ := withFlowPermissions_ok changed
      exact unlessSet other

/-- The permissions a session stands for are what `addPermissions` reads. -/
theorem permissionsOf_eq :
    (if (session "permissions").any Json.truthy then
      session "permissions"
    else
      some (.arr [])) =
      some (permissionsOf session) := by
  unfold permissionsOf
  cases found : session "permissions" with
  | none => rfl
  | some held =>
      cases truthy : held.truthy <;>
        simp [Option.filter, truthy]

/-- Where they come from, they stay. -/
theorem permissionsOf_congr
    {stored : JsonObject}
    (same : stored "permissions" = session "permissions") :
    permissionsOf stored = permissionsOf session := by
  unfold permissionsOf
  rw [same]

/-- They are never a value that is not truthy. -/
theorem permissionsOf_truthy : (permissionsOf session).truthy = true := by
  unfold permissionsOf
  cases found : (session "permissions").filter Json.truthy with
  | none => rfl
  | some held => exact (Option.filter_eq_some_iff.mp found).2

/-- Stored permissions are those the session stands for. -/
theorem permissionsOf_of_stored
    {stored : JsonObject}
    {held : Json}
    (found : stored "permissions" = some held)
    (truthy : held.truthy = true) :
    permissionsOf stored = held := by
  simp [permissionsOf, found, Option.filter, truthy]

/-- Granting leaves a truthy value truthy. -/
theorem grantTo_truthy
    {held : Json}
    (texts : List String)
    (truthy : held.truthy = true) :
    (grantTo texts held).truthy = true := by
  cases held with
  | arr listed => rfl
  | _ => exact truthy

/-- Only `addPermissions` changes the permissions. -/
theorem Mutator.change_permissions
    {mutator : Mutator}
    (changed : mutator.change session = .ok value) :
    (∃ permissions, mutator = .addPermissions permissions) ∨
      mutator.permit = id ∧
        value "permissions" =
          JsonObject.properties session "permissions" := by
  rcases mutator.change_cases changed with
    ⟨permissions, updated, grants, -⟩ | ⟨notGrant, type, flow, rfl⟩
  · exact Or.inl ⟨permissions, grants⟩
  · refine Or.inr ⟨?_, setFlowSession_other (by decide)⟩
    cases mutator with
    | addPermissions permissions => exact absurd rfl (notGrant permissions)
    | _ => rfl

/-- A call changes the permissions that the session stands for as it should. -/
theorem Mutator.permissionsOf_changed
    {mutator : Mutator}
    (changed : mutator.change session = .ok value) :
    permissionsOf
        ((SessionService.stamp now seconds).spread value).stringify =
      mutator.permit (permissionsOf session) := by
  rcases mutator.change_permissions changed with
    ⟨permissions, rfl⟩ | ⟨same, kept⟩
  · simp only [change, withPermissions, permissionsOf_eq] at changed
    obtain ⟨updated, pushed, rfl⟩ := map_ok changed
    obtain rfl := pushAll_ok pushed
    apply permissionsOf_of_stored
    · rw [SessionService.stringify_stamp_spread (by decide) (by decide)]
      simp [Properties.stringify, permit]
    · exact grantTo_truthy _ permissionsOf_truthy
  · rw [permissionsOf_congr (stored_same kept (by decide) (by decide)),
      same]
    rfl

/-- When a call can be carried out. -/
theorem Mutator.change_isOk
    {mutator : Mutator} :
    (∃ value, mutator.change session = .ok value) ↔
      mutator.Accepts session := by
  have mapped :
      ∀ {held : Option Json} {texts : List String}
        {onResult : Option Json → Properties},
        (∃ value, (pushAll held texts).map onResult = .ok value) ↔
          Extensible held texts := by
    intro held texts onResult
    rw [← pushAll_isOk]
    cases pushAll held texts with
    | error failure => simp [Except.map, Except.isOk, Except.toBool]
    | ok updated => simp [Except.map, Except.isOk, Except.toBool]
  cases mutator with
  | addPermissions permissions =>
      simp only [change, withPermissions, permissionsOf_eq, Accepts]
      exact mapped
  | addFlowSession added => exact ⟨fun _ => trivial, fun _ => ⟨_, rfl⟩⟩
  | updateFlowSession added => exact ⟨fun _ => trivial, fun _ => ⟨_, rfl⟩⟩
  | clearFlowSession cleared => exact ⟨fun _ => trivial, fun _ => ⟨_, rfl⟩⟩
  | addFlowPermissions flowType permissions =>
      simp only [change, withFlowPermissions, Accepts]
      cases found : flowSession session flowType.text with
      | none => simp
      | some flow =>
          cases truthy : flow.truthy with
          | true =>
              simp only [truthy, ↓reduceIte]
              rw [mapped]
              simp [truthy]
          | false => simp [truthy]

end Changed

end AuthSessionService

end NestBackend
