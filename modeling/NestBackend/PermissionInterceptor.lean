import NestBackend.AuthSessionService

namespace NestBackend

open JavaScript

/-!
# The two interceptors around a handler

`BaseResponseInterceptor` turns whatever a handler does into a `ResponseDTO`.
`PermissionInterceptor` stands outside of it: it checks the permissions that a
handler requires on the session as the guard left it, and grants those that the
handler provides once the answer says success.
-/

/-! ## `BaseResponseInterceptor` -/

/-- The part of a `ResponseDTO` that the interceptors read. -/
structure ResponseDTO where
  systemCode : SystemCode
  deriving DecidableEq, Repr

namespace BaseResponseInterceptor

/-- `translateResponse`, for a code that is a text. -/
def translateResponse (errorDetail : String) : ResponseDTO where
  systemCode :=
    (SystemCode.ofText? errorDetail).getD .pleaseThrowSystemCode

/--
The answer to an error.  Only an `HttpException` is answered with a code of its
own; the status of any other answer is still that of a success.
-/
def errorResponse : Failure → ResponseDTO
  | .unauthorizedException message => translateResponse message
  | .badRequestException message => translateResponse message
  | .internalServerErrorException message => translateResponse message
  | .error _ => translateResponse SystemCode.sorrySomethingWentWrong.text
  | .storeFailure _ =>
      translateResponse SystemCode.sorrySomethingWentWrong.text
  | .typeError => translateResponse SystemCode.sorrySomethingWentWrong.text

/-- `intercept`: it never rejects. -/
def intercept
    {Result : Type}
    (handle : SessionProgram Result) : SessionProgram ResponseDTO :=
  tryCatchThe Failure
    (do
      let _ ← handle
      return translateResponse SystemCode.success.text)
    fun failure => return errorResponse failure

end BaseResponseInterceptor

/-! ## `PermissionInterceptor` -/

/-- `PermissionMetadata`. -/
structure PermissionMetadata where
  providePermissions : Option (List UserPermission)
  requiredPermissions : Option (List UserPermission)

/-- `FlowPermissionMetadata`. -/
structure FlowPermissionMetadata where
  flow : FlowType
  providePermissions : Option (List FlowPermission)
  requiredPermissions : Option (List FlowPermission)

/-- What `PermissionGuard` and `FlowPermissionGuard` set on a target. -/
structure GuardMetadata where
  permission : Option PermissionMetadata
  flowPermission : Option FlowPermissionMetadata

namespace GuardMetadata

/-- The metadata of the class, or else of the handler. -/
def orElse (ofClass ofHandler : GuardMetadata) : GuardMetadata where
  permission := ofClass.permission.or ofHandler.permission
  flowPermission := ofClass.flowPermission.or ofHandler.flowPermission

/-- The permissions of the session that are required. -/
def required (metadata : GuardMetadata) : List UserPermission :=
  (metadata.permission.bind PermissionMetadata.requiredPermissions).getD []

/-- The permissions that are added to the session. -/
def provided (metadata : GuardMetadata) : List UserPermission :=
  (metadata.permission.bind PermissionMetadata.providePermissions).getD []

end GuardMetadata

/-- The permissions of the flow session that are required. -/
def FlowPermissionMetadata.required
    (metadata : FlowPermissionMetadata) : List FlowPermission :=
  metadata.requiredPermissions.getD []

/-- The permissions that are added to the flow session. -/
def FlowPermissionMetadata.provided
    (metadata : FlowPermissionMetadata) : List FlowPermission :=
  metadata.providePermissions.getD []

namespace PermissionInterceptor

/-- `permissions.includes(text)`. -/
def held
    (permissions : Option Json)
    (text : String) : Except Failure Bool :=
  match permissions with
  | some (.arr elements) => .ok (includes elements text)
  | some (.str other) => .ok (AuthSessionService.includesText other text)
  | _ => .error .typeError

/-- The loop that throws at the first permission that is not held. -/
def requireAll
    (permissions : Option Json) : List String → Except Failure Unit
  | [] => .ok ()
  | text :: rest =>
      match held permissions text with
      | .error failure => .error failure
      | .ok false =>
          .error (.unauthorizedException SystemCode.unauthorized.text)
      | .ok true => requireAll permissions rest

/-- The check of the permissions of a flow session, if any are required. -/
def requireFlow
    (metadata : FlowPermissionMetadata)
    (session : JsonObject) : Except Failure Unit :=
  if metadata.required.isEmpty then
    .ok ()
  else
    match AuthSessionService.flowSession session metadata.flow.text with
    | none => .error (.unauthorizedException SystemCode.unauthorized.text)
    | some flow =>
        if flow.truthy then
          requireAll (flow.property "permissions")
            (metadata.required.map FlowPermission.text)
        else
          .error (.unauthorizedException SystemCode.unauthorized.text)

/-- Everything before the handler. -/
def check
    (metadata : GuardMetadata)
    (session : JsonObject) : Except Failure Unit :=
  match
    requireAll (session "permissions")
      (metadata.required.map UserPermission.text) with
  | .error failure => .error failure
  | .ok () =>
      match metadata.flowPermission with
      | none => .ok ()
      | some flowMetadata => requireFlow flowMetadata session

/-- The part of the grant that adds permissions to the session. -/
def grantPermissions
    (metadata : GuardMetadata)
    (key : String) : SessionProgram Unit :=
  if metadata.provided.isEmpty then
    return ()
  else do
    let _ ← AuthSessionService.addPermissions key metadata.provided .token
    return ()

/-- The part of the grant that adds permissions to the flow session. -/
def grantFlowPermissions
    (metadata : GuardMetadata)
    (key : String) : SessionProgram Unit :=
  match metadata.flowPermission with
  | none => return ()
  | some flowMetadata =>
      if flowMetadata.provided.isEmpty then
        return ()
      else do
        let _ ← AuthSessionService.addFlowPermissions key
          flowMetadata.flow flowMetadata.provided .token
        return ()

/--
`intercept`.  When a grant rejects, the promise around it is never resolved and
the request stays without an answer: there is no result.
-/
def intercept
    (metadata : GuardMetadata)
    (session : JsonObject)
    (handle : SessionProgram ResponseDTO) :
    SessionProgram (Option ResponseDTO) :=
  match check metadata session with
  | .error failure => throw failure
  | .ok () => do
      let res ← handle
      if res.systemCode = .success then
        tryCatchThe Failure
          (do
            let key := templateText? (session "key")
            let _ ← grantPermissions metadata key
            let _ ← grantFlowPermissions metadata key
            return some res)
          fun _ => return none
      else
        return some res

/-! ## What the check has found -/

/-- A permission that is required of an array is in it. -/
theorem includes_of_requireAll
    {elements : List Json}
    {texts : List String}
    (required : requireAll (some (.arr elements)) texts = .ok ())
    {text : String}
    (member : text ∈ texts) :
    includes elements text = true := by
  induction texts with
  | nil => cases member
  | cons head rest inductionHypothesis =>
      simp only [requireAll, held] at required
      cases found : includes elements head with
      | false =>
          rw [found] at required
          cases required
      | true =>
          rw [found] at required
          rcases List.mem_cons.mp member with rfl | later
          · exact found
          · exact inductionHypothesis required later

/-- Where flow permissions are required, the flow session is there. -/
theorem requireFlow_ok
    {metadata : FlowPermissionMetadata}
    {session : JsonObject}
    (required : requireFlow metadata session = .ok ())
    (some : metadata.required ≠ []) :
    ∃ flow,
      AuthSessionService.flowSession session metadata.flow.text =
          Option.some flow ∧
        requireAll (flow.property "permissions")
            (metadata.required.map FlowPermission.text) =
          .ok () := by
  unfold requireFlow at required
  rw [if_neg (by simpa using some)] at required
  cases found :
      AuthSessionService.flowSession session metadata.flow.text with
  | none =>
      rw [found] at required
      cases required
  | some flow =>
      rw [found] at required
      simp only at required
      split at required
      · exact ⟨flow, rfl, required⟩
      · cases required

end PermissionInterceptor

end NestBackend
