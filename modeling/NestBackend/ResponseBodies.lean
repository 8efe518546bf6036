import NestBackend.PermissionGrants

namespace NestBackend

open JavaScript

/-!
# The answers of `BaseResponseInterceptor`

The interceptor turns whatever a handler does into a status and a body, here
with everything that the body carries.  It is used as
`ExampleResponseInterceptor`, inside of `PermissionInterceptor`, which reads the
code of the body alone.
-/

/-- `ErrorDetailWithParams`. -/
structure ErrorDetailWithParams where
  code : String
  params : List (String × String)
  data : Option Json

/-- What an `HttpException` is made of. -/
inductive ExceptionResponse where
  | text (message : String)
  | object (properties : JsonObject)
  | detail (detail : ErrorDetailWithParams)

/-- `HttpException`, with everything that an exception owns. -/
structure HttpException where
  name : String
  status : Int
  response : ExceptionResponse
  options : Option Json
  message : String
  stack : String
  cause : Option Json

/-- An error that is no `HttpException`. -/
structure OtherError where
  message : String
  stack : String
  cause : Option Json

/-- What a handler throws. -/
inductive Thrown where
  | httpException (exception : HttpException)
  | error (error : OtherError)

/-- The data of a body: a value, or the exception itself. -/
inductive ResponseData where
  | value (value : Option Json)
  | exception (exception : HttpException)

/-- `ResponseDTO`, as the interceptor builds it. -/
structure ResponseBody where
  systemCode : SystemCode
  message : String
  data : ResponseData
  debugError : Option Thrown

/-- The part of a body that `PermissionInterceptor` reads. -/
def ResponseBody.dto (body : ResponseBody) : ResponseDTO where
  systemCode := body.systemCode

/-- The status of the response, and its body. -/
structure HttpReply where
  status : Int
  body : ResponseBody

/-- `errorDetail`: a text, or an `ErrorDetailWithParams`. -/
inductive ErrorDetail where
  | text (message : String)
  | withParams (detail : ErrorDetailWithParams)

namespace ErrorDetail

/-- `code` in `translateResponse`. -/
def code : ErrorDetail → String
  | .text message => message
  | .withParams detail => detail.code

/-- `errorRes` in `translateResponse`. -/
def errorRes (data : ResponseData) : ErrorDetail → ResponseData
  | .text _ => data
  | .withParams detail =>
      if detail.data.any Json.truthy then .value detail.data else data

end ErrorDetail

namespace HttpException

/-- `errorMessage` in `intercept`. -/
def errorMessage (exception : HttpException) : ErrorDetail :=
  match exception.response with
  | .detail detail => .withParams detail
  | _ => .text exception.message

/-- `HttpException.createBody`. -/
def createBody
    (message : Json)
    (error : String)
    (statusCode : Int) : JsonObject := fun name =>
  match name with
  | "message" => some message
  | "error" => some (.str error)
  | "statusCode" => some (.int statusCode)
  | _ => none

/-- An exception of a class of its own that is made of a text. -/
def ofText
    (name error : String)
    (status : Int)
    (text stack : String) : HttpException where
  name := name
  status := status
  response := .object (createBody (.str text) error status)
  options := some (.obj fun _ => none)
  message := text
  stack := stack
  cause := none

/-- `BadRequestException`. -/
def badRequest : String → String → HttpException :=
  ofText "BadRequestException" "Bad Request" 400

/-- `UnauthorizedException`. -/
def unauthorized : String → String → HttpException :=
  ofText "UnauthorizedException" "Unauthorized" 401

/-- `InternalServerErrorException`. -/
def internalServerError : String → String → HttpException :=
  ofText "InternalServerErrorException" "Internal Server Error" 500

end HttpException

namespace ExampleResponseInterceptor

/-- `translateResponse`. -/
def translateResponse
    (showDebugError : Bool)
    (errorDetail : ErrorDetail)
    (data : ResponseData)
    (debugError : Option Thrown) : ResponseBody :=
  let systemCode :=
    (SystemCode.ofText? errorDetail.code).getD .pleaseThrowSystemCode
  { systemCode := systemCode
    message := "Yêu cầu của bạn đã được xử lý thành công."
    data := errorDetail.errorRes data
    debugError :=
      if systemCode ≠ .success ∧ showDebugError = true then
        debugError
      else
        none }

/--
The code and the status for an error that is no `HttpException`, by the status
that the response has already.
-/
def errorCode (statusCode : Int) : SystemCode × Int :=
  if statusCode = 400 then
    (.badRequest, statusCode)
  else if statusCode = 401 then
    (.unauthorized, statusCode)
  else if statusCode = 403 then
    (.forbidden, statusCode)
  else if statusCode < 300 then
    (.sorrySomethingWentWrong, 500)
  else
    (.sorrySomethingWentWrong, statusCode)

/-- `intercept`, by what the handler does and the status that it leaves. -/
def intercept
    (showDebugError : Bool)
    (statusCode : Int) : Except Thrown (Option Json) → HttpReply
  | .ok data =>
      { status := statusCode
        body :=
          translateResponse showDebugError (.text SystemCode.success.text)
            (.value data) none }
  | .error (.httpException exception) =>
      { status := exception.status
        body :=
          translateResponse showDebugError exception.errorMessage
            (.exception exception) none }
  | .error (.error error) =>
      { status := (errorCode statusCode).2
        body :=
          translateResponse showDebugError
            (.text (errorCode statusCode).1.text)
            (.value (some (.str error.message)))
            (some (.error error)) }

end ExampleResponseInterceptor

/-! ## What is asked of the answers -/

/-- An exception that brings data of its own. -/
def HttpException.CarriesData (exception : HttpException) : Prop :=
  ∃ detail,
    exception.response = .detail detail ∧
      detail.data.any Json.truthy = true

namespace Thrown

/-- An error that brings data of its own. -/
def CarriesData : Thrown → Prop
  | .httpException exception => exception.CarriesData
  | .error _ => False

/-- The same exception, or two other errors with the same message. -/
def Alike : Thrown → Thrown → Prop
  | .httpException first, .httpException second => first = second
  | .error first, .error second => first.message = second.message
  | _, _ => False

end Thrown

namespace PermissionInterceptor

/-- After the handler, the interceptor goes on to the session store. -/
def Grants
    (metadata : GuardMetadata)
    (session : JsonObject)
    (res : ResponseDTO) : Prop :=
  ∀ outcome,
    intercept metadata session (.done (.ok res)) ≠ .done outcome

end PermissionInterceptor

namespace ExampleResponseInterceptor

/-- The answer says success exactly if the handler returned a value. -/
structure ReportsSuccess
    (handled : Except Thrown (Option Json))
    (reply : HttpReply) : Prop where
  code : reply.body.systemCode = .success ↔ ∃ value, handled = .ok value
  status : 400 ≤ reply.status ↔ ∃ thrown, handled = .error thrown
  grants :
    ∀ metadata session,
      PermissionInterceptor.check metadata session = .ok () →
        metadata.grants ≠ [] →
          (PermissionInterceptor.Grants metadata session reply.body.dto ↔
            ∃ value, handled = .ok value)

/--
A returned value leaves a status below 400; an `HttpException` has one of 400 at
least and does not call itself a success; and any other error is not thrown over
a redirection.
-/
def Reportable (statusCode : Int) : Except Thrown (Option Json) → Prop
  | .ok _ => statusCode < 400
  | .error (.httpException exception) =>
      exception.errorMessage.code ≠ SystemCode.success.text ∧
        400 ≤ exception.status
  | .error (.error _) => statusCode < 300 ∨ 400 ≤ statusCode

/-! ## The bodies -/

variable
  {showDebugError : Bool}
  {statusCode : Int}
  {errorDetail : ErrorDetail}
  {data : ResponseData}
  {debugError : Option Thrown}

/-- A body says success only if it is told so. -/
theorem translateResponse_success :
    (translateResponse showDebugError errorDetail data debugError).systemCode =
        .success ↔
      errorDetail.code = SystemCode.success.text := by
  simp only [translateResponse]
  constructor
  · intro success
    cases found : SystemCode.ofText? errorDetail.code with
    | none =>
        rw [found] at success
        cases success
    | some code =>
        rw [found] at success
        obtain rfl : code = .success := success
        exact (SystemCode.text_of_ofText? found).symm
  · intro success
    rw [success, SystemCode.ofText?_text]
    rfl

/-- Without debugging there is no `debugError`. -/
theorem translateResponse_quiet :
    (translateResponse false errorDetail data debugError).debugError =
      none := by
  simp [translateResponse]

/-- Without debugging, bodies differ only in the code and the data. -/
theorem translateResponse_eq_iff
    {otherDetail : ErrorDetail}
    {otherData : ResponseData}
    {otherError : Option Thrown}
    (sameCode :
      (translateResponse false errorDetail data debugError).systemCode =
        (translateResponse false otherDetail otherData
          otherError).systemCode) :
    translateResponse false errorDetail data debugError =
        translateResponse false otherDetail otherData otherError ↔
      errorDetail.errorRes data = otherDetail.errorRes otherData := by
  constructor
  · intro same
    exact congrArg ResponseBody.data same
  · intro sameData
    simp only [translateResponse] at sameCode ⊢
    rw [sameCode, sameData]
    simp

/-- Without data of its own, an exception is the data of its body. -/
theorem errorRes_errorMessage
    {exception : HttpException}
    (plain : ¬ exception.CarriesData) :
    exception.errorMessage.errorRes data = data := by
  cases response : exception.response with
  | text message =>
      simp [HttpException.errorMessage, response, ErrorDetail.errorRes]
  | object properties =>
      simp [HttpException.errorMessage, response, ErrorDetail.errorRes]
  | detail detail =>
      have falsy : ¬ detail.data.any Json.truthy = true := fun truthy =>
        plain ⟨detail, response, truthy⟩
      simp only [HttpException.errorMessage, response, ErrorDetail.errorRes,
        if_neg falsy]

/-- Without debugging, no answer shows an error that is no exception. -/
theorem debugError_eq_none
    (handled : Except Thrown (Option Json)) :
    (intercept false statusCode handled).body.debugError = none := by
  cases handled with
  | ok value => exact translateResponse_quiet
  | error thrown => cases thrown <;> exact translateResponse_quiet

/-- An exception without data of its own is in the body. -/
theorem data_httpException
    {exception : HttpException}
    (plain : ¬ exception.CarriesData) :
    (intercept showDebugError statusCode
          (.error (.httpException exception))).body.data =
      .exception exception :=
  errorRes_errorMessage plain

/-- The message of any other error is in the body. -/
theorem data_error (error : OtherError) :
    (intercept showDebugError statusCode (.error (.error error))).body.data =
      .value (some (.str error.message)) := rfl

/--
Without debugging, two errors that lead to the same status and code, and bring
no data, have the same body exactly if they are the same exception, or two other
errors with the same message.
-/
theorem body_eq_iff
    {first second : Thrown}
    {otherStatusCode : Int}
    (sameStatus :
      (intercept false statusCode (.error first)).status =
        (intercept false otherStatusCode (.error second)).status)
    (sameCode :
      (intercept false statusCode (.error first)).body.systemCode =
        (intercept false otherStatusCode (.error second)).body.systemCode)
    (firstPlain : ¬ first.CarriesData)
    (secondPlain : ¬ second.CarriesData) :
    (intercept false statusCode (.error first)).body =
        (intercept false otherStatusCode (.error second)).body ↔
      first.Alike second := by
  cases first with
  | httpException first =>
      cases second with
      | httpException second =>
          rw [intercept, intercept, translateResponse_eq_iff sameCode,
            errorRes_errorMessage firstPlain,
            errorRes_errorMessage secondPlain]
          exact ResponseData.exception.injEq first second ▸ Iff.rfl
      | error second =>
          refine iff_of_false (fun same => ?_) id
          have sameData := congrArg ResponseBody.data same
          rw [data_httpException firstPlain, data_error] at sameData
          cases sameData
  | error first =>
      cases second with
      | httpException second =>
          refine iff_of_false (fun same => ?_) id
          have sameData := congrArg ResponseBody.data same
          rw [data_httpException secondPlain, data_error] at sameData
          cases sameData
      | error second =>
          rw [intercept, intercept, translateResponse_eq_iff sameCode]
          simp [ErrorDetail.errorRes, Thrown.Alike]

/-- Two failures of the database, one of which has a stack. -/
theorem body_eq_iff_lost :
    (intercept false 200
          (.error (.error ⟨"lost", "at query", none⟩))).body =
        (intercept false 201
          (.error (.error ⟨"lost", "", some .null⟩))).body ↔
      Thrown.Alike (.error ⟨"lost", "at query", none⟩)
        (.error ⟨"lost", "", some .null⟩) :=
  body_eq_iff rfl rfl id id

/-- What the database says is read in the body. -/
theorem message_in_body :
    ¬ ∀ (statusCode : Int) (first second : Thrown),
        (intercept false statusCode (.error first)).status =
            (intercept false statusCode (.error second)).status →
          (intercept false statusCode (.error first)).body.systemCode =
              (intercept false statusCode (.error second)).body.systemCode →
            ¬ first.CarriesData →
              ¬ second.CarriesData →
                (intercept false statusCode (.error first)).body =
                  (intercept false statusCode (.error second)).body := by
  intro inside
  have same :=
    inside 200
      (.error ⟨"duplicate key value violates unique constraint", "", none⟩)
      (.error ⟨"relation user does not exist", "", none⟩) rfl rfl id id
  have sameData := congrArg ResponseBody.data same
  simp [data_error] at sameData

/-! ## What is reported -/

/-- A status that stands for an error of its own, or is an error. -/
theorem errorCode_status :
    400 ≤ (errorCode statusCode).2 ↔ statusCode < 300 ∨ 400 ≤ statusCode := by
  unfold errorCode
  split_ifs <;> (dsimp only; omega)

/-- No status stands for a success. -/
theorem errorCode_ne_success : (errorCode statusCode).1 ≠ .success := by
  unfold errorCode
  split_ifs <;> simp

/-- The interceptor around it grants exactly after a code of success. -/
theorem grants_iff
    {metadata : GuardMetadata}
    {session : JsonObject}
    {res : ResponseDTO}
    (checked : PermissionInterceptor.check metadata session = .ok ())
    (provides : metadata.grants ≠ []) :
    PermissionInterceptor.Grants metadata session res ↔
      res.systemCode = .success := by
  constructor
  · intro grants
    by_contra failed
    refine grants (.ok (some res)) ?_
    simp [PermissionInterceptor.intercept, checked, failed]
  · intro success outcome
    rw [PermissionInterceptor.intercept_success checked success]
    have shape := PermissionInterceptor.grants_shape metadata
    revert provides
    generalize metadata.grants = grants at shape ⊢
    intro provides isDone
    cases shape with
    | none => exact provides rfl
    | session permissions => cases isDone
    | flow type permissions => cases isDone
    | both permissions type flowPermissions => cases isDone

/-- A body says success exactly if it is built for a success. -/
theorem body_success (handled : Except Thrown (Option Json)) :
    (intercept showDebugError statusCode handled).body.systemCode = .success ↔
      match handled with
      | .ok _ => True
      | .error (.httpException exception) =>
          exception.errorMessage.code = SystemCode.success.text
      | .error (.error _) => False := by
  cases handled with
  | ok value => exact iff_of_true (translateResponse_success.mpr rfl) trivial
  | error thrown =>
      cases thrown with
      | httpException exception => exact translateResponse_success
      | error error =>
          refine iff_of_false (fun success => ?_) id
          exact errorCode_ne_success
            (SystemCode.text_injective (translateResponse_success.mp success))

/--
An answer says success exactly for a successful handler, in its code and in its
status and to the interceptor around it, exactly if the status and the text of
the exception are in order.
-/
theorem reportsSuccess_iff
    (showDebugError : Bool)
    (statusCode : Int)
    (handled : Except Thrown (Option Json)) :
    ReportsSuccess handled (intercept showDebugError statusCode handled) ↔
      Reportable statusCode handled := by
  constructor
  · intro reports
    have code := (body_success handled).symm.trans reports.code
    have status := reports.status
    cases handled with
    | ok value => simpa [intercept, Reportable] using status
    | error thrown =>
        cases thrown with
        | httpException exception =>
            exact ⟨by simpa using code, by simpa [intercept] using status⟩
        | error error =>
            exact errorCode_status.mp (by simpa [intercept] using status)
  · intro reportable
    have code :
        (intercept showDebugError statusCode handled).body.systemCode =
            .success ↔
          ∃ value, handled = .ok value := by
      refine (body_success handled).trans ?_
      cases handled with
      | ok value => simp
      | error thrown =>
          cases thrown with
          | httpException exception => simpa using reportable.1
          | error error => simp
    refine ⟨code, ?_, ?_⟩
    · cases handled with
      | ok value => simpa [intercept, Reportable] using reportable
      | error thrown =>
          cases thrown with
          | httpException exception => simpa [intercept] using reportable.2
          | error error =>
              simpa [intercept] using errorCode_status.mpr reportable
    · intro metadata session checked provides
      exact (grants_iff checked provides).trans code

/-- An exception with the text of a success is answered as a success. -/
theorem exception_answered_as_success :
    ¬ ∀ (showDebugError : Bool) (statusCode : Int)
        (handled : Except Thrown (Option Json)),
        ReportsSuccess handled
          (intercept showDebugError statusCode handled) := by
  intro reports
  have code :=
    (reports false 200
      (.error (.httpException (.badRequest "SUCCESS" "")))).code
  obtain ⟨value, returned⟩ := code.mp rfl
  cases returned

/-! ## The codes alone -/

/-- The error that a failure stands for, with what the model leaves out. -/
def thrown (message stack : String) : Failure → Thrown
  | .unauthorizedException text => .httpException (.unauthorized text stack)
  | .badRequestException text => .httpException (.badRequest text stack)
  | .internalServerErrorException text =>
      .httpException (.internalServerError text stack)
  | .error text => .error ⟨text, stack, none⟩
  | .storeFailure _ => .error ⟨message, stack, none⟩
  | .typeError => .error ⟨message, stack, none⟩

/-- Before a status is set, a failure has the code that it had alone. -/
theorem dto_error
    (message stack : String)
    (failure : Failure)
    (unset : statusCode < 300) :
    (intercept showDebugError statusCode
          (.error (thrown message stack failure))).body.dto =
      BaseResponseInterceptor.errorResponse failure := by
  have apologizes :
      errorCode statusCode = (.sorrySomethingWentWrong, 500) := by
    unfold errorCode
    split_ifs <;> first | rfl | omega
  cases failure <;>
    simp [intercept, thrown, apologizes, ResponseBody.dto, translateResponse,
      BaseResponseInterceptor.errorResponse,
      BaseResponseInterceptor.translateResponse, HttpException.ofText,
      HttpException.badRequest, HttpException.unauthorized,
      HttpException.internalServerError, HttpException.errorMessage,
      ErrorDetail.code]

/--
Before a status is set, the interceptor answers as the one that gives the code
alone.
-/
theorem dto_intercept
    (message stack : String)
    (handled : Except Failure (Option Json))
    (unset : statusCode < 300) :
    BaseResponseInterceptor.intercept (.done handled) =
      .done
        (.ok
          (intercept showDebugError statusCode
            (handled.mapError (thrown message stack))).body.dto) := by
  cases handled with
  | ok value => rfl
  | error failure =>
      rw [Except.mapError, dto_error message stack failure unset]
      rfl

end ExampleResponseInterceptor

end NestBackend
