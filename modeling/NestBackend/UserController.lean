import NestBackend.ExposedClass
import NestBackend.ResponseBodies
import NestBackend.UserService

namespace NestBackend

open JavaScript

/-!
# The profile requests of `UserController`

Every parameter of a handler goes through the global `ValidationPipe`, which
builds an instance of the class of the parameter and checks it, and a file
through a `ParseFilePipe`.  Whatever a client puts into parameters and bodies,
a profile changes only where a well-formed request says so, and then only in
its password.
-/

/-! ## The pipes -/

namespace ValidationPipe

/--
`transform` of the global pipe.  All properties of the classes here are checked
by something, and the others are never on the instance, so that
`forbidNonWhitelisted` finds nothing to forbid.
-/
def transform
    (cls : ExposedClass)
    (value : JsonObject) : Except (List ValidationError) Instance :=
  cls.transform true true fun name => PropertyValue.ofProperty (value name)

end ValidationPipe

/-- A class with an identifier that is a text and not empty. -/
def identifierParam : ExposedClass where
  properties :=
    [{ name := "id"
       default := .undefined
       convert := id
       optional := false
       checks := [.isNotEmpty, .isString] }]
  distinct := by decide

/-- `GetProfileParamDTO`. -/
def GetProfileParamDTO : ExposedClass := identifierParam

/-- `RemoveUserParamDTO`. -/
def RemoveUserParamDTO : ExposedClass := identifierParam

/-- `UpdateProfileParamDTO`. -/
def UpdateProfileParamDTO : ExposedClass := identifierParam

namespace UpdateProfileBodyDTO

/-- `UpdateProfileBodyDTO` as a class. -/
def exposed : ExposedClass where
  properties :=
    [{ name := "password"
       default := .undefined
       convert := id
       optional := false
       checks := [.isString] }]
  distinct := by decide

end UpdateProfileBodyDTO

/-- `Express.Multer.File`, as far as it is looked at. -/
structure UploadedFile where
  originalname : String
  mimetype : String
  size : Nat
  deriving DecidableEq, Repr

namespace UploadedFile

/-- `maxFileSize`. -/
def maxFileSize : Nat := 1024 * 1024 * 5

/-- The alternatives in `allowFileTypes`. -/
def allowedEndings : List String := ["image", "jpg", "jpeg", "png"]

/-- A character that `.` does not match in a regular expression. -/
def isLineTerminator (char : Char) : Bool :=
  char.toNat ∈ [0xA, 0xD, 0x2028, 0x2029]

/--
`mimetype.match(allowFileTypes)`.  The backslash is lost in the template
literal, so any one character comes before the ending.
-/
def typeAllowed (file : UploadedFile) : Bool :=
  allowedEndings.any fun ending =>
    match (file.mimetype.toList.reverse.drop ending.length).head? with
    | none => false
    | some char =>
        ending.toList.reverse.isPrefixOf file.mimetype.toList.reverse &&
          !isLineTerminator char

/-- The first validator of the `ParseFilePipe` that refuses the file. -/
def refusal? (file : UploadedFile) : Option String :=
  if !file.typeAllowed then
    some "Validation failed (expected type is .(image|jpg|jpeg|png)$)"
  else if maxFileSize ≤ file.size then
    some ("Validation failed (expected size is less than " ++
      toString maxFileSize ++ ")")
  else
    none

end UploadedFile

/-- What makes a pipe reject. -/
inductive PipeFailure where
  | invalid (errors : List ValidationError)
  | file (message : String)

namespace PipeFailure

/--
A `ValidationError` in the body of a response.  Its `target` and `value`, which
show the instance that was checked once more, are left out.
-/
def errorJson (error : ValidationError) : Json :=
  .obj fun name =>
    match name with
    | "property" => some (.str error.property)
    | "children" => some (.arr [])
    | "constraints" =>
        some (.obj fun constraint =>
          (error.constraints.lookup constraint).map Json.str)
    | _ => none

/-- The `BadRequestException` that the pipe throws. -/
def exception : PipeFailure → HttpException
  | .invalid errors =>
      { name := "BadRequestException"
        status := 400
        response :=
          .object
            (HttpException.createBody (.arr (errors.map errorJson))
              "Bad Request" 400)
        options := some (.obj fun _ => none)
        message := "Bad Request Exception"
        stack := ""
        cause := none }
  | .file message => HttpException.badRequest message ""

/-- Whichever pipe throws it. -/
theorem exception_status
    (failure : PipeFailure) :
    failure.exception.status = 400 := by
  cases failure with
  | invalid errors => rfl
  | file message => rfl

end PipeFailure

/-! ## The requests -/

/-- A request of a profile. -/
inductive UserRequest where
  | getProfile (params : JsonObject) (now : Nat)
  | updateProfile
      (params body : JsonObject)
      (file : Option UploadedFile)
  | removeUser (params : JsonObject)

/--
A request as it arrives: which of several pipes that reject is noticed first,
and whether the query that it leads to fails.
-/
structure Incoming where
  request : UserRequest
  noticed : Nat
  queryError : Option OtherError

namespace UserController

/-- The text of a property of an accepted instance. -/
def textOf (entity : Instance) (name : String) : String :=
  match entity.get name with
  | .json (.str text) => text
  | _ => ""

/-- The failure of the pipe of a parameter, if it rejects. -/
def failureOf
    (cls : ExposedClass)
    (value : JsonObject) : Option PipeFailure :=
  match ValidationPipe.transform cls value with
  | .ok _ => none
  | .error errors => some (.invalid errors)

/-- The failures of the pipes of a request. -/
def pipeFailures : UserRequest → List PipeFailure
  | .getProfile params _ => (failureOf GetProfileParamDTO params).toList
  | .updateProfile params body file =>
      ((file.bind UploadedFile.refusal?).map PipeFailure.file).toList ++
        (failureOf UpdateProfileParamDTO params).toList ++
        (failureOf UpdateProfileBodyDTO.exposed body).toList
  | .removeUser params => (failureOf RemoveUserParamDTO params).toList

/-- A property of a parameter that its pipe accepts. -/
def accepted
    (cls : ExposedClass)
    (value : JsonObject)
    (name : String) : String :=
  match ValidationPipe.transform cls value with
  | .ok entity => textOf entity name
  | .error _ => ""

/-- The body of a profile. -/
def profileJson (profile : GetProfileResponseDTO) : Json :=
  .obj fun name =>
    match name with
    | "id" => some (.str profile.id)
    | "email" => some (.str profile.email)
    | "password" => some (.str profile.password)
    | _ => none

/-- What is thrown where `file.originalname` is read of no file. -/
def noFile : OtherError where
  message :=
    "Cannot read properties of undefined (reading 'originalname')"
  stack := ""
  cause := none

/-- The handler and its service, once the pipes have accepted. -/
def handler
    (queryError : Option OtherError)
    (state : UserService.State) :
    UserRequest → Except Thrown (Option Json) × UserService.State
  | .getProfile params now =>
      match queryError with
      | some error => (.error (.error error), state)
      | none =>
          let found :=
            UserService.getProfile (accepted GetProfileParamDTO params "id")
              now state
          (.ok (some ((found.1.map profileJson).getD .null)), found.2)
  | .updateProfile params body file =>
      match file, queryError with
      | none, _ => (.error (.error noFile), state)
      | some _, some error => (.error (.error error), state)
      | some file, none =>
          let updated :=
            UserService.updateProfile
              (accepted UpdateProfileParamDTO params "id")
              { password :=
                  some (accepted UpdateProfileBodyDTO.exposed body
                    "password") }
              (some file.originalname) state
          (.ok (updated.1.map fun count => .int count), updated.2)
  | .removeUser params =>
      match queryError with
      | some error => (.error (.error error), state)
      | none =>
          let removed :=
            UserService.removeUser (accepted RemoveUserParamDTO params "id")
              state
          (.ok (some (.int removed.1)), removed.2)

/-- The whole request: the pipes, and the handler if all of them accept. -/
def handle
    (incoming : Incoming)
    (state : UserService.State) :
    Except Thrown (Option Json) × UserService.State :=
  match pipeFailures incoming.request with
  | [] => handler incoming.queryError state incoming.request
  | first :: rest =>
      (.error (.httpException
        ((first :: rest).getD
          (incoming.noticed % (first :: rest).length) first).exception),
        state)

/-- The answer to a request. -/
def reply
    (showDebugError : Bool)
    (incoming : Incoming)
    (state : UserService.State) : HttpReply :=
  ExampleResponseInterceptor.intercept showDebugError 200
    (handle incoming state).1

/-- Requests one after the other. -/
def handleAll
    (state : UserService.State)
    (requests : List Incoming) : UserService.State :=
  requests.foldl (fun state incoming => (handle incoming state).2) state

end UserController

/-! ## What a request asks for -/

/-- The identifier in some parameters, if it is a text and not empty. -/
def identifier? (params : JsonObject) : Option String :=
  match params "id" with
  | some (.str id) => if id = "" then none else some id
  | _ => none

/-- The password in a body, if it is a text. -/
def newPassword? (body : JsonObject) : Option String :=
  match body "password" with
  | some (.str password) => some password
  | _ => none

namespace UserRequest

/-- The request without the properties that nothing asks for. -/
def stripped : UserRequest → UserRequest
  | .getProfile params now =>
      .getProfile (fun name => if name = "id" then params "id" else none) now
  | .updateProfile params body file =>
      .updateProfile
        (fun name => if name = "id" then params "id" else none)
        (fun name => if name = "password" then body "password" else none)
        file
  | .removeUser params =>
      .removeUser (fun name => if name = "id" then params "id" else none)

/-- The write that a well-formed request asks for. -/
def write? : UserRequest → Option UserService.Write
  | .getProfile _ _ => none
  | .updateProfile params body file =>
      match identifier? params, newPassword? body, file with
      | some id, some password, some file =>
          if file.refusal? = none then
            some (.update id { password := some password })
          else
            none
      | _, _, _ => none
  | .removeUser params => (identifier? params).map .remove

/-- A request with nothing that a pipe rejects. -/
def Acceptable : UserRequest → Prop
  | .getProfile params _ => (identifier? params).isSome = true
  | .updateProfile params body file =>
      file.bind UploadedFile.refusal? = none ∧
        (identifier? params).isSome = true ∧
        (newPassword? body).isSome = true
  | .removeUser params => (identifier? params).isSome = true

/-- A request with everything that it needs. -/
def WellFormed : UserRequest → Prop
  | .getProfile params _ => (identifier? params).isSome = true
  | .updateProfile params body file =>
      (identifier? params).isSome = true ∧
        (newPassword? body).isSome = true ∧
        ∃ sent, file = some sent ∧ sent.refusal? = none
  | .removeUser params => (identifier? params).isSome = true

end UserRequest

namespace UserRequest

variable {request : UserRequest}

/-- The pipes do not stop a well-formed request. -/
theorem WellFormed.acceptable
    (wellFormed : request.WellFormed) :
    request.Acceptable := by
  cases request with
  | getProfile params now => exact wellFormed
  | updateProfile params body file =>
      obtain ⟨hasId, hasPassword, sent, rfl, notRefused⟩ := wellFormed
      exact ⟨notRefused, hasId, hasPassword⟩
  | removeUser params => exact wellFormed

/-- Only a well-formed request asks for a write. -/
theorem wellFormed_of_write?
    {write : UserService.Write}
    (writes : request.write? = some write) :
    request.WellFormed := by
  cases request with
  | getProfile params now => cases writes
  | updateProfile params body file =>
      simp only [write?] at writes
      split at writes
      · rename_i id password sent foundId foundPassword
        split at writes
        · rename_i notRefused
          exact ⟨by rw [foundId]; rfl, by rw [foundPassword]; rfl, sent, rfl,
            notRefused⟩
        · cases writes
      · cases writes
  | removeUser params =>
      obtain ⟨id, foundId, -⟩ := Option.map_eq_some_iff.mp writes
      exact Option.isSome_iff_exists.mpr ⟨id, foundId⟩

end UserRequest

namespace Incoming

/-- The request without the properties that nothing asks for. -/
def stripped (incoming : Incoming) : Incoming :=
  { incoming with request := incoming.request.stripped }

/-- A request with everything that it needs, whose query does not fail. -/
def Succeeds (incoming : Incoming) : Prop :=
  incoming.queryError = none ∧ incoming.request.WellFormed

/-- The write of a request that succeeds. -/
def write? (incoming : Incoming) : Option UserService.Write :=
  if incoming.queryError.isNone then incoming.request.write? else none

/-- The profile that a request reads, if it succeeds, and when. -/
def reads? (incoming : Incoming) : Option (String × Nat) :=
  match incoming.request, incoming.queryError with
  | .getProfile params now, none =>
      (identifier? params).map fun id => (id, now)
  | _, _ => none

/-- Only a request that succeeds reads a profile. -/
theorem succeeds_of_reads?
    {incoming : Incoming}
    {read : String × Nat}
    (reads : incoming.reads? = some read) :
    incoming.Succeeds := by
  obtain ⟨request, noticed, queryError⟩ := incoming
  unfold reads? at reads
  split at reads
  case h_2 => cases reads
  rename_i params now isGet isNone
  simp only at isGet isNone
  subst isGet isNone
  obtain ⟨id, isId, -⟩ := Option.map_eq_some_iff.mp reads
  exact ⟨rfl, Option.isSome_iff_exists.mpr ⟨id, isId⟩⟩

end Incoming

/-! ## What the pipes accept -/

/-- A class with one property that is not converted. -/
theorem transform_single
    {property : ExposedProperty}
    {distinct : ([property].map ExposedProperty.name).Nodup}
    (unconverted : property.convert = id)
    (noDefault : property.default = .undefined)
    (value : JsonObject) :
    ValidationPipe.transform ⟨[property], distinct⟩ value =
      let given := PropertyValue.ofProperty (value property.name)
      match property.error? true given with
      | none => .ok [(property.name, given)]
      | some error => .error [error] := by
  have isGiven :
      property.valueOf true
          (PropertyValue.ofProperty (value property.name)) =
        PropertyValue.ofProperty (value property.name) := by
    cases value property.name with
    | none => exact noDefault
    | some found =>
        simp [PropertyValue.ofProperty, ExposedProperty.valueOf,
          unconverted]
  have own :
      Instance.get
          [(property.name, PropertyValue.ofProperty (value property.name))]
          property.name =
        PropertyValue.ofProperty (value property.name) := by
    simp [Instance.get]
  simp only [ValidationPipe.transform, ExposedClass.transform,
    ExposedClass.plainToInstance, ExposedClass.validate, List.map_cons,
    List.map_nil, isGiven, List.filterMap_cons, List.filterMap_nil, own]
  cases property.error? true
      (PropertyValue.ofProperty (value property.name)) with
  | none => rfl
  | some error => rfl

namespace UserController

/-- The pipe of such a class rejects what the property does not accept. -/
theorem failureOf_single
    {property : ExposedProperty}
    {distinct : ([property].map ExposedProperty.name).Nodup}
    (unconverted : property.convert = id)
    (noDefault : property.default = .undefined)
    (value : JsonObject) :
    (failureOf ⟨[property], distinct⟩ value).isSome =
      !property.accepts (PropertyValue.ofProperty (value property.name)) := by
  unfold failureOf
  rw [transform_single unconverted noDefault]
  simp only [ExposedProperty.error?]
  cases property.accepts
      (PropertyValue.ofProperty (value property.name)) with
  | true => rfl
  | false => rfl

/-- The pipe of an identifier accepts it, or there is none. -/
theorem accepted_identifier
    {params : JsonObject}
    {id : String}
    (found : identifier? params = some id) :
    failureOf identifierParam params = none ∧
      accepted identifierParam params "id" = id := by
  have given : params "id" = some (.str id) ∧ id ≠ "" := by
    unfold identifier? at found
    split at found
    · rename_i text isText
      split at found
      · cases found
      · rename_i notEmpty
        obtain rfl := Option.some.inj found
        exact ⟨isText, notEmpty⟩
    · cases found
  have transformed :
      ValidationPipe.transform identifierParam params =
        .ok [("id", .json (.str id))] := by
    unfold identifierParam
    rw [transform_single rfl rfl]
    simp [given.1, PropertyValue.ofProperty, ExposedProperty.error?,
      ExposedProperty.accepts, PropertyCheck.isNotEmpty,
      PropertyCheck.isString, PropertyValue.isNotEmpty,
      PropertyValue.isString, Json.isString, given.2]
  unfold failureOf accepted
  rw [transformed]
  exact ⟨rfl, rfl⟩

/-- Without an identifier the pipe rejects. -/
theorem rejected_identifier
    {params : JsonObject}
    (missing : identifier? params = none) :
    (failureOf identifierParam params).isSome = true := by
  unfold identifierParam
  rw [failureOf_single rfl rfl]
  unfold identifier? at missing
  cases given : params "id" with
  | none => rfl
  | some value =>
      cases value with
      | str id =>
          simp only [given, ite_eq_left_iff, reduceCtorEq, imp_false,
            not_not] at missing
          rw [missing]
          rfl
      | null => rfl
      | bool value => rfl
      | num value text => rfl
      | arr elements => rfl
      | obj properties => rfl

/-- The pipe of the body accepts a password. -/
theorem accepted_password
    {body : JsonObject}
    {password : String}
    (found : newPassword? body = some password) :
    failureOf UpdateProfileBodyDTO.exposed body = none ∧
      accepted UpdateProfileBodyDTO.exposed body "password" = password := by
  have given : body "password" = some (.str password) := by
    unfold newPassword? at found
    split at found
    · rename_i text isText
      obtain rfl := Option.some.inj found
      exact isText
    · cases found
  have transformed :
      ValidationPipe.transform UpdateProfileBodyDTO.exposed body =
        .ok [("password", .json (.str password))] := by
    unfold UpdateProfileBodyDTO.exposed
    rw [transform_single rfl rfl]
    simp [given, PropertyValue.ofProperty, ExposedProperty.error?,
      ExposedProperty.accepts, PropertyCheck.isString,
      PropertyValue.isString, Json.isString]
  unfold failureOf accepted
  rw [transformed]
  exact ⟨rfl, rfl⟩

/-- Without a password the pipe rejects. -/
theorem rejected_password
    {body : JsonObject}
    (missing : newPassword? body = none) :
    (failureOf UpdateProfileBodyDTO.exposed body).isSome = true := by
  unfold UpdateProfileBodyDTO.exposed
  rw [failureOf_single rfl rfl]
  unfold newPassword? at missing
  cases given : body "password" with
  | none => rfl
  | some value =>
      cases value with
      | str password => simp [given] at missing
      | null => rfl
      | bool value => rfl
      | num value text => rfl
      | arr elements => rfl
      | obj properties => rfl

/-! ## One request -/

/-- What the pipes accept. -/
theorem pipeFailures_eq_nil_iff
    (request : UserRequest) :
    pipeFailures request = [] ↔ request.Acceptable := by
  have identifier :
      ∀ params,
        failureOf identifierParam params = none ↔
          (identifier? params).isSome = true := by
    intro params
    cases found : identifier? params with
    | some id => simp [(accepted_identifier found).1]
    | none =>
        have rejects := rejected_identifier found
        simp only [Option.isSome_none, Bool.false_eq_true, iff_false]
        intro accepts
        rw [accepts] at rejects
        cases rejects
  have password :
      ∀ body,
        failureOf UpdateProfileBodyDTO.exposed body = none ↔
          (newPassword? body).isSome = true := by
    intro body
    cases found : newPassword? body with
    | some password => simp [(accepted_password found).1]
    | none =>
        have rejects := rejected_password found
        simp only [Option.isSome_none, Bool.false_eq_true, iff_false]
        intro accepts
        rw [accepts] at rejects
        cases rejects
  cases request with
  | getProfile params now =>
      simp [pipeFailures, GetProfileParamDTO, UserRequest.Acceptable,
        identifier]
  | updateProfile params body file =>
      simp [pipeFailures, UpdateProfileParamDTO, UserRequest.Acceptable,
        identifier, password]
  | removeUser params =>
      simp [pipeFailures, RemoveUserParamDTO, UserRequest.Acceptable,
        identifier]

/-- A request with a pipe that rejects is answered without the handler. -/
theorem handle_of_failures
    (incoming : Incoming)
    (fails : pipeFailures incoming.request ≠ [])
    (state : UserService.State) :
    ∃ failure : PipeFailure,
      handle incoming state =
        (.error (.httpException failure.exception), state) := by
  unfold handle
  cases failures : pipeFailures incoming.request with
  | nil => exact absurd failures fails
  | cons first rest => exact ⟨_, rfl⟩

/-- What the handler is left to do when all pipes accept. -/
theorem handle_of_accepted
    {incoming : Incoming}
    (accepts : pipeFailures incoming.request = [])
    (state : UserService.State) :
    handle incoming state =
      handler incoming.queryError state incoming.request := by
  unfold handle
  rw [accepts]

/-- What a request does, with the answer that it gets. -/
inductive Outcome
    (incoming : Incoming)
    (state : UserService.State) :
    Except Thrown (Option Json) × UserService.State → Prop where
  | failed
      (fails : ¬ incoming.Succeeds)
      (writesNone : incoming.write? = none)
      (thrown : Thrown)
      (badRequest :
        ∀ exception,
          thrown = .httpException exception → exception.status = 400) :
      Outcome incoming state (.error thrown, state)
  | read
      (writesNone : incoming.write? = none)
      (id : String)
      (now : Nat)
      (reads : incoming.reads? = some (id, now)) :
      Outcome incoming state
        (.ok (some (((UserService.getProfile id now state).1.map
            profileJson).getD .null)),
          (UserService.getProfile id now state).2)
  | wrote
      (succeeds : incoming.Succeeds)
      (readsNone : incoming.reads? = none)
      (write : UserService.Write)
      (writes : incoming.write? = some write)
      (data : Option Json) :
      Outcome incoming state
        (.ok data, { state with source := write.apply state.source })

/-- Every request has one of these outcomes. -/
theorem handle_outcome
    (incoming : Incoming)
    (state : UserService.State) :
    Outcome incoming state (handle incoming state) := by
  obtain ⟨request, noticed, queryError⟩ := incoming
  by_cases accepts : pipeFailures request = []
  · rw [handle_of_accepted accepts]
    have asked := (pipeFailures_eq_nil_iff request).mp accepts
    cases request with
    | getProfile params now =>
        cases queryError with
        | some error =>
            exact .failed (fun succeeds => by cases succeeds.1) rfl _
              (fun _ isHttp => by cases isHttp)
        | none =>
            obtain ⟨id, foundId⟩ := Option.isSome_iff_exists.mp asked
            simp only [handler, GetProfileParamDTO,
              (accepted_identifier foundId).2]
            exact .read rfl id now (by simp [Incoming.reads?, foundId])
    | updateProfile params body file =>
        obtain ⟨fileAccepted, hasId, hasPassword⟩ := asked
        obtain ⟨id, foundId⟩ := Option.isSome_iff_exists.mp hasId
        obtain ⟨password, foundPassword⟩ :=
          Option.isSome_iff_exists.mp hasPassword
        cases file with
        | none =>
            refine .failed ?_ ?_ _ (fun _ isHttp => by cases isHttp)
            · rintro ⟨-, -, -, sent, isSent, -⟩
              cases isSent
            · simp [Incoming.write?, UserRequest.write?]
        | some file =>
            have notRefused : file.refusal? = none := fileAccepted
            cases queryError with
            | some error =>
                exact .failed (fun succeeds => by cases succeeds.1) rfl _
                  (fun _ isHttp => by cases isHttp)
            | none =>
                have succeeds :
                    Incoming.Succeeds
                      ⟨.updateProfile params body (some file), noticed,
                        none⟩ :=
                  ⟨rfl, hasId, hasPassword, file, rfl, notRefused⟩
                have writes :
                    Incoming.write?
                        ⟨.updateProfile params body (some file), noticed,
                          none⟩ =
                      some (.update id { password := some password }) := by
                  simp [Incoming.write?, UserRequest.write?, foundId,
                    foundPassword, notRefused]
                simp only [handler, UpdateProfileParamDTO,
                  (accepted_identifier foundId).2,
                  (accepted_password foundPassword).2]
                exact .wrote succeeds rfl _ writes _
    | removeUser params =>
        obtain ⟨id, foundId⟩ := Option.isSome_iff_exists.mp asked
        cases queryError with
        | some error =>
            exact .failed (fun succeeds => by cases succeeds.1) rfl _
              (fun _ isHttp => by cases isHttp)
        | none =>
            have succeeds :
                Incoming.Succeeds ⟨.removeUser params, noticed, none⟩ :=
              ⟨rfl, asked⟩
            have writes :
                Incoming.write? ⟨.removeUser params, noticed, none⟩ =
                  some (.remove id) := by
              simp [Incoming.write?, UserRequest.write?, foundId]
            simp only [handler, RemoveUserParamDTO,
              (accepted_identifier foundId).2]
            exact .wrote succeeds rfl _ writes _
  · obtain ⟨failure, answered⟩ :=
      handle_of_failures ⟨request, noticed, queryError⟩ accepts state
    rw [answered]
    rw [pipeFailures_eq_nil_iff] at accepts
    refine .failed ?_ ?_ _ ?_
    · rintro ⟨-, wellFormed⟩
      exact accepts wellFormed.acceptable
    · unfold Incoming.write?
      split
      · rw [← Option.not_isSome_iff_eq_none]
        intro hasWrite
        obtain ⟨write, writes⟩ := Option.isSome_iff_exists.mp hasWrite
        exact accepts (UserRequest.wellFormed_of_write? writes).acceptable
      · rfl
    · intro exception isHttp
      obtain rfl := Thrown.httpException.inj isHttp
      exact failure.exception_status

/-! ## What else is in a request -/

/-- A pipe does not look at other properties. -/
theorem transform_stripped
    {cls : ExposedClass}
    {name : String}
    (only : cls.properties.map ExposedProperty.name = [name])
    (value : JsonObject) :
    ValidationPipe.transform cls
        (fun other => if other = name then value name else none) =
      ValidationPipe.transform cls value := by
  apply ExposedClass.transform_congr
  intro other member
  rw [only, List.mem_singleton] at member
  subst member
  simp only [if_true]

/-- No request does anything with properties that it was not asked for. -/
theorem handle_stripped
    (incoming : Incoming)
    (state : UserService.State) :
    handle incoming.stripped state = handle incoming state := by
  have identifier :
      ∀ params : JsonObject,
        ValidationPipe.transform identifierParam
            (fun other => if other = "id" then params "id" else none) =
          ValidationPipe.transform identifierParam params :=
    transform_stripped rfl
  have password :
      ∀ body : JsonObject,
        ValidationPipe.transform UpdateProfileBodyDTO.exposed
            (fun other =>
              if other = "password" then body "password" else none) =
          ValidationPipe.transform UpdateProfileBodyDTO.exposed body :=
    transform_stripped rfl
  obtain ⟨request, noticed, queryError⟩ := incoming
  cases request with
  | getProfile params now =>
      simp only [handle, handler, pipeFailures, failureOf, accepted,
        Incoming.stripped, UserRequest.stripped, GetProfileParamDTO,
        identifier]
  | updateProfile params body file =>
      simp only [handle, handler, pipeFailures, failureOf, accepted,
        Incoming.stripped, UserRequest.stripped, UpdateProfileParamDTO,
        identifier, password]
  | removeUser params =>
      simp only [handle, handler, pipeFailures, failureOf, accepted,
        Incoming.stripped, UserRequest.stripped, RemoveUserParamDTO,
        identifier]

/-! ## Whole runs -/

/--
What some writes make of the row of an identifier: the last password that they
give, and whether they remove it.
-/
def rowAfter
    (id : String)
    (writes : List UserService.Write)
    (row : UserRow) : UserRow where
  columns :=
    { email := row.columns.email
      password :=
        (UserService.lastPassword id writes).getD row.columns.password }
  deleted := row.deleted || decide (.remove id ∈ writes)

/-- What one write makes of a row. -/
theorem row_apply
    (write : UserService.Write)
    (rows : UserRows)
    (id : String) :
    write.apply rows id = (rows id).map (rowAfter id [write]) := by
  by_cases same : id = write.target
  · subst same
    cases write with
    | update id body =>
        simp only [UserService.Write.target, UserService.Write.apply,
          UserRepository.sqlUpdate]
        cases found : rows id with
        | none => simpa using found
        | some row =>
            simp [rowAfter, UserService.lastPassword]
    | remove id =>
        simp only [UserService.Write.target, UserService.Write.apply,
          UserRepository.sqlSoftDelete]
        cases found : rows id with
        | none => simpa using found
        | some row => simp [rowAfter, UserService.lastPassword]
  · rw [UserService.Write.apply_other same]
    have unchanged : rowAfter id [write] = (fun row => row) := by
      funext row
      cases write with
      | update other body =>
          have different : ¬ other = id := fun isSame => same isSame.symm
          simp [rowAfter, UserService.lastPassword, different]
      | remove other =>
          have different : ¬ id = other := same
          simp [rowAfter, UserService.lastPassword, different]
    rw [unchanged, Option.map_id']

/-- What some writes make of a row. -/
theorem row_foldl
    (writes : List UserService.Write)
    (rows : UserRows)
    (id : String) :
    writes.foldl UserService.Write.apply rows id =
      (rows id).map (rowAfter id writes) := by
  induction writes generalizing rows with
  | nil =>
      rw [List.foldl_nil]
      cases rows id with
      | none => rfl
      | some row => simp [rowAfter, UserService.lastPassword]
  | cons write rest inductionHypothesis =>
      rw [List.foldl_cons, inductionHypothesis, row_apply, Option.map_map]
      congr 1
      funext row
      cases write with
      | update other body =>
          cases last : UserService.lastPassword id rest with
          | none => simp [rowAfter, UserService.lastPassword, last]
          | some password =>
              simp [rowAfter, UserService.lastPassword, last]
      | remove other =>
          simp [rowAfter, UserService.lastPassword, Bool.or_assoc]

/-- The table after some requests. -/
theorem handleAll_source
    (state : UserService.State)
    (requests : List Incoming) :
    (handleAll state requests).source =
      (requests.filterMap Incoming.write?).foldl UserService.Write.apply
        state.source := by
  induction requests generalizing state with
  | nil => rfl
  | cons incoming rest inductionHypothesis =>
      have first :
          (handle incoming state).2.source =
            (incoming.write?.toList).foldl UserService.Write.apply
              state.source := by
        have outcome := handle_outcome incoming state
        generalize handle incoming state = answer at outcome
        cases outcome with
        | failed fails writesNone thrown badRequest =>
            rw [writesNone]
            rfl
        | read writesNone id now reads =>
            rw [writesNone]
            exact ReadThrough.read_source ..
        | wrote succeeds readsNone write writes data =>
            rw [writes]
            rfl
      have all :
          handleAll state (incoming :: rest) =
            handleAll (handle incoming state).2 rest := rfl
      rw [all, inductionHypothesis, first]
      cases writes : incoming.write? with
      | none => rw [List.filterMap_cons_none writes]; rfl
      | some write => rw [List.filterMap_cons_some writes]; rfl

/-- The status of an answer, and what is left where it is not 200. -/
theorem reply_status
    (showDebugError : Bool)
    (incoming : Incoming)
    (state : UserService.State) :
    ((reply showDebugError incoming state).status = 200 ↔
        incoming.Succeeds) ∧
      (¬ incoming.Succeeds → (handle incoming state).2 = state) := by
  have outcome := handle_outcome incoming state
  unfold reply
  generalize handle incoming state = answer at outcome
  cases outcome with
  | failed fails writesNone thrown badRequest =>
      refine ⟨iff_of_false ?_ fails, fun _ => rfl⟩
      cases thrown with
      | httpException exception =>
          have isBad : exception.status = 400 := badRequest exception rfl
          simp [ExampleResponseInterceptor.intercept, isBad]
      | error error =>
          simp [ExampleResponseInterceptor.intercept,
            ExampleResponseInterceptor.errorCode]
  | read writesNone id now reads =>
      have succeeds := Incoming.succeeds_of_reads? reads
      exact ⟨iff_of_true rfl succeeds, fun fails => absurd succeeds fails⟩
  | wrote succeeds readsNone write writes data =>
      exact ⟨iff_of_true rfl succeeds, fun fails => absurd succeeds fails⟩

end UserController

/--
After any requests that the throttler lets through, whatever is in their
parameters, bodies and files, every row is there with its email, has the last
password that a well-formed request gave it, and is removed exactly if such a
request removed it.  A request is answered with status 200 if and only if it is
well-formed and its query does not fail, leaves everything as it was otherwise,
and does the same without the properties that nothing asks for.
-/
theorem profiles_kept
    (showDebugError : Bool)
    (rows : UserRows)
    (requests : List Incoming) :
    let state :=
      UserController.handleAll (ReadThrough.fresh rows) requests
    (∀ id,
      state.source id =
        (rows id).map
          (UserController.rowAfter id
            (requests.filterMap Incoming.write?))) ∧
      ∀ incoming,
        ((UserController.reply showDebugError incoming state).status =
              200 ↔
            incoming.Succeeds) ∧
          (¬ incoming.Succeeds →
            (UserController.handle incoming state).2 = state) ∧
          UserController.handle incoming.stripped state =
            UserController.handle incoming state := by
  intro state
  constructor
  · intro id
    have source :=
      UserController.handleAll_source (ReadThrough.fresh rows) requests
    rw [source]
    exact UserController.row_foldl _ rows id
  · intro incoming
    obtain ⟨status, unchanged⟩ :=
      UserController.reply_status showDebugError incoming state
    exact ⟨status, unchanged,
      UserController.handle_stripped incoming state⟩

end NestBackend
