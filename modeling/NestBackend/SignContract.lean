import NestBackend.JwtGuard
import NestBackend.PermissionInterceptor

namespace NestBackend

open JavaScript

/-!
# Signing a contract

`SignContractService` and the three requests of `SignContractController`.  The
source leaves out what the handlers do besides their call of the session
service; that part is a parameter which either succeeds or throws, and an
error is not answered with the code of a success.
-/

/-- The outcome of what a handler does before it touches the session. -/
structure HandlerWork where
  outcome : Except Failure Unit
  notSuccess :
    ∀ failure,
      outcome = .error failure →
        (BaseResponseInterceptor.errorResponse failure).systemCode ≠
          .success

namespace SignContractService

/-- The flow type of this service. -/
def flow : FlowType := .octo .signContract

/--
`plainToInstance(SignContractSession, { contractId, otpId })` with exposed
defaults: every exposed property is an own property of the instance.
-/
def signContractSession (contractId otpId : String) : Properties
  | "type" => some (some (.str flow.text))
  | "permissions" => some (some (.arr []))
  | "contractId" => some (some (.str contractId))
  | "otpId" => some (some (.str otpId))
  | "selfieId" => some none
  | _ => none

/-- `{ selfieId, type: OCTO_FLOW_TYPE.SIGN_CONTRACT }`. -/
def checkedSelfie (selfieId : String) : Properties
  | "selfieId" => some (some (.str selfieId))
  | "type" => some (some (.str flow.text))
  | _ => none

/-- `requestOtp`. -/
def requestOtp
    (work : HandlerWork)
    (contractId otpId : String)
    (tokenPayload : BaseJwtPayload) : SessionProgram Unit :=
  match work.outcome with
  | .error failure => throw failure
  | .ok () => do
      let _ ← AuthSessionService.addFlowSession
        tokenPayload.sessionBoundId (signContractSession contractId otpId)
        tokenPayload.sessionChannel
      return ()

/-- `checkOtp`. -/
def checkOtp
    (work : HandlerWork)
    (_tokenPayload : BaseJwtPayload) : SessionProgram Unit :=
  match work.outcome with
  | .error failure => throw failure
  | .ok () => return ()

/-- `checkSelfie`. -/
def checkSelfie
    (work : HandlerWork)
    (selfieId : String)
    (tokenPayload : BaseJwtPayload) : SessionProgram Unit :=
  match work.outcome with
  | .error failure => throw failure
  | .ok () => do
      let _ ← AuthSessionService.updateFlowSession
        tokenPayload.sessionBoundId (checkedSelfie selfieId)
        tokenPayload.sessionChannel
      return ()

end SignContractService

/-- A request to the controller, with the values that its handler draws. -/
inductive SignContractRequest where
  | requestOtp (work : HandlerWork) (contractId otpId : String)
  | checkOtp (work : HandlerWork)
  | checkSelfie (work : HandlerWork) (selfieId : String)

namespace SignContractController

/-- The controller class carries no permission metadata. -/
def classMetadata : GuardMetadata where
  permission := none
  flowPermission := none

/-- The parameters of the guard that all three handlers use. -/
def guardParams : GuardParams where
  allowTokens := .anyOf [.userJwtPayload]
  allowSessions := some (.anyOf [.userSession])
  needVerifyJwtSignature := false

end SignContractController

namespace SignContractRequest

/-- What a handler requires of the flow session. -/
def required : SignContractRequest → Option (List FlowPermission)
  | .requestOtp _ _ _ => none
  | .checkOtp _ => some [.signContract .otpRequested]
  | .checkSelfie _ _ =>
      some [.signContract .otpRequested, .signContract .otpVerified]

/-- What a handler provides. -/
def provided : SignContractRequest → List FlowPermission
  | .requestOtp _ _ _ => [.signContract .otpRequested]
  | .checkOtp _ => [.signContract .otpVerified]
  | .checkSelfie _ _ => [.signContract .selfieVerified]

/-- `FlowPermissionGuard` of the handler. -/
def flowMetadata (request : SignContractRequest) : FlowPermissionMetadata where
  flow := SignContractService.flow
  providePermissions := some request.provided
  requiredPermissions := request.required

/-- The metadata of the handler. -/
def metadata (request : SignContractRequest) : GuardMetadata where
  permission := none
  flowPermission := some request.flowMetadata

/-- The handler.  The parameter decorators pass on what the guard checked. -/
def handler
    (tokenPayload : BaseJwtPayload) :
    SignContractRequest → SessionProgram Unit
  | .requestOtp work contractId otpId =>
      SignContractService.requestOtp work contractId otpId tokenPayload
  | .checkOtp work => SignContractService.checkOtp work tokenPayload
  | .checkSelfie work selfieId =>
      SignContractService.checkSelfie work selfieId tokenPayload

/-- The whole request: guard, permission check, handler, grant. -/
def program
    (env : CoreEnvironment)
    (jwt : JwtService)
    (http : GuardRequest)
    (request : SignContractRequest) :
    SessionProgram (Option ResponseDTO) := do
  let admission ← JwtGuard.canActivate env jwt
    SignContractController.guardParams http
  PermissionInterceptor.intercept
    (SignContractController.classMetadata.orElse request.metadata)
    admission.session
    (BaseResponseInterceptor.intercept (request.handler admission.user))

end SignContractRequest

end NestBackend
