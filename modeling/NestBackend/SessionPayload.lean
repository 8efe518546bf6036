import NestBackend.JavaScript

namespace NestBackend

open JavaScript

/-!
# Session payloads

The enumerations of `jwt-session.payload.ts` and `flow-session.payload.ts`, the
session classes that a guard can ask for, and `validateSession`.
-/

/-- `SESSION_TYPE`. -/
inductive SessionType where
  | userSession
  | sbsClientSession
  | iwpUserSession
  | cipUserSession
  | agentUserSession
  | fundTransferSession
  | partnerSession
  | partnerUserSession
  | ecdfcpUserSession
  | oldTokenSession
  | octoWebSession
  | octoWebAdvancedSession
  | agentSession
  | signContractSession
  | octoGuestSession
  | octoBasicUserSession
  deriving DecidableEq, Repr

/-- `USER_PERMISSION`, the only permissions a session can hold. -/
inductive UserPermission where
  | otpVerified
  | uploadImagePrivate
  | forgotPassword
  deriving DecidableEq, Repr

/-- `OCTO_FLOW_TYPE`. -/
inductive OctoFlowType where
  | signContract
  | fundTransfer
  | inquiryStatus
  | withdrawalDeposit
  | activeBiometric
  | verifyBiometric
  | createAccount
  | forgotPassword
  deriving DecidableEq, Repr

/-- `PARTNER_FLOW_TYPE`. -/
inductive PartnerFlowType where
  | signContract
  | linkType3
  deriving DecidableEq, Repr

/-- `FLOW_TYPE`. -/
inductive FlowType where
  | octo (type : OctoFlowType)
  | partner (type : PartnerFlowType)
  deriving DecidableEq, Repr

/-- `SIGN_CONTRACT_FLOW_PERMISSION`. -/
inductive SignContractFlowPermission where
  | otpRequested
  | otpVerified
  | selfieVerified
  | initContract
  deriving DecidableEq, Repr

/-- `FUND_TRANSFER_FLOW_PERMISSION`. -/
inductive FundTransferFlowPermission where
  | inquiryAccount
  deriving DecidableEq, Repr

/-- `WITHDRAWAL_DEPOSIT_FLOW_PERMISSION`. -/
inductive WithdrawalDepositFlowPermission where
  | requestWithdrawalDeposit
  | verifiedOtpWithdrawalDeposit
  deriving DecidableEq, Repr

/-- `FLOW_PERMISSION`. -/
inductive FlowPermission where
  | signContract (permission : SignContractFlowPermission)
  | fundTransfer (permission : FundTransferFlowPermission)
  | withdrawalDeposit (permission : WithdrawalDepositFlowPermission)
  deriving DecidableEq, Repr

/-! ## Enumeration values -/

def SessionType.text : SessionType → String
  | .userSession => "USER_SESSION"
  | .sbsClientSession => "SBS_CLIENT_SESSION"
  | .iwpUserSession => "IWP_USER_SESSION"
  | .cipUserSession => "CIP_USER_SESSION"
  | .agentUserSession => "AGENT_USER_SESSION"
  | .fundTransferSession => "FUND_TRANSFER_SESSION"
  | .partnerSession => "PARTNER_SESSION"
  | .partnerUserSession => "PARTNER_USER_SESSION"
  | .ecdfcpUserSession => "ECDFCP_USER_SESSION"
  | .oldTokenSession => "OLD_TOKEN_SESSION"
  | .octoWebSession => "OCTO_WEB_SESSION"
  | .octoWebAdvancedSession => "OCTO_WEB_ADVANCED_SESSION"
  | .agentSession => "AGENT_SESSION"
  | .signContractSession => "SIGN_CONTRACT_SESSION"
  | .octoGuestSession => "OCTO_GUEST_SESSION"
  | .octoBasicUserSession => "OCTO_BASIC_USER_SESSION"

def UserPermission.text : UserPermission → String
  | .otpVerified => "OTP_VERIFIED"
  | .uploadImagePrivate => "UPLOAD_IMAGE_PRIVATE"
  | .forgotPassword => "FORGOT_PASSWORD"

def OctoFlowType.text : OctoFlowType → String
  | .signContract => "SIGN_CONTRACT"
  | .fundTransfer => "FUND_TRANSFER"
  | .inquiryStatus => "INQUIRY_STATUS"
  | .withdrawalDeposit => "WITHDRAWAL_DEPOSIT"
  | .activeBiometric => "ACTIVE_BIOMETRIC"
  | .verifyBiometric => "VERIFY_BIOMETRIC"
  | .createAccount => "CREATE_ACCOUNT"
  | .forgotPassword => "FORGOT_PASSWORD"

def PartnerFlowType.text : PartnerFlowType → String
  | .signContract => "SIGN_CONTRACT"
  | .linkType3 => "LINK_TYPE_3"

def FlowType.text : FlowType → String
  | .octo type => type.text
  | .partner type => type.text

def SignContractFlowPermission.text : SignContractFlowPermission → String
  | .otpRequested => "OTP_REQUESTED"
  | .otpVerified => "OTP_VERIFIED"
  | .selfieVerified => "SELFIE_VERIFIED"
  | .initContract => "INIT_CONTRACT"

def FundTransferFlowPermission.text : FundTransferFlowPermission → String
  | .inquiryAccount => "INQUIRY_ACCOUNT"

def WithdrawalDepositFlowPermission.text :
    WithdrawalDepositFlowPermission → String
  | .requestWithdrawalDeposit => "REQUEST_WITHDRAWAL_DEPOSIT"
  | .verifiedOtpWithdrawalDeposit => "VERIFIED_OTP_WITHDRAWAL_DEPOSIT"

def FlowPermission.text : FlowPermission → String
  | .signContract permission => permission.text
  | .fundTransfer permission => permission.text
  | .withdrawalDeposit permission => permission.text

/-- Every member of `USER_PERMISSION`. -/
def UserPermission.all : List UserPermission :=
  [.otpVerified, .uploadImagePrivate, .forgotPassword]

/-! ## Session classes -/

/-- The concrete session classes. -/
inductive SessionClass where
  | userSession
  | octoWebUserSession
  | octoGuestSession
  | fundTransferSession
  deriving DecidableEq, Repr

namespace SessionClass

/-- The class field `type`. -/
def type : SessionClass → SessionType
  | .userSession => .userSession
  | .octoWebUserSession => .octoWebSession
  | .octoGuestSession => .octoGuestSession
  | .fundTransferSession => .fundTransferSession

/-- The properties with the validator `IsString`. -/
def textProperties : SessionClass → List String
  | .userSession => ["key", "userId"]
  | .octoWebUserSession =>
      ["key", "userId", "partner_id", "partner_userId"]
  | .octoGuestSession => ["key", "deviceId", "deviceName"]
  | .fundTransferSession => ["key", "userId", "cus_no"]

/-- `IsEnum(USER_PERMISSION)` on one value. -/
def isUserPermission (value : Json) : Bool :=
  UserPermission.all.any fun permission => value.isText permission.text

/-- The same with `each: true`, which also takes a value that is no array. -/
def eachUserPermission : Option Json → Bool
  | some (.arr elements) => elements.all isUserPermission
  | some value => isUserPermission value
  | none => false

/-- `IsArray`. -/
def isArray : Option Json → Bool
  | some (.arr _) => true
  | _ => false

/--
The validators on `permissions`.  A class that repeats the property replaces
the inherited validators; `FundTransferSession` inherits them from both of its
ancestors.
-/
def permissionsValid (permissions : Option Json) : SessionClass → Bool
  | .userSession => eachUserPermission permissions
  | .octoWebUserSession => eachUserPermission permissions
  | .octoGuestSession => isArray permissions
  | .fundTransferSession =>
      eachUserPermission permissions && isArray permissions

/-- The validators `IsNumber` and `IsOptional` on `time`. -/
def timeValid (time : Option Json) : SessionClass → Bool
  | .octoGuestSession =>
      match time with
      | none => true
      | some .null => true
      | some value => value.isNumber
  | _ => true

/-- No validator of the class objects to the session. -/
def valid (sessionClass : SessionClass) (session : JsonObject) : Bool :=
  (sessionClass.textProperties.all fun name =>
      (session name).any Json.isString) &&
    sessionClass.permissionsValid (session "permissions") &&
    sessionClass.timeValid (session "time") &&
    (session "type").any (Json.isText sessionClass.type.text)

end SessionClass

/-- The operator `==` between a string and a possibly undefined value. -/
def looselyEquals (text : String) : Option Json → Bool
  | some (.str other) => other == text
  | some (.arr elements) => (Json.arr elements).templateText == text
  | some (.obj properties) => (Json.obj properties).templateText == text
  | some (.bool value) => Json.toNumber (.str text) = Json.toNumber (.bool value)
  | some (.num value numeral) =>
      Json.toNumber (.str text) = Json.toNumber (.num value numeral)
  | _ => false

/-- The parameter `allowSessions`: one class or an array of classes. -/
inductive AllowedSessions where
  | one (sessionClass : SessionClass)
  | anyOf (sessionClasses : List SessionClass)

/-- The class that `validateSession` checks against. -/
def AllowedSessions.select
    (allowed : AllowedSessions)
    (session : JsonObject) : Option SessionClass :=
  match allowed with
  | .one sessionClass => some sessionClass
  | .anyOf sessionClasses =>
      sessionClasses.find? fun sessionClass =>
        looselyEquals sessionClass.type.text (session "type")

/-- `validateSession` returns, and does not throw. -/
def validateSession
    (session : JsonObject)
    (allowed : AllowedSessions) : Bool :=
  match allowed.select session with
  | none => false
  | some sessionClass =>
      (session "type").any (Json.isText sessionClass.type.text) &&
        sessionClass.valid session

end NestBackend
