import Gatehouse.Data.Value
import Gatehouse.Audit.Event
import Gatehouse.Wire.Verdict
import Gatehouse.Data.ToValue
/-!
Messages: what the user is told about a login, as keys of texts with variables for them. Also the two
tables that say, for each verdict of an authenticator, what is told and what is logged.
-/

namespace Gatehouse

/-- What the user is told. -/
inductive LoginMessage where
  | failedToAuthenticate
  | wrongUsernameOrPassword
  | accountDisabled
  | accountExpired
  | authTimedOut
  | passwordExpired
  | passwordExpiredWithUrl
  | passwordExpiredWithMessage
  | userMustExistInDirectory
  | notAuthorizedToPerformAction
deriving DecidableEq, Repr, Inhabited

namespace LoginMessage

/-- Every message. -/
def all : List LoginMessage := [
  failedToAuthenticate, wrongUsernameOrPassword, accountDisabled, accountExpired, authTimedOut,
  passwordExpired, passwordExpiredWithUrl, passwordExpiredWithMessage, userMustExistInDirectory,
  notAuthorizedToPerformAction]

/-- The key of a message's text. -/
def key : LoginMessage → String
  | failedToAuthenticate => "USER_FAILED_TO_AUTHENTICATE"
  | wrongUsernameOrPassword => "USER_FAILED_TO_AUTHENTICATE_WRONG_USERNAME_OR_PASSWORD"
  | accountDisabled => "USER_FAILED_TO_AUTHENTICATE_ACCOUNT_IS_LOCKED_OR_DISABLED"
  | accountExpired => "USER_FAILED_TO_AUTHENTICATE_ACCOUNT_EXPIRED"
  | authTimedOut => "USER_FAILED_TO_AUTHENTICATE_TIMED_OUT"
  | passwordExpired => "USER_PASSWORD_EXPIRED"
  | passwordExpiredWithUrl => "USER_PASSWORD_EXPIRED_CHANGE_URL_PROVIDED"
  | passwordExpiredWithMessage => "USER_PASSWORD_EXPIRED_CHANGE_MSG_PROVIDED"
  | userMustExistInDirectory => "USER_MUST_EXIST_IN_DIRECTORY"
  | notAuthorizedToPerformAction => "USER_NOT_AUTHORIZED_TO_PERFORM_ACTION"

/-- The name of a message in records. -/
def name : LoginMessage → String
  | failedToAuthenticate => "FAILED_TO_AUTHENTICATE"
  | wrongUsernameOrPassword => "WRONG_USERNAME_OR_PASSWORD"
  | accountDisabled => "ACCOUNT_DISABLED"
  | accountExpired => "ACCOUNT_EXPIRED"
  | authTimedOut => "AUTH_TIMED_OUT"
  | passwordExpired => "PASSWORD_EXPIRED"
  | passwordExpiredWithUrl => "PASSWORD_EXPIRED_WITH_URL"
  | passwordExpiredWithMessage => "PASSWORD_EXPIRED_WITH_MESSAGE"
  | userMustExistInDirectory => "USER_MUST_EXIST_IN_DIRECTORY"
  | notAuthorizedToPerformAction => "NOT_AUTHORIZED_TO_PERFORM_ACTION"

end LoginMessage

/-- A message and the values of its variables. -/
structure UserMessage where
  message : LoginMessage
  bindings : Table String String := ∅
deriving Inhabited

namespace UserMessage

/-- The variable for the place where credentials can be changed. -/
def urlVariable : String := "URL"

/-- The variable for what the authenticator says. -/
def textVariable : String := "MSG"

/-- Binds a variable to a value. -/
def withVariable (m : UserMessage) (name value : String) : UserMessage :=
  { m with bindings := m.bindings.insert name value }

/-- The value of a variable. -/
def value? (m : UserMessage) (name : String) : Option String := m.bindings.find? name

/-- A message as a record. -/
def toRecord (m : UserMessage) : Record := .ofList [
  ("message", .text m.message.name),
  ("variables", .record ⟨m.bindings.entries.map fun e => (e.1, .text e.2)⟩)]

instance : ToValue UserMessage := ⟨fun m => .record m.toRecord⟩

end UserMessage

namespace Wire.Verdict

/-- The event that tells in the audit trail why an authenticator refused. -/
def auditEvent? : Verdict → Option AuditEvent
  | credentialsExpired => some .passwordExpired
  | generalError => some .loginFailed
  | credentialsInvalid | credentialsIncorrect => some .invalidCredentials
  | accountLocked | accountDisabled | timedOut => some .disabledOrLocked
  | accountExpired => some .accountExpired
  | success | remoteUnavailable | unknown _ => none

/-- What the user is told when an authenticator refused. -/
def message : Verdict → LoginMessage
  | credentialsExpired => .passwordExpired
  | credentialsInvalid | credentialsIncorrect => .wrongUsernameOrPassword
  | accountLocked | accountDisabled => .accountDisabled
  | timedOut => .authTimedOut
  | accountExpired => .accountExpired
  | success | generalError | remoteUnavailable | unknown _ => .failedToAuthenticate

end Wire.Verdict

end Gatehouse
