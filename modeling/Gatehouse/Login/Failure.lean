import Gatehouse.Login.Message
import Gatehouse.Text.Blank
import Gatehouse.Wire.Message
/-!
Failures: how a login attempt can end without a session, and how an authenticator's refusal is read.
-/

namespace Gatehouse

/-- How far an attempt has come. -/
inductive LoginStage where
  | start
  | profileResolved
  | credentialsSubmitted
  | authRecordSupplied
  | authenticated
  | mapped
  | principalResolved
  | directorySynced
  | authorized
  | sessionIssued
deriving DecidableEq, Repr, Inhabited

namespace LoginStage

/-- Every stage, in order. -/
def all : List LoginStage := [
  start, profileResolved, credentialsSubmitted, authRecordSupplied, authenticated, mapped,
  principalResolved, directorySynced, authorized, sessionIssued]

/-- The name of a stage. -/
def name : LoginStage → String
  | start => "start"
  | profileResolved => "profile_resolved"
  | credentialsSubmitted => "credentials_submitted"
  | authRecordSupplied => "auth_record_supplied"
  | authenticated => "authenticated"
  | mapped => "mapped"
  | principalResolved => "principal_resolved"
  | directorySynced => "directory_synced"
  | authorized => "authorized"
  | sessionIssued => "session_issued"

end LoginStage

/-- Why an authenticator refused. -/
inductive RefusalReason where
  | generalError
  | invalidCredentials
  | accountLocked
  | accountDisabled
  | accountExpired
  | timedOut
  | unknown (code : Int)
deriving DecidableEq, Repr, Inhabited

namespace RefusalReason

/-- The reason of a verdict; a verdict that gives none is kept by its code. -/
def ofVerdict : Wire.Verdict → RefusalReason
  | .generalError => generalError
  | .credentialsInvalid | .credentialsIncorrect => invalidCredentials
  | .accountLocked => accountLocked
  | .accountDisabled => accountDisabled
  | .accountExpired => accountExpired
  | .timedOut => timedOut
  | v => unknown v.code

/-- The text of a reason. -/
def text : RefusalReason → String
  | generalError => "GeneralError"
  | invalidCredentials => "InvalidCredentials"
  | accountLocked => "AccountLocked"
  | accountDisabled => "AccountDisabled"
  | accountExpired => "AccountExpired"
  | timedOut => "TimedOut"
  | unknown n => "Unknown(" ++ toString n ++ ")"

instance : ToValue RefusalReason where
  toValue
    | generalError => .text "general_error"
    | invalidCredentials => .text "invalid_credentials"
    | accountLocked => .text "account_locked"
    | accountDisabled => .text "account_disabled"
    | accountExpired => .text "account_expired"
    | timedOut => .text "timed_out"
    | unknown n => .record (.ofList [("unknown", .int n)])

end RefusalReason

/-- How an attempt ended without a session. -/
inductive LoginFailure where
  | profileNotFound
  | missingLoginName
  | missingPassword
  | unsupportedAuthMethod
  | authenticationFailed (reason : RefusalReason)
  | credentialsExpired (changeUrl userMessage : Option String)
  | principalNotFound
  | authorizationDenied
  /-- A collaborator failed when the attempt was about to reach a stage. -/
  | unavailable (stage : LoginStage)
deriving DecidableEq, Repr, Inhabited

namespace LoginFailure

/-- The text of a failure. -/
def text : LoginFailure → String
  | profileNotFound => "authentication profile not found"
  | missingLoginName => "login name missing"
  | missingPassword => "password missing"
  | unsupportedAuthMethod => "authenticator does not support password authentication"
  | authenticationFailed reason => "authentication failed: " ++ reason.text
  | credentialsExpired .. => "credentials expired"
  | principalNotFound => "principal not found"
  | authorizationDenied => "login not permitted"
  | unavailable stage => "collaborator unavailable at " ++ stage.name

/-- The name of a failure's kind in records. -/
def kindName : LoginFailure → String
  | profileNotFound => "profile_not_found"
  | missingLoginName => "missing_login_name"
  | missingPassword => "missing_password"
  | unsupportedAuthMethod => "unsupported_auth_method"
  | authenticationFailed _ => "authentication_failed"
  | credentialsExpired .. => "credentials_expired"
  | principalNotFound => "principal_not_found"
  | authorizationDenied => "authorization_denied"
  | unavailable _ => "unavailable"

/-- A failure as a record. -/
def toRecord (f : LoginFailure) : Record :=
  .ofList (("kind", .text f.kindName) :: match f with
    | authenticationFailed reason => [("reason", toValue reason)]
    | credentialsExpired changeUrl userMessage =>
      [("change_url", .ofOption .text changeUrl), ("user_message", .ofOption .text userMessage)]
    | unavailable stage => [("stage", .text stage.name)]
    | _ => [])

instance : ToValue LoginFailure := ⟨fun f => .record f.toRecord⟩

end LoginFailure

namespace Wire.AuthnResponse

/-- What the user is told about expired credentials: where to change them and what the authenticator
says about it, as far as it is known. -/
def expiryMessages (changeUrl userMessage : Option String) : List UserMessage :=
  let told :=
    (changeUrl.map fun url =>
      ({ message := .passwordExpiredWithUrl } : UserMessage).withVariable UserMessage.urlVariable url).toList
    ++ (userMessage.map fun text =>
      ({ message := .passwordExpiredWithMessage } : UserMessage).withVariable UserMessage.textVariable text).toList
  if told.isEmpty then [{ message := .passwordExpired }] else told

/-- The failure that an authenticator's refusal means, and what the user is told. -/
def refusal (a : AuthnResponse) : LoginFailure × List UserMessage :=
  match a.result with
  | .credentialsExpired =>
    let changeUrl := a.changeUrl.bind nonBlank?
    let userMessage := a.userMessage.bind nonBlank?
    (.credentialsExpired changeUrl userMessage, expiryMessages changeUrl userMessage)
  | verdict => (.authenticationFailed (.ofVerdict verdict), [{ message := verdict.message }])

end Wire.AuthnResponse

end Gatehouse
