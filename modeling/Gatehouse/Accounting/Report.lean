import Gatehouse.Account.AuthRecord
import Gatehouse.Account.PrincipalRecord
/-!
Accounting reports: why an attempt concerns those who account for logins, and what is known about it.
-/

namespace Gatehouse

/-- Why a report is made. -/
inductive ReportReason where
  | credentialsLogin
  | negotiateLogin
  | principalNotFound
  | loginNoPermission
deriving DecidableEq, Repr, Inhabited

namespace ReportReason

/-- Every reason. -/
def all : List ReportReason := [credentialsLogin, negotiateLogin, principalNotFound, loginNoPermission]

/-- The name of a reason in records. -/
def name : ReportReason → String
  | credentialsLogin => "CREDENTIALS_LOGIN"
  | negotiateLogin => "NEGOTIATE_LOGIN"
  | principalNotFound => "PRINCIPAL_NOT_FOUND"
  | loginNoPermission => "LOGIN_NO_PERMISSION"

/-- The name of a reason in logs. -/
def logName : ReportReason → String
  | credentialsLogin => "CredentialsLogin"
  | negotiateLogin => "NegotiateLogin"
  | principalNotFound => "PrincipalNotFound"
  | loginNoPermission => "LoginNoPermission"

/-- The reason of a name. -/
def ofName? (s : String) : Option ReportReason := all.find? fun r => r.name == s

end ReportReason

/-- A report. -/
structure Report where
  reason : ReportReason
  /-- The authorizer of the attempt's profile. -/
  authorizer : String
  loginName : Option String
  authRecord : AuthRecord
  principalRecord : Option PrincipalRecord
  message : String

/-- A report as a record. -/
def Report.toRecord (r : Report) : Record := .ofList [
  ("reason", .text r.reason.name),
  ("authz_name", .text r.authorizer),
  ("login_name", .ofOption .text r.loginName),
  ("auth_record", .record r.authRecord.fields),
  ("principal_record", .ofOption (fun p => .record p.fields) r.principalRecord),
  ("message", .text r.message)]

instance : ToValue Report := ⟨fun r => .record r.toRecord⟩

/-- The report that a record describes, if its reason is known. -/
def Report.ofRecord? (r : Record) : Option Report := do
  let reason ← ((r.find? "reason").bind Value.choice?).bind ReportReason.ofName?
  pure {
    reason
    authorizer := (r.text? "authz").getD ""
    loginName := r.text? "login"
    authRecord := ⟨(r.record? "auth_record").getD ∅⟩
    principalRecord := (r.record? "principal_record").map PrincipalRecord.mk
    message := (r.text? "message").getD "" }

/-- What a log shows of a report. -/
structure ReportLine where
  reason : String
  authorizer : String
  login : String
  principal : String
  message : String
deriving DecidableEq

/-- The line of a report in a log; what is not known is left empty. -/
def Report.line (r : Report) : ReportLine where
  reason := r.reason.logName
  authorizer := r.authorizer
  login := r.loginName.getD ""
  principal := r.authRecord.principal?.getD ""
  message := r.message

/-- A line as a record. -/
def ReportLine.toRecord (l : ReportLine) : Record := .ofList [
  ("reason", .text l.reason),
  ("authz", .text l.authorizer),
  ("login", .text l.login),
  ("principal", .text l.principal),
  ("message", .text l.message)]

instance : ToValue ReportLine := ⟨fun l => .record l.toRecord⟩

end Gatehouse
