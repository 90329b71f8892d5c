/-!
Audit events: what the audit trail says about a login attempt. Every ended attempt has one terminal
event; the others tell why an authenticator refused.
-/

namespace Gatehouse

/-- An audit event. -/
inductive AuditEvent where
  | login
  | loginFailed
  /-- The credentials were right but have expired. -/
  | passwordExpired
  /-- The user is unknown or the password wrong. -/
  | invalidCredentials
  /-- The account is locked or disabled, or the authenticator took too long. -/
  | disabledOrLocked
  | accountExpired
deriving DecidableEq, Repr, Inhabited

namespace AuditEvent

/-- Every event. -/
def all : List AuditEvent :=
  [login, loginFailed, passwordExpired, invalidCredentials, disabledOrLocked, accountExpired]

/-- The code of an event in trails. -/
def code : AuditEvent → String
  | login => "USER_VDC_LOGIN"
  | loginFailed => "USER_VDC_LOGIN_FAILED"
  | passwordExpired => "USER_ACCOUNT_PASSWORD_EXPIRED"
  | invalidCredentials => "AUTH_FAILED_INVALID_CREDENTIALS"
  | disabledOrLocked => "USER_ACCOUNT_DISABLED_OR_LOCKED"
  | accountExpired => "USER_ACCOUNT_EXPIRED"

/-- The name of an event in records. -/
def name : AuditEvent → String
  | login => "USER_LOGIN"
  | loginFailed => "USER_LOGIN_FAILED"
  | passwordExpired => "USER_ACCOUNT_PASSWORD_EXPIRED"
  | invalidCredentials => "AUTH_FAILED_INVALID_CREDENTIALS"
  | disabledOrLocked => "USER_ACCOUNT_DISABLED_OR_LOCKED"
  | accountExpired => "USER_ACCOUNT_EXPIRED"

/-- The event of a name. -/
def ofName? (s : String) : Option AuditEvent := all.find? fun e => e.name == s

/-- Whether the event ends an attempt. -/
def isTerminal : AuditEvent → Bool
  | login | loginFailed => true
  | _ => false

end AuditEvent

end Gatehouse
