import Gatehouse.Secret
import Gatehouse.Login.Failure
import Gatehouse.Account.LocalUser
/-!
What a login attempt is asked for, and what it answers.
-/

namespace Gatehouse

/-- How the principal was authenticated. -/
inductive AuthType where
  | credentials
  | negotiation
deriving DecidableEq, Repr, Inhabited

namespace AuthType

/-- What is assumed when nothing is said. -/
def assumed : AuthType := credentials

/-- The way of a name. -/
def ofName? : String → Option AuthType
  | "credentials" => some credentials
  | "negotiation" => some negotiation
  | "default" => some assumed
  | _ => none

end AuthType

/-- What an attempt is asked for. -/
structure LoginParameters where
  loginName : Option String := none
  password : Option Secret := none
  profileName : Option String := none
  /-- The record of somebody who is authenticated already. -/
  authRecord : Option AuthRecord := none
  authType : Option AuthType := none
  /-- The session that may remember credentials. -/
  sessionId : Option String := none
  /-- The session that may remember credentials if no other one is named. -/
  pendingSessionId : Option String := none
deriving Inhabited

namespace LoginParameters

/-- A login by name and password. -/
def ofCredentials (profile loginName : String) (password : Secret) : LoginParameters where
  loginName := some loginName
  password := some password
  profileName := some profile
  authType := some .credentials

/-- A login of somebody who is authenticated already. -/
def ofAuthRecord (profile : String) (record : AuthRecord) (authType : AuthType) : LoginParameters where
  profileName := some profile
  authRecord := some record
  authType := some authType

/-- The parameters that a record gives. -/
def ofRecord (r : Record) : LoginParameters where
  loginName := r.text? "login_name"
  password := (r.text? "password").map Secret.mk
  profileName := r.text? "profile_name"
  authRecord := (r.record? "auth_record").map AuthRecord.mk
  authType := (r.text? "auth_type").bind AuthType.ofName?
  sessionId := r.text? "session_id"
  pendingSessionId := r.text? "pending_session_id"

/-- A text that is not empty. -/
def nonEmpty? (s : String) : Option String := if s.isEmpty then none else some s

/-- The name, unless it is empty. -/
def givenName? (p : LoginParameters) : Option String := p.loginName.bind nonEmpty?

/-- The password, unless it is empty. -/
def givenPassword? (p : LoginParameters) : Option Secret := p.password.filter fun s => !s.isEmpty

/-- The session whose remembered credentials are used. -/
def credentialSession? (p : LoginParameters) : Option String :=
  p.sessionId.bind nonEmpty? <|> p.pendingSessionId.bind nonEmpty?

/-- How an attempt is shown: who, and by which profile. -/
def displayName (who : String) (profile : Option String) : String :=
  who ++ "@" ++ profile.getD "N/A"

/-- Who wants to log in, as far as the parameters say. -/
def claimant (p : LoginParameters) : String :=
  (p.givenName? <|> p.authRecord.bind AuthRecord.principal?).getD ""

end LoginParameters

/-- What an attempt answers. -/
structure LoginResult where
  succeeded : Bool := false
  sessionId : Option String := none
  user : Option LocalUser := none
  messages : List UserMessage := []
  failure : Option LoginFailure := none
deriving Inhabited

namespace LoginResult

/-- A session was opened for a user. -/
def granted (sessionId : String) (user : LocalUser) : LoginResult where
  succeeded := true
  sessionId := some sessionId
  user := some user

/-- The attempt failed. -/
def refused (failure : LoginFailure) (messages : List UserMessage) : LoginResult where
  messages := messages
  failure := some failure

/-- The first of the messages that is the given one. -/
def first? (r : LoginResult) (m : LoginMessage) : Option UserMessage :=
  r.messages.find? fun x => x.message = m

/-- Whether the user is told something. -/
def has (r : LoginResult) (m : LoginMessage) : Bool := r.messages.any fun x => x.message = m

/-- A result as a record. -/
def toRecord (r : LoginResult) : Record := .ofList [
  ("succeeded", .bool r.succeeded),
  ("session_id", .ofOption .text r.sessionId),
  ("user", .ofOption (fun u => .record u.toRecord) r.user),
  ("messages", .list (r.messages.map fun m => .record m.toRecord)),
  ("failure", .ofOption (fun f => .record f.toRecord) r.failure)]

end LoginResult

end Gatehouse
