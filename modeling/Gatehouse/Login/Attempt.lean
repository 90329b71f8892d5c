import Gatehouse.Login.Authentication
import Gatehouse.Login.Issue
import Gatehouse.Login.Parameters
/-!
The login attempt: from what was submitted to a session, or to the failure that ended the attempt. Every
step may end it. An ended attempt has one terminal entry in the audit trail; only a fatal fault escapes,
and leaves none.
-/

namespace Gatehouse.Login

/-- What logins go by. -/
structure Setup where
  profiles : Profiles
  session : SessionSettings := {}
  /-- Whether there is a background runner. -/
  bookkeeping : Bool := true
deriving Inhabited

/-- What an attempt has come to know so far. -/
structure Progress where
  /-- How the attempt is shown in the audit trail. -/
  displayName : String
  /-- What the user is told. -/
  messages : List UserMessage := []

/-- How an attempt ends before its time. -/
inductive Exit where
  | failed (f : LoginFailure)
  | fatal (e : Fault)

/-- A step of an attempt. -/
abbrev Attempt := ExceptT Exit (StateT Progress Dialogue)

/-- A message without variables. -/
def told (m : LoginMessage) : UserMessage := { message := m }

/-- Ends the attempt; the user is told why. -/
def refuse (f : LoginFailure) (messages : List UserMessage) : Attempt α := do
  modify fun p => { p with messages := p.messages ++ messages }
  throw (.failed f)

/-- Asks something that does not fail. -/
def ask (r : Request) : Attempt r.Reply := ExceptT.lift (StateT.lift (Dialogue.request r))

/-- The end that a collaborator's fault makes of an attempt that was about to reach a stage. -/
def exitAt (stage : LoginStage) (e : Fault) : Exit :=
  if e.isFatal then .fatal e else .failed (.unavailable stage)

/-- Takes a step that reaches a stage, unless a collaborator fails. -/
def reaching (stage : LoginStage) (x : Talk α) : Attempt α :=
  ExceptT.mk (StateT.lift (do pure ((← x.run).mapError (exitAt stage))))

/-- From now on the attempt is shown as that of a principal. -/
def identify (principal profile : String) : Attempt Unit :=
  modify fun p => { p with displayName := LoginParameters.displayName principal (some profile) }

/-- The remembered credentials of a session, if it has both a user and a password. -/
def remembered? (token : String) : Talk (Option (String × Secret)) := do
  let user : Option LocalUser ← ExceptT.mk (Dialogue.request (.sessions (.user? token)))
  let password : Option Secret ← ExceptT.mk (Dialogue.request (.sessions (.password? token)))
  match user, password with
  | some user, some password => pure (if password.isEmpty then none else some (user.loginName, password))
  | _, _ => pure none

/-- The credentials to check: those that the named session remembers, else the submitted ones. -/
def chooseCredentials (p : LoginParameters) (name : String) (password : Secret) :
    Talk (String × Secret) :=
  match p.credentialSession? with
  | some token => do pure ((← remembered? token).getD (name, password))
  | none => pure (name, password)

/-- What an authenticator said, and under which name the user logged in. -/
structure Evidence where
  record : AuthRecord
  loginName : Option String
  reason : ReportReason

/-- The authenticator refused: the reason goes into the audit trail, unless it says no more than that
the login failed. -/
def refuseCredentials (a : Authentication) : Attempt α := do
  if let some event := a.response.result.auditEvent? then
    if event ≠ .loginFailed then ask (.audit a.mappedUser event)
  let (failure, messages) := a.response.refusal
  refuse failure messages

/-- An authenticator that reports success has to say who it was. -/
def recordMissing (a : Authenticator) : Fault :=
  .protocol ("Authenticator '" ++ a.name ++ "' reported success without an auth record")

/-- Checks the submitted credentials. -/
def checkCredentials (profile : Profile) (p : LoginParameters) : Attempt Evidence := do
  let some name := p.givenName? | refuse .missingLoginName [told .failedToAuthenticate]
  -- A missing password is no news to the user.
  let some password := p.givenPassword? | refuse .missingPassword []
  if !profile.authenticator.capabilities.acceptsPassword then
    refuse .unsupportedAuthMethod [told .failedToAuthenticate]
  let (name, password) ← reaching .credentialsSubmitted (chooseCredentials p name password)
  let a ← reaching .authenticated (profile.authenticate name password)
  if let some principal := a.response.principal then identify principal profile.name
  if !a.response.result.isSuccess then refuseCredentials a
  let record ← reaching .authenticated (match a.response.authRecord with
    | some record => pure record
    | none => throw (recordMissing profile.authenticator))
  pure { record, loginName := some name, reason := .credentialsLogin }

/-- Why a login by a supplied record is reported. -/
def suppliedReason : Option AuthType → ReportReason
  | some .negotiation => .negotiateLogin
  | _ => .credentialsLogin

/-- Who logs in: the supplied record tells, or the authenticator does. -/
def obtainEvidence (profile : Profile) (p : LoginParameters) : Attempt Evidence :=
  match p.authRecord with
  | some record => pure { record, loginName := none, reason := suppliedReason p.authType }
  | none => checkCredentials profile p

/-- The principal that an authorizer knows under a record. -/
def findPrincipal (profile : Profile) (record : AuthRecord) (loginName : Option String) :
    Attempt PrincipalRecord := do
  let some principal ← reaching .principalResolved (profile.resolvePrincipal record)
    | do
      ask (.report {
        reason := .principalNotFound
        authorizer := profile.authorizer.name
        loginName
        authRecord := record
        principalRecord := none
        message := "Principal record was not found. User name is " ++ loginName.getD "" })
      refuse .principalNotFound [told .userMustExistInDirectory]
  pure principal

/-- The user that a principal is here, as the directory has it. -/
def syncUser (profile : Profile) (principal : PrincipalRecord) : Talk LocalUser := do
  let id : ObjectId ← ExceptT.lift (Dialogue.request .newId)
  let user ← ExceptT.mk (pure (LocalUser.ofPrincipal id profile.authorizer.name principal))
  ExceptT.mk (Dialogue.request (.saveUser user))

/-- Lets a user in who may log in; whether the user administers is evaluated afresh. -/
def permit (profile : Profile) (record : AuthRecord) (principal : PrincipalRecord) (user : LocalUser) :
    Attempt LocalUser := do
  let permitted : Bool ← reaching .authorized (ExceptT.mk (Dialogue.request (.checkPermission (.login user))))
  if !permitted then
    ask (.report {
      reason := .loginNoPermission
      authorizer := profile.authorizer.name
      loginName := some user.loginName
      authRecord := record
      principalRecord := some principal
      message := "The user " ++ user.loginName ++ " is not authorized to perform login" })
    refuse .authorizationDenied [told .notAuthorizedToPerformAction]
  let admin : Bool ← reaching .authorized (ExceptT.mk (Dialogue.request (.checkAdmin user)))
  pure { user with admin }

/-- The attempt up to a session: its token and its user. -/
def execute (s : Setup) (p : LoginParameters) : Attempt (String × LocalUser) := do
  let some profile := s.profiles.find? p.profileName
    | refuse .profileNotFound [told .failedToAuthenticate]
  let evidence ← obtainEvidence profile p
  -- The trail names whom the authenticator vouched for, not what a mapper makes of the record.
  if let some principal := evidence.record.principal? then identify principal profile.name
  let record ← reaching .mapped (profile.mapAuthRecord evidence.record)
  let principal ← findPrincipal profile record evidence.loginName
  let user ← reaching .directorySynced (syncUser profile principal)
  let user ← permit profile record principal user
  ask (.report {
    reason := evidence.reason
    authorizer := profile.authorizer.name
    loginName := some user.loginName
    authRecord := record
    principalRecord := some principal
    message := "User " ++ user.loginName ++ " which has principal name " ++ principal.name?.getD ""
      ++ " logged in" })
  let token ← reaching .sessionIssued (issue s.session {
    profile := profile.name
    user
    authRecord := record
    principalRecord := principal
    password := p.givenPassword? })
  pure (token, user)

/-- Has it recorded that the user's administrator flag was evaluated. -/
def submitBookkeeping (s : Setup) (user : LocalUser) : Dialogue Unit := do
  if s.bookkeeping then
    let time : Instant ← Dialogue.request .now
    let _ ← Dialogue.request (.submit { userId := user.id, admin := user.admin, time })

/-- What the user is told about a failure, after what the attempt has told already. -/
def finalMessages (f : LoginFailure) (messages : List UserMessage) : List UserMessage :=
  match f with
  | .unavailable _ => messages ++ [told .failedToAuthenticate]
  | _ => messages

/-- A login attempt. -/
def login (s : Setup) (p : LoginParameters) : Dialogue (Except Fault LoginResult) := do
  let start : Progress := { displayName := LoginParameters.displayName p.claimant p.profileName }
  let (outcome, progress) ← (execute s p).run.run start
  match outcome with
  | .ok (token, user) =>
    Dialogue.request (.audit progress.displayName .login)
    submitBookkeeping s user
    pure (.ok (.granted token user))
  | .error (.failed f) =>
    Dialogue.request (.audit progress.displayName .loginFailed)
    pure (.ok (.refused f (finalMessages f progress.messages)))
  | .error (.fatal e) => pure (.error e)

end Gatehouse.Login
