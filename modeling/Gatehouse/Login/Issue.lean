import Gatehouse.Login.Dialogue
import Gatehouse.Session.Limit
import Gatehouse.Settings.Schema
/-!
Issuing a session: a fresh token, and everything that the login found out written under it. A session
that could not be written as a whole is removed.
-/

namespace Gatehouse.Login

/-- What a new session holds. -/
structure Grant where
  profile : String
  user : LocalUser
  authRecord : AuthRecord
  principalRecord : PrincipalRecord
  /-- The password of the request, if it had one. -/
  password : Option Secret := none

/-- Writes into a session. -/
def writeSession (token : String) (e : Session.Edit) : Talk Unit :=
  ExceptT.mk (Dialogue.request (.sessions (.write token e)))

/-- Writes a grant under a token. The password is written only if sessions retain passwords. -/
def attach (s : SessionSettings) (token : String) (g : Grant) : Talk Unit := do
  let now : Instant ← ExceptT.lift (Dialogue.request .now)
  writeSession token (.user g.user)
  writeSession token .seen
  writeSession token (.profile g.profile)
  writeSession token (.authRecord g.authRecord)
  writeSession token (.principalRecord g.principalRecord)
  if let some password := g.password.filter fun _ => s.retainPassword then
    writeSession token (.password password)
  -- The limit comes last: a sweep that passes before finds no limit to go by.
  writeSession token (.hardLimit (Session.hardLimitFrom now s.hardLimitMinutes g.authRecord))

/-- Issues a session, and answers its token. -/
def issue (s : SessionSettings) (g : Grant) : Talk String := do
  let token : String ← ExceptT.mk (Dialogue.request .newToken)
  match ← ExceptT.lift (attach s token g).run with
  | .ok () => pure token
  | .error e =>
    let _ ← ExceptT.lift (Dialogue.request (.sessions (.remove token)))
    throw e

end Gatehouse.Login
