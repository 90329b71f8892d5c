import Gatehouse.Login.Dialogue
/-!
What a profile's extensions are asked: to map names and records, to check credentials, and to look up a
principal. A profile without a mapper leaves everything as it is.
-/

namespace Gatehouse

open Login

/-- What came of checking credentials. -/
structure Authentication where
  /-- The name that was sent to the authenticator. -/
  mappedUser : String
  response : Wire.AuthnResponse

namespace Profile

/-- The name under which a user is known to the authenticator. -/
def mapUser (p : Profile) (user : String) : Talk String :=
  match p.mapper with
  | none => pure user
  | some m => do
    let answer ← ExceptT.mk (Dialogue.request (.mapUser m { user }))
    pure (Wire.MappingResponse.userOr answer user)

/-- The record that the authorizer is to see. -/
def mapAuthRecord (p : Profile) (record : AuthRecord) : Talk AuthRecord :=
  match p.mapper with
  | none => pure record
  | some m => do
    let answer ← ExceptT.mk (Dialogue.request (.mapAuthRecord m { authRecord := record }))
    pure (Wire.MappingResponse.authRecordOr answer record)

/-- Checks credentials; the name is mapped only for an authenticator that checks credentials. -/
def authenticate (p : Profile) (user : String) (password : Secret) : Talk Authentication := do
  let mappedUser ← if p.authenticator.capabilities.acceptsCredentials then p.mapUser user else pure user
  let response ← ExceptT.mk (Dialogue.request
    (.authenticate p.authenticator { user := mappedUser, credentials := password }))
  pure { mappedUser, response }

/-- Looks up the principal that was authenticated. -/
def resolvePrincipal (p : Profile) (record : AuthRecord) : Talk (Option PrincipalRecord) := do
  let answer ← ExceptT.mk (Dialogue.request (.fetchPrincipal p.authorizer { authRecord := record }))
  pure (Wire.FetchPrincipalResponse.principalRecord answer)

end Profile

end Gatehouse
