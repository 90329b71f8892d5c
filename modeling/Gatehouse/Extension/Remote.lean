import Gatehouse.Extension.Capabilities
import Gatehouse.Wire.Message
/-!
Remote extensions: parties outside the program that are asked by maps and answer by maps. Only
well-formed answers get through, and only an authenticator may answer another verdict than success.
-/

namespace Gatehouse

/-- A remote extension, as the program knows it. -/
structure Remote where
  /-- Tells remote extensions apart. -/
  number : Nat
  name : String
  capabilities : Capabilities := .none
deriving DecidableEq, Inhabited

namespace Remote

/-- A verdict other than success, from an extension that was not asked for one. -/
def refused (r : Remote) (v : Wire.Verdict) : Fault :=
  .extension ("Extension '" ++ r.name ++ "' returned " ++ v.text)

/-- An output without a verdict counts as success. -/
def ensureSuccess (r : Remote) (output : Record) : Except Fault Unit :=
  match Wire.int? output Wire.resultKey with
  | .error e => .error e.toFault
  | .ok none => .ok ()
  | .ok (some code) =>
    let verdict := Wire.Verdict.ofCode code
    if verdict.isSuccess then .ok () else .error (r.refused verdict)

/-- An authenticator's answer in an output. -/
def readAuthn (output : Record) : Except Fault Wire.AuthnResponse :=
  (Wire.AuthnResponse.ofMap output).mapError Wire.Flaw.toFault

/-- A mapper's answer in an output. -/
def readMapping (r : Remote) (output : Record) : Except Fault Wire.MappingResponse := do
  r.ensureSuccess output
  (Wire.MappingResponse.ofMap output).mapError Wire.Flaw.toFault

/-- An authorizer's answer in an output. -/
def readPrincipal (r : Remote) (output : Record) : Except Fault Wire.FetchPrincipalResponse := do
  r.ensureSuccess output
  (Wire.FetchPrincipalResponse.ofMap output).mapError Wire.Flaw.toFault

/-! How a remote extension is asked: `invoke` hands a map over and brings back what comes of it. -/

variable {m : Type → Type} [Monad m] (invoke : Remote → Record → m (Except Fault Record))

/-- Asks a remote authenticator to check credentials. -/
def authenticate (r : Remote) (q : Wire.AuthnRequest) : m (Except Fault Wire.AuthnResponse) := do
  pure ((← invoke r q.toMap).bind readAuthn)

/-- Asks a remote mapper for a user's name. -/
def mapUser (r : Remote) (q : Wire.MapUserRequest) : m (Except Fault Wire.MappingResponse) := do
  pure ((← invoke r q.toMap).bind r.readMapping)

/-- Asks a remote mapper for an authentication record. -/
def mapAuthRecord (r : Remote) (q : Wire.MapAuthRecordRequest) :
    m (Except Fault Wire.MappingResponse) := do
  pure ((← invoke r q.toMap).bind r.readMapping)

/-- Asks a remote authorizer for a principal. -/
def fetchPrincipal (r : Remote) (q : Wire.FetchPrincipalRequest) :
    m (Except Fault Wire.FetchPrincipalResponse) := do
  pure ((← invoke r q.toMap).bind r.readPrincipal)

end Remote

end Gatehouse
