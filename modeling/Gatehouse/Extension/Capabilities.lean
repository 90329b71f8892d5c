import Gatehouse.Data.ToValue
/-!
What an authenticator can do, as a set of bits. Those that a login asks for are named here; an authenticator may have
others.
-/

namespace Gatehouse

/-- A set of capabilities. -/
structure Capabilities where
  bits : UInt64
deriving DecidableEq, Repr, Inhabited

namespace Capabilities

instance : ToValue Capabilities := ⟨fun c => .int c.bits.toNat⟩

def none : Capabilities := ⟨0⟩

/-- Credentials are checked. -/
def credentials : Capabilities := ⟨1⟩

/-- The credentials may be a password. -/
def password : Capabilities := ⟨8⟩

def union (a b : Capabilities) : Capabilities := ⟨a.bits ||| b.bits⟩

/-- Whether all capabilities of the second set are in the first one. -/
def contains (a b : Capabilities) : Bool := a.bits &&& b.bits == b.bits

def acceptsPassword (a : Capabilities) : Bool := a.contains password

def acceptsCredentials (a : Capabilities) : Bool := a.contains credentials

end Capabilities

end Gatehouse
