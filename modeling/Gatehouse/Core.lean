import Gatehouse.Login.Attempt
import Gatehouse.Login.Services
import Gatehouse.Session.Sweep
/-!
The assembled core: what the settings make of registry, profiles and collaborators. Settings that
contradict themselves are refused.
-/

namespace Gatehouse

/-- The login core. -/
structure Core where
  settings : Settings
  registry : Registry
  profiles : Profiles
deriving Inhabited

namespace Core

/-- Assembles the core: on top of what a registry holds already, the extensions of the settings are
registered, and then the profiles are resolved. Each internal directory gets a salt of its own. There is
no database to connect to. -/
def ofSettings (salts : Nat → List UInt8) (s : Settings) (extensions : Registry := {}) : Except Fault Core :=
  let (registered, registry) := extensions.register (Registry.addBuiltins salts s.extensions)
  do
    registered
    let profiles ← Profiles.ofSettings registry s.profiles
    if s.database.isSome then throw (.database "Failed to connect to database")
    pure { settings := s, registry, profiles }

/-- What logins go by. -/
def setup (c : Core) : Login.Setup := { profiles := c.profiles, session := c.settings.session }

/-- The collaborators at the start, with a clock and what is outside. -/
def services {ρ : Type} (c : Core) (clock : Nat → Instant) (outside : ρ) : Login.Services ρ where
  permissions := .ofSettings c.settings.permissions
  accounting := Accounting.withSink {} .keeping
  background := some (.ofSettings c.settings.worker)
  clock := clock
  outside := outside

/-- The sweep over the sessions. -/
def sweep (c : Core) : Sweep := .ofSettings c.settings.session

end Core

end Gatehouse
