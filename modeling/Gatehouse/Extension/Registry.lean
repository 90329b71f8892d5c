import Gatehouse.Extension.Directory
import Gatehouse.Extension.Remote
import Gatehouse.Extension.SuffixMapper
/-!
The registry: which extensions there are, by role and name. A name stands once in every role.
-/

namespace Gatehouse

/-- What an extension is registered for. -/
inductive ExtensionRole where
  | authenticator
  | mapper
  | authorizer
deriving DecidableEq, Repr

namespace ExtensionRole

/-- The name of a role in messages. -/
def name : ExtensionRole → String
  | authenticator => "Authenticator"
  | mapper => "Mapper"
  | authorizer => "Authorizer"

/-- The role of a name in settings. -/
def ofName? : String → Option ExtensionRole
  | "authenticator" => some authenticator
  | "mapper" => some mapper
  | "authorizer" => some authorizer
  | _ => none

end ExtensionRole

/-- Checks credentials. -/
inductive Authenticator where
  | directory (d : Directory)
  | remote (r : Remote)
deriving Inhabited

namespace Authenticator

def name : Authenticator → String
  | directory d => d.authnName
  | remote r => r.name

def capabilities : Authenticator → Capabilities
  | directory _ => Directory.capabilities
  | remote r => r.capabilities

end Authenticator

/-- Maps names and records between an authenticator and an authorizer. -/
inductive Mapper where
  | suffix (m : SuffixMapper)
  | remote (r : Remote)
deriving Inhabited

def Mapper.name : Mapper → String
  | suffix m => m.name
  | remote r => r.name

/-- Knows principals. -/
inductive Authorizer where
  | directory (d : Directory)
  | remote (r : Remote)
deriving Inhabited

def Authorizer.name : Authorizer → String
  | directory d => d.authzName
  | remote r => r.name

/-- The registered extensions. -/
structure Registry where
  authenticators : Table String Authenticator := ∅
  mappers : Table String Mapper := ∅
  authorizers : Table String Authorizer := ∅
deriving Inhabited

namespace Registry

/-- How many registrations there are. -/
def count (g : Registry) : Nat := g.authenticators.size + g.mappers.size + g.authorizers.size

def alreadyRegistered (role : ExtensionRole) (name : String) : Fault :=
  .conflict (role.name ++ " '" ++ name ++ "' is already registered")

/-- A change of a registry that may fail; what was registered before the fault stays. -/
abbrev Registration := ExceptT Fault (StateM Registry) Unit

/-- What comes of a registration, and the registry after it. -/
def register (g : Registry) (x : Registration) : Except Fault Unit × Registry := x.run.run g

def addAuthenticator (a : Authenticator) : Registration := do
  let g ← get
  if g.authenticators.contains a.name then throw (alreadyRegistered .authenticator a.name)
  set { g with authenticators := g.authenticators.insert a.name a }

def addMapper (m : Mapper) : Registration := do
  let g ← get
  if g.mappers.contains m.name then throw (alreadyRegistered .mapper m.name)
  set { g with mappers := g.mappers.insert m.name m }

def addAuthorizer (a : Authorizer) : Registration := do
  let g ← get
  if g.authorizers.contains a.name then throw (alreadyRegistered .authorizer a.name)
  set { g with authorizers := g.authorizers.insert a.name a }

section
variable (g : Registry)

theorem register_ite (c : Bool) (e : Fault) (g' : Registry) :
    g.register (if c then throw e else set g') = if c then (.error e, g) else (.ok (), g') := by
  cases c <;> rfl

theorem register_addAuthenticator (a : Authenticator) : g.register (addAuthenticator a) =
    if g.authenticators.contains a.name then (.error (alreadyRegistered .authenticator a.name), g)
    else (.ok (), { g with authenticators := g.authenticators.insert a.name a }) :=
  g.register_ite _ _ _

theorem register_addMapper (m : Mapper) : g.register (addMapper m) =
    if g.mappers.contains m.name then (.error (alreadyRegistered .mapper m.name), g)
    else (.ok (), { g with mappers := g.mappers.insert m.name m }) :=
  g.register_ite _ _ _

theorem register_addAuthorizer (a : Authorizer) : g.register (addAuthorizer a) =
    if g.authorizers.contains a.name then (.error (alreadyRegistered .authorizer a.name), g)
    else (.ok (), { g with authorizers := g.authorizers.insert a.name a }) :=
  g.register_ite _ _ _

end

/-- Registers a remote extension for one role after the other. -/
def addRemote (r : Remote) (roles : List ExtensionRole) : Registration :=
  roles.forM fun
    | .authenticator => addAuthenticator (.remote r)
    | .mapper => addMapper (.remote r)
    | .authorizer => addAuthorizer (.remote r)

/-- Registers an internal directory, to check credentials and to know principals. -/
def addDirectory (salt : List UInt8) (s : DirectorySettings) : Registration := do
  let d ← liftExcept (Directory.ofSettings salt s)
  addAuthenticator (.directory d)
  addAuthorizer (.directory d)
where
  liftExcept (x : Except Fault Directory) : ExceptT Fault (StateM Registry) Directory := ExceptT.mk (pure x)

/-- Registers the directories of the settings, each with its own salt, and then the mappers. -/
def addBuiltins (salts : Nat → List UInt8) (s : ExtensionSettings) : Registration := do
  s.directories.zipIdx.forM fun (d, n) => addDirectory (salts n) d
  s.mappers.forM fun m => addMapper (.suffix (.ofSettings m))

end Registry

end Gatehouse
