import Gatehouse.Extension.Registry
/-!
Profiles: which extensions a login goes through, by the name of the profile.
-/

namespace Gatehouse

/-- An authentication profile. -/
structure Profile where
  name : String
  authenticator : Authenticator
  authorizer : Authorizer
  mapper : Option Mapper := none
deriving Inhabited

namespace Profile

def unknownExtension (profile role name : String) : Fault :=
  .configuration ("Profile '" ++ profile ++ "' references unknown " ++ role ++ " '" ++ name ++ "'")

/-- A registered extension that a profile refers to. -/
def resolve (profile role : String) (table : Table String α) (name : String) : Except Fault α :=
  match table.find? name with
  | some x => .ok x
  | none => .error (unknownExtension profile role name)

/-- The profile that the settings describe; the first reference to nothing counts. -/
def ofSettings (g : Registry) (s : ProfileSettings) : Except Fault Profile := do
  let authenticator ← resolve s.name "authenticator" g.authenticators s.authn
  let authorizer ← resolve s.name "authorizer" g.authorizers s.authz
  let mapper ← s.mapper.mapM (resolve s.name "mapper" g.mappers)
  pure { name := s.name, authenticator, authorizer, mapper }

end Profile

/-- The profiles by their names. -/
structure Profiles where
  byName : Table String Profile := ∅
deriving Inhabited

namespace Profiles

/-- Adds profiles; a name must not stand twice. -/
def addAll : List Profile → Profiles → Except Fault Profiles
  | [], ps => .ok ps
  | p :: rest, ps =>
    if ps.byName.contains p.name then
      .error (.configuration ("Duplicate authentication profile '" ++ p.name ++ "'"))
    else addAll rest ⟨ps.byName.insert p.name p⟩

/-- The profiles of a list. -/
def ofList (ps : List Profile) : Except Fault Profiles := addAll ps {}

/-- The profiles that the settings describe. References are resolved before names are compared. -/
def ofSettings (g : Registry) (ss : List ProfileSettings) : Except Fault Profiles := do
  ofList (← ss.mapM (Profile.ofSettings g))

/-- The profile of a name; no name means no profile. -/
def find? (ps : Profiles) (name : Option String) : Option Profile := name.bind ps.byName.find?

/-- The names, ascending. -/
def names (ps : Profiles) : List String := ps.byName.sorted.map Prod.fst

def size (ps : Profiles) : Nat := ps.byName.size

end Profiles

end Gatehouse
