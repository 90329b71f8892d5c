import Gatehouse.Extension.Capabilities
import Gatehouse.Password.Hash
import Gatehouse.Settings.Schema
import Gatehouse.Wire.Message
/-!
Internal directories: users and groups that are declared in the settings. A directory authenticates its
users by password and knows the groups that they belong to, directly or through other groups.
-/

namespace Gatehouse

/-- An internal directory. -/
structure Directory where
  name : String
  authnName : String
  authzName : String
  /-- Minutes for which a successful authentication is vouched for. -/
  recordTtl : Option Nat := none
  users : Table String UserSettings := ∅
  groups : Table String GroupSettings := ∅
  /-- What the password of an unknown user is compared with. -/
  dummyHash : String := ""
deriving Inhabited

namespace Directory

/-- The users by name; a name must not stand twice. -/
def usersByName (directory : String) :
    List UserSettings → Table String UserSettings → Except Fault (Table String UserSettings)
  | [], users => .ok users
  | u :: rest, users =>
    if users.contains u.name then
      .error (.configuration
        ("Duplicate user '" ++ u.name ++ "' in internal directory '" ++ directory ++ "'"))
    else usersByName directory rest (users.insert u.name u)

/-- The directory that the settings describe. Of two groups of one name the later one counts. The salt
goes into the hash that stands in for those of unknown users. -/
def ofSettings (salt : List UInt8) (s : DirectorySettings) : Except Fault Directory := do
  let users ← usersByName s.name s.users ∅
  pure {
    name := s.name
    authnName := s.authnName
    authzName := s.authzName
    recordTtl := s.recordTtlMinutes.filter fun minutes => decide (0 < minutes)
    users
    groups := .ofList (s.groups.map fun g => (g.name, g))
    dummyHash := PasswordHash.make s.authnName salt }

/-- A directory checks credentials, and these are passwords. -/
def capabilities : Capabilities := Capabilities.credentials.union .password

/-! ## Authenticating -/

/-- The record of a user who authenticated at a time. -/
def issueRecord (d : Directory) (now : Instant) (u : UserSettings) : AuthRecord :=
  let r : AuthRecord := ⟨(AuthRecord.new u.name).fields.insertText AuthRecord.userKey u.name⟩
  match d.recordTtl with
  | some minutes => r.withValidTo (now.addMinutes minutes)
  | none => r

/-- The answer to a user whose password is right. -/
def accept (d : Directory) (now : Instant) (u : UserSettings) : Wire.AuthnResponse :=
  let refuse (v : Wire.Verdict) : Wire.AuthnResponse := (Wire.AuthnResponse.failure v).withPrincipal u.name
  if u.disabled then refuse .accountDisabled
  else if u.locked then refuse .accountLocked
  else if u.passwordExpired then { refuse .credentialsExpired with changeUrl := u.changeUrl }
  else .success (d.issueRecord now u)

/-- Checks credentials. Whoever asks, one password is verified: that of an unknown user too, against a
hash of no meaning, so that the time it takes tells nothing. -/
def authenticateBy {m : Type → Type} [Monad m] (verify : String → String → m (Except Fault Bool))
    (d : Directory) (now : Instant) (q : Wire.AuthnRequest) : m (Except Fault Wire.AuthnResponse) := do
  match d.users.find? q.user with
  | none =>
    let checked ← verify q.credentials.exposed d.dummyHash
    pure (checked.map fun _ => .failure .credentialsInvalid)
  | some u =>
    let checked ← verify q.credentials.exposed u.passwordHash
    pure (checked.map fun right =>
      if right then d.accept now u
      else (Wire.AuthnResponse.failure .credentialsIncorrect).withPrincipal u.name)

/-- Checks credentials. -/
def authenticate (d : Directory) (now : Instant) (q : Wire.AuthnRequest) :
    Except Fault Wire.AuthnResponse :=
  Id.run (d.authenticateBy (fun password hash => pure (PasswordHash.verify password hash)) now q)

/-! ## Principals and their groups -/

/-- The declared groups that are not on a path. -/
def unvisited (groups : Table String GroupSettings) (path : List String) : List String :=
  groups.keys.filter fun g => g ∉ path

theorem length_unvisited_lt {groups : Table String GroupSettings} {path : List String} {name : String}
    {g : GroupSettings} (hg : groups.find? name = some g) (hp : name ∉ path) :
    (unvisited groups (name :: path)).length < (unvisited groups path).length := by
  have hk : name ∈ groups.keys := List.mem_map.2 ⟨_, Table.mem_keys_of_lookup hg, rfl⟩
  have hf : unvisited groups (name :: path) = (unvisited groups path).filter fun g => g ≠ name := by
    simp [unvisited, List.filter_filter]
  rw [hf, List.length_filter_lt_length_iff_exists]
  exact ⟨name, by simp [unvisited, hk, hp], by simp⟩

/-- A group with the groups that it belongs to, and so on. A group that is on the path already is left
out, so that groups may belong to each other. -/
def groupRecord? (groups : Table String GroupSettings) (path : List String) (name : String) :
    Option Value :=
  if _hp : name ∈ path then none
  else
    let parents := match _hg : groups.find? name with
      | some g => g.memberOf.filterMap fun parent => groupRecord? groups (name :: path) parent
      | none => []
    some (.record (.ofList [
      (PrincipalRecord.idKey, .text name),
      (PrincipalRecord.nameKey, .text name),
      (PrincipalRecord.groupsKey, .list parents)]))
termination_by (unvisited groups path).length
decreasing_by exact length_unvisited_lt _hg _hp

/-- What the directory knows about a user. -/
def principalRecord (d : Directory) (u : UserSettings) : PrincipalRecord :=
  let r : Record := .ofList [
    (PrincipalRecord.idKey, .text u.name),
    (PrincipalRecord.nameKey, .text u.name),
    (PrincipalRecord.principalKey, .text u.name),
    (PrincipalRecord.realmKey, .text d.name),
    (PrincipalRecord.groupsKey, .list (u.groups.filterMap (groupRecord? d.groups [])))]
  let r : Record := r.insertText? PrincipalRecord.firstNameKey u.firstName
  let r : Record := r.insertText? PrincipalRecord.lastNameKey u.lastName
  ⟨r.insertText? PrincipalRecord.emailKey u.email⟩

/-- Looks a principal up. -/
def fetchPrincipal (d : Directory) (q : Wire.FetchPrincipalRequest) : Wire.FetchPrincipalResponse :=
  { principalRecord := (q.authRecord.principal?.bind d.users.find?).map d.principalRecord }

end Directory

end Gatehouse
