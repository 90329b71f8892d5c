import Gatehouse.Data.Value
/-!
The settings of the program, with the values they have when nothing is said.
-/

namespace Gatehouse

/-- How long sessions live and what they retain. -/
structure SessionSettings where
  /-- Minutes until a session expires; zero for never. -/
  hardLimitMinutes : Nat := 600
  /-- Minutes without use after which a session is idle; zero for never. -/
  softLimitMinutes : Nat := 30
  /-- Seconds between two evicting passes. -/
  cleanupIntervalSeconds : Nat := 60
  /-- Whether a session keeps the password it was opened with. -/
  retainPassword : Bool := true
deriving DecidableEq, Inhabited

/-- What is logged and how. -/
structure LoggingSettings where
  level : String := "info"
  format : String := "json"
deriving DecidableEq, Inhabited

/-- The database of the user directory. -/
structure DatabaseSettings where
  url : String
  maxConnections : Nat := 5
  minConnections : Nat := 1
  connectTimeoutSeconds : Nat := 10
  runMigrations : Bool := true
deriving DecidableEq, Inhabited

/-- The background runner. -/
structure WorkerSettings where
  queueCapacity : Nat := 1024
  concurrency : Nat := 4
deriving DecidableEq, Inhabited

/-- An authentication profile: which extensions a login goes through. -/
structure ProfileSettings where
  name : String
  authn : String
  authz : String
  mapper : Option String := none
deriving DecidableEq, Inhabited

/-- A user of an internal directory. -/
structure UserSettings where
  name : String
  passwordHash : String
  groups : List String := []
  firstName : Option String := none
  lastName : Option String := none
  email : Option String := none
  disabled : Bool := false
  locked : Bool := false
  passwordExpired : Bool := false
  /-- Where the user can change an expired password. -/
  changeUrl : Option String := none
deriving DecidableEq, Inhabited

/-- A group of an internal directory, and the groups it belongs to. -/
structure GroupSettings where
  name : String
  memberOf : List String := []
deriving DecidableEq, Inhabited

/-- An internal directory. -/
structure DirectorySettings where
  name : String
  /-- Minutes for which a successful authentication is vouched for; none or zero for ever. -/
  recordTtlMinutes : Option Nat := none
  users : List UserSettings := []
  groups : List GroupSettings := []
deriving DecidableEq, Inhabited

namespace DirectorySettings

/-- The name of the directory as an authenticator. -/
def authnName (s : DirectorySettings) : String := s.name ++ "-authn"

/-- The name of the directory as an authorizer. -/
def authzName (s : DirectorySettings) : String := s.name ++ "-authz"

end DirectorySettings

/-- A mapper that strips a suffix off user names and may put principals into lower case. -/
structure MapperSettings where
  name : String
  stripSuffix : Option String := none
  lowercase : Bool := false
deriving DecidableEq, Inhabited

/-- The extensions that come with the program. -/
structure ExtensionSettings where
  directories : List DirectorySettings := []
  mappers : List MapperSettings := []
deriving DecidableEq, Inhabited

/-- Who may log in, and who administers. -/
structure PermissionSettings where
  allowEveryone : Bool := false
  loginUsers : List String := []
  loginGroups : List String := []
  adminUsers : List String := []
  adminGroups : List String := []
deriving DecidableEq, Inhabited

/-- All settings. -/
structure Settings where
  session : SessionSettings := {}
  logging : LoggingSettings := {}
  database : Option DatabaseSettings := none
  worker : WorkerSettings := {}
  profiles : List ProfileSettings := []
  extensions : ExtensionSettings := {}
  permissions : PermissionSettings := {}
deriving DecidableEq, Inhabited

end Gatehouse
