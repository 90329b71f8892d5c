import Gatehouse.Settings.Schema
/-!
Settings as records, with every setting in them.
-/

namespace Gatehouse

/-- A list of texts as a value. -/
def Value.texts (xs : List String) : Value := .list (xs.map .text)

/-- A natural number as a value. -/
def Value.nat (n : Nat) : Value := .int n

namespace SessionSettings

def toValue (s : SessionSettings) : Value := .record (.ofList [
  ("hard_limit_minutes", .nat s.hardLimitMinutes),
  ("soft_limit_minutes", .nat s.softLimitMinutes),
  ("cleanup_interval_seconds", .nat s.cleanupIntervalSeconds),
  ("retain_password", .bool s.retainPassword)])

end SessionSettings

def LoggingSettings.toValue (s : LoggingSettings) : Value := .record (.ofList [
  ("level", .text s.level), ("format", .text s.format)])

def DatabaseSettings.toValue (s : DatabaseSettings) : Value := .record (.ofList [
  ("url", .text s.url),
  ("max_connections", .nat s.maxConnections),
  ("min_connections", .nat s.minConnections),
  ("connect_timeout_seconds", .nat s.connectTimeoutSeconds),
  ("run_migrations", .bool s.runMigrations)])

def WorkerSettings.toValue (s : WorkerSettings) : Value := .record (.ofList [
  ("queue_capacity", .nat s.queueCapacity), ("concurrency", .nat s.concurrency)])

def ProfileSettings.toValue (s : ProfileSettings) : Value := .record (.ofList [
  ("name", .text s.name), ("authn", .text s.authn), ("authz", .text s.authz),
  ("mapper", .ofOption .text s.mapper)])

def UserSettings.toValue (s : UserSettings) : Value := .record (.ofList [
  ("name", .text s.name),
  ("password_hash", .text s.passwordHash),
  ("groups", .texts s.groups),
  ("first_name", .ofOption .text s.firstName),
  ("last_name", .ofOption .text s.lastName),
  ("email", .ofOption .text s.email),
  ("disabled", .bool s.disabled),
  ("locked", .bool s.locked),
  ("password_expired", .bool s.passwordExpired),
  ("change_url", .ofOption .text s.changeUrl)])

def GroupSettings.toValue (s : GroupSettings) : Value := .record (.ofList [
  ("name", .text s.name), ("member_of", .texts s.memberOf)])

def DirectorySettings.toValue (s : DirectorySettings) : Value := .record (.ofList [
  ("name", .text s.name),
  ("record_ttl_minutes", .ofOption .nat s.recordTtlMinutes),
  ("users", .list (s.users.map UserSettings.toValue)),
  ("groups", .list (s.groups.map GroupSettings.toValue))])

def MapperSettings.toValue (s : MapperSettings) : Value := .record (.ofList [
  ("name", .text s.name), ("strip_suffix", .ofOption .text s.stripSuffix),
  ("lowercase", .bool s.lowercase)])

def ExtensionSettings.toValue (s : ExtensionSettings) : Value := .record (.ofList [
  ("internal", .list (s.directories.map DirectorySettings.toValue)),
  ("mappers", .list (s.mappers.map MapperSettings.toValue))])

def PermissionSettings.toValue (s : PermissionSettings) : Value := .record (.ofList [
  ("allow_everyone", .bool s.allowEveryone),
  ("login_users", .texts s.loginUsers),
  ("login_groups", .texts s.loginGroups),
  ("admin_users", .texts s.adminUsers),
  ("admin_groups", .texts s.adminGroups)])

/-- All settings as a value. -/
def Settings.toValue (s : Settings) : Value := .record (.ofList [
  ("session", s.session.toValue),
  ("logging", s.logging.toValue),
  ("database", .ofOption DatabaseSettings.toValue s.database),
  ("worker", s.worker.toValue),
  ("profiles", .list (s.profiles.map ProfileSettings.toValue)),
  ("extensions", s.extensions.toValue),
  ("permissions", s.permissions.toValue)])

end Gatehouse
