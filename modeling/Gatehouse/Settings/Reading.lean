import Gatehouse.Settings.Schema
import Gatehouse.Text.Lowercase
/-!
Settings out of values. Values that another program wrote are read exactly; values that people wrote
into files or variables are coerced to the kind that a setting has. A group of settings is a record,
or the list of its values in order.
-/

namespace Gatehouse

/-- How single values are read. -/
structure Reading where
  /-- A number below a bound. -/
  word : Nat → Value → Option Nat
  bool : Value → Option Bool
  text : Value → Option String
  /-- Whether a list may hold more values than a group has settings. -/
  surplus : Bool

namespace Reading

/-- A value is taken as it is. -/
def exact : Reading where
  word bound
    | .int n => if 0 ≤ n ∧ n < bound then some n.toNat else none
    | _ => none
  bool
    | .bool b => some b
    | _ => none
  text := Value.text?
  surplus := false

/-- A number of decimal digits, perhaps after a plus sign. -/
def decimal? (s : String) : Option Nat :=
  let ds := match s.toList with
    | '+' :: rest => rest
    | cs => cs
  if ds.isEmpty || !ds.all Char.isDigit then none
  else some (ds.foldl (fun n c => n * 10 + (c.toNat - '0'.toNat)) 0)

/-- A word that says yes or no. -/
def affirmation? (s : String) : Option Bool :=
  if s = "true" ∨ s = "on" ∨ s = "yes" then some true
  else if s = "false" ∨ s = "off" ∨ s = "no" then some false
  else none

/-- A value as a number: a text by what it says, a fraction rounded with halves away from zero. -/
def coerceWord : Value → Option Nat
  | .int n => if 0 ≤ n then some n.toNat else none
  | .float x => some x.toWord64
  | .bool b => some b.toNat
  | .text s =>
    match affirmation? (Lowercase.lower s) with
    | some b => some b.toNat
    | none => decimal? s
  | _ => none

/-- A value as a truth value: a number is true unless it is zero. -/
def coerceBool : Value → Option Bool
  | .bool b => some b
  | .int n => some (n ≠ 0)
  | .float x => some (!x.isZero)
  | .text s =>
    let s := Lowercase.lower s
    if s = "1" then some true else if s = "0" then some false else affirmation? s
  | _ => none

/-- A value as a text. -/
def coerceText : Value → Option String
  | .text s => some s
  | .bool b => some (if b then "true" else "false")
  | .int n => some (toString n)
  | .float x => some x.toPlainText
  | _ => none

/-- A value is coerced to the kind that is asked for. -/
def coercing : Reading where
  word bound v := (coerceWord v).filter (· < bound)
  bool := coerceBool
  text := coerceText
  surplus := true

/-- The value of a setting in a group, by its position and its name. -/
abbrev Group := Nat → String → Option Value

/-- The settings of a group of `arity` settings. -/
def group (rd : Reading) (arity : Nat) : Value → Option Group
  | .record r => some fun _ key => Table.find? r key
  | .list items => if rd.surplus || items.length ≤ arity then some fun i _ => items[i]? else none
  | _ => none

/-- A setting that must be there. -/
def required (g : Group) (i : Nat) (key : String) (read : Value → Option α) : Option α :=
  (g i key).bind read

/-- A setting that has a value when nothing is said. -/
def withDefault (g : Group) (i : Nat) (key : String) (read : Value → Option α) (d : α) : Option α :=
  match g i key with
  | some v => read v
  | none => some d

/-- A setting that may be missing or null. -/
def optional (g : Group) (i : Nat) (key : String) (read : Value → Option α) : Option (Option α) :=
  match g i key with
  | none | some .null => some none
  | some v => (read v).map some

/-- A list of settings. -/
def list (read : Value → Option α) : Value → Option (List α)
  | .list items => items.mapM read
  | _ => none

variable (rd : Reading)

def word32 : Value → Option Nat := rd.word UInt32.size

def word64 : Value → Option Nat := rd.word UInt64.size

def session (v : Value) : Option SessionSettings := do
  let g ← rd.group 4 v
  pure {
    hardLimitMinutes := ← withDefault g 0 "hard_limit_minutes" rd.word32 600
    softLimitMinutes := ← withDefault g 1 "soft_limit_minutes" rd.word32 30
    cleanupIntervalSeconds := ← withDefault g 2 "cleanup_interval_seconds" rd.word64 60
    retainPassword := ← withDefault g 3 "retain_password" rd.bool true }

def logging (v : Value) : Option LoggingSettings := do
  let g ← rd.group 2 v
  pure {
    level := ← withDefault g 0 "level" rd.text "info"
    format := ← withDefault g 1 "format" rd.text "json" }

def database (v : Value) : Option DatabaseSettings := do
  let g ← rd.group 5 v
  pure {
    url := ← required g 0 "url" rd.text
    maxConnections := ← withDefault g 1 "max_connections" rd.word32 5
    minConnections := ← withDefault g 2 "min_connections" rd.word32 1
    connectTimeoutSeconds := ← withDefault g 3 "connect_timeout_seconds" rd.word64 10
    runMigrations := ← withDefault g 4 "run_migrations" rd.bool true }

def worker (v : Value) : Option WorkerSettings := do
  let g ← rd.group 2 v
  pure {
    queueCapacity := ← withDefault g 0 "queue_capacity" rd.word64 1024
    concurrency := ← withDefault g 1 "concurrency" rd.word64 4 }

def profile (v : Value) : Option ProfileSettings := do
  let g ← rd.group 4 v
  pure {
    name := ← required g 0 "name" rd.text
    authn := ← required g 1 "authn" rd.text
    authz := ← required g 2 "authz" rd.text
    mapper := ← optional g 3 "mapper" rd.text }

def user (v : Value) : Option UserSettings := do
  let g ← rd.group 10 v
  pure {
    name := ← required g 0 "name" rd.text
    passwordHash := ← required g 1 "password_hash" rd.text
    groups := ← withDefault g 2 "groups" (list rd.text) []
    firstName := ← optional g 3 "first_name" rd.text
    lastName := ← optional g 4 "last_name" rd.text
    email := ← optional g 5 "email" rd.text
    disabled := ← withDefault g 6 "disabled" rd.bool false
    locked := ← withDefault g 7 "locked" rd.bool false
    passwordExpired := ← withDefault g 8 "password_expired" rd.bool false
    changeUrl := ← optional g 9 "change_url" rd.text }

def userGroup (v : Value) : Option GroupSettings := do
  let g ← rd.group 2 v
  pure {
    name := ← required g 0 "name" rd.text
    memberOf := ← withDefault g 1 "member_of" (list rd.text) [] }

def directory (v : Value) : Option DirectorySettings := do
  let g ← rd.group 4 v
  pure {
    name := ← required g 0 "name" rd.text
    recordTtlMinutes := ← optional g 1 "record_ttl_minutes" rd.word32
    users := ← withDefault g 2 "users" (list rd.user) []
    groups := ← withDefault g 3 "groups" (list rd.userGroup) [] }

def mapper (v : Value) : Option MapperSettings := do
  let g ← rd.group 3 v
  pure {
    name := ← required g 0 "name" rd.text
    stripSuffix := ← optional g 1 "strip_suffix" rd.text
    lowercase := ← withDefault g 2 "lowercase" rd.bool false }

def extensions (v : Value) : Option ExtensionSettings := do
  let g ← rd.group 2 v
  pure {
    directories := ← withDefault g 0 "internal" (list rd.directory) []
    mappers := ← withDefault g 1 "mappers" (list rd.mapper) [] }

def permissions (v : Value) : Option PermissionSettings := do
  let g ← rd.group 5 v
  pure {
    allowEveryone := ← withDefault g 0 "allow_everyone" rd.bool false
    loginUsers := ← withDefault g 1 "login_users" (list rd.text) []
    loginGroups := ← withDefault g 2 "login_groups" (list rd.text) []
    adminUsers := ← withDefault g 3 "admin_users" (list rd.text) []
    adminGroups := ← withDefault g 4 "admin_groups" (list rd.text) [] }

/-- All settings. -/
def settings (v : Value) : Option Settings := do
  let g ← rd.group 7 v
  pure {
    session := ← withDefault g 0 "session" rd.session {}
    logging := ← withDefault g 1 "logging" rd.logging {}
    database := ← optional g 2 "database" rd.database
    worker := ← withDefault g 3 "worker" rd.worker {}
    profiles := ← withDefault g 4 "profiles" (list rd.profile) []
    extensions := ← withDefault g 5 "extensions" rd.extensions {}
    permissions := ← withDefault g 6 "permissions" rd.permissions {} }

end Reading

end Gatehouse
