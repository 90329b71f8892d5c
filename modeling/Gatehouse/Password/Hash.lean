import Gatehouse.Fault
import Gatehouse.Text.Base64
import Gatehouse.Password.Argon2
/-!
Password hashes as text: `$variant$v=19$m=19456,t=2,p=1$salt$hash`, where all but the variant may be
missing. Reading a hash checks its form only; whether it can be verified is known when it is used.
-/

namespace Gatehouse

/-- A password hash as it is written. -/
structure PasswordHash where
  algorithm : String
  version : Option Nat := none
  parameters : List (String × String) := []
  /-- The salt as written. -/
  salt : Option String := none
  /-- The bytes of the hash. -/
  hash : Option (List UInt8) := none

namespace PasswordHash

/-- Splits at every occurrence of a character. -/
def splitOn (x : Char) : List Char → List (List Char)
  | [] => [[]]
  | c :: rest =>
    match splitOn x rest with
    | field :: fields => if c = x then [] :: field :: fields else (c :: field) :: fields
    | [] => [[c]]

/-- The name of an algorithm or a parameter. -/
def name? (cs : List Char) : Option String :=
  if !cs.isEmpty && cs.length ≤ 32 && cs.all fun c => c.isLower || c.isDigit || c == '-' then
    some (String.ofList cs)
  else none

/-- The text of a value: that of a parameter, say. -/
def value? (cs : List Char) : Option String :=
  if cs.length ≤ 64 && cs.all fun c => c.isAlphanum || c == '/' || c == '+' || c == '.' || c == '-' then
    some (String.ofList cs)
  else none

/-- A number of 32 bits, written without zeros in front. -/
def decimal? (cs : List Char) : Option Nat :=
  if !cs.isEmpty && cs.all Char.isDigit && (cs.head? != some '0' || cs.length == 1) then
    let n := cs.foldl (fun n c => n * 10 + (c.toNat - '0'.toNat)) 0
    if n < UInt32.size then some n else none
  else none

/-- A parameter and its value. -/
def parameter? (cs : List Char) : Option (String × String) :=
  match splitOn '=' cs with
  | [n, v] => do pure (← name? n, ← value? v)
  | _ => none

/-- Parameters between commas. -/
def parameters? (cs : List Char) : Option (List (String × String)) :=
  if cs.length ≤ 127 then (splitOn ',' cs).mapM parameter? else none

/-- The text of a salt, which may hold bytes or not. -/
def salt? (cs : List Char) : Option String := if 4 ≤ cs.length then value? cs else none

/-- The bytes of a hash: at least 10 and at most 64. -/
def bytes? (cs : List Char) : Option (List UInt8) := do
  let bytes ← Base64.decodeChars? .standard cs
  if 10 ≤ bytes.length ∧ bytes.length ≤ 64 then pure bytes else none

/-- The version field, if it is one, and the fields after it. -/
def version? : List (List Char) → Option (Option Nat × List (List Char))
  | ('v' :: '=' :: v) :: rest =>
    if v.contains ',' then some (none, ('v' :: '=' :: v) :: rest)
    else do
      let n ← decimal? v
      pure (some n, rest)
  | fields => some (none, fields)

/-- The parameter field, if it is one, and the fields after it. -/
def parameterField? : List (List Char) → Option (List (String × String) × List (List Char))
  | field :: rest => if field.contains '=' then (parameters? field).map (·, rest) else some ([], field :: rest)
  | [] => some ([], [])

/-- The hash that a text writes. -/
def ofText? (s : String) : Option PasswordHash :=
  match splitOn '$' s.toList with
  | [] :: algorithm :: fields => do
    let algorithm ← name? algorithm
    let (version, fields) ← version? fields
    let (parameters, fields) ← parameterField? fields
    match fields with
    | [] => pure { algorithm, version, parameters }
    | [salt] => pure { algorithm, version, parameters, salt := some (← salt? salt) }
    | [salt, hash] =>
      pure { algorithm, version, parameters, salt := some (← salt? salt), hash := some (← bytes? hash) }
    | _ => none
  | _ => none

/-- The variant of an algorithm's name. -/
def variant? : String → Option Argon2.Variant
  | "argon2d" => some .d
  | "argon2i" => some .i
  | "argon2id" => some .id
  | _ => none

/-- The version of a number; without one it is the newer. -/
def versionOf? : Option Nat → Option Argon2.Version
  | none => some .v13
  | some 19 => some .v13
  | some 16 => some .v10
  | some _ => none

/-- Takes a parameter into the settings. -/
def withParameter? (s : Argon2.Settings) (p : String × String) : Option Argon2.Settings :=
  match p with
  | ("m", v) => (decimal? v.toList).map ({ s with memory := · })
  | ("t", v) => (decimal? v.toList).map ({ s with passes := · })
  | ("p", v) => (decimal? v.toList).map ({ s with lanes := · })
  | ("keyid", v) => do
    let bytes ← Base64.decode? .standard v
    if bytes.length ≤ 8 then pure s else none
  | ("data", v) => do
    let bytes ← Base64.decode? .standard v
    if bytes.length ≤ 32 then pure { s with data := bytes } else none
  | _ => none

/-- Whether a hash can be made with the settings. -/
def usable (s : Argon2.Settings) : Bool :=
  8 ≤ s.memory && 1 ≤ s.passes && 1 ≤ s.lanes && s.lanes ≤ 0xffffff && 8 * s.lanes ≤ s.memory

/-- What to make a hash with to compare it with this one. -/
def settings? (h : PasswordHash) (size : Nat) : Option Argon2.Settings := do
  let s ← h.parameters.foldlM withParameter? { size }
  if usable s then
    let variant ← variant? h.algorithm
    let version ← versionOf? h.version
    pure { s with variant, version }
  else none

/-- Whether the password is the one that was hashed; nothing if the hash cannot be made. A hash that
was written without salt or without bytes fits no password. -/
def fits? (h : PasswordHash) (password : String) : Option Bool :=
  match h.salt, h.hash with
  | some salt, some expected => do
    let s ← h.settings? expected.length
    let salt ← Base64.decode? .standard salt
    if 8 ≤ salt.length then
      pure (Argon2.hash s password.toUTF8.data.toList salt == expected)
    else none
  | _, _ => some false

/-- Whether a password is the one whose hash a text writes. -/
def verify (password hash : String) : Except Fault Bool :=
  match ofText? hash with
  | none => .error (.configuration "Invalid password hash format")
  | some h =>
    match h.fits? password with
    | some b => .ok b
    | none => .error (.internal "Password verification failed")

/-- A password that cannot be verified is no reason to end the program. -/
theorem isFatal_of_verify {password hash : String} {e : Fault} (h : verify password hash = .error e) :
    e.isFatal = false := by
  unfold verify at h
  split at h
  · cases h
    rfl
  · split at h
    · cases h
    · cases h
      rfl

/-- The hash of a password with a salt, as text. -/
def make (password : String) (salt : List UInt8) : String :=
  let s : Argon2.Settings := {}
  "$argon2id$v=19$m=" ++ toString s.memory ++ ",t=" ++ toString s.passes ++ ",p=" ++ toString s.lanes
    ++ "$" ++ Base64.encode .standard salt
    ++ "$" ++ Base64.encode .standard (Argon2.hash s password.toUTF8.data.toList salt)

end PasswordHash

end Gatehouse
