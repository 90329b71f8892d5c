import Gatehouse.Secret
import Gatehouse.Account.AuthRecord
import Gatehouse.Account.LocalUser
/-!
Sessions: what a login leaves behind. A session expires at its hard limit, which belongs to the
expired time, and is idle when it was last seen longer ago than the soft limit.
-/

namespace Gatehouse

/-- A session. -/
structure Session where
  user : Option LocalUser := none
  profile : Option String := none
  authRecord : Option AuthRecord := none
  principalRecord : Option PrincipalRecord := none
  /-- The password that the session retains, to log in elsewhere on the user's behalf. -/
  password : Option Secret := none
  /-- When the session expires, if it does. -/
  hardLimit : Option Instant := none
  createdAt : Instant
  lastSeen : Instant
deriving Inhabited

namespace Session

/-- A session without content. -/
def new (now : Instant) : Session := { createdAt := now, lastSeen := now }

/-- Whether the hard limit has come. -/
def isExpired (s : Session) (now : Instant) : Bool :=
  match s.hardLimit with
  | some limit => limit ≤ now
  | none => false

theorem isExpired_iff {s : Session} {now : Instant} :
    s.isExpired now = true ↔ ∃ limit, s.hardLimit = some limit ∧ limit ≤ now := by
  unfold isExpired
  cases s.hardLimit <;> simp

/-- Whether the session was last seen longer ago than the soft limit; by one that is not positive no
session is idle. -/
def isIdle (s : Session) (now : Instant) (softLimit : Span) : Bool :=
  0 < softLimit.nanos && softLimit.nanos < now.since s.lastSeen

theorem isIdle_eq_false_iff {s : Session} {now : Instant} {softLimit : Span} :
    s.isIdle now softLimit = false ↔ softLimit.nanos ≤ 0 ∨ now.since s.lastSeen ≤ softLimit.nanos := by
  simp only [isIdle, Bool.and_eq_false_iff, decide_eq_false_iff_not, Int.not_lt]

/-- What can be written into a session. -/
inductive Edit where
  | user (u : LocalUser)
  | password (p : Secret)
  | profile (name : String)
  | authRecord (r : AuthRecord)
  | principalRecord (r : PrincipalRecord)
  | hardLimit (limit : Option Instant)
  /-- The session is in use. -/
  | seen

/-- Writes into a session. -/
def edit (s : Session) (now : Instant) : Edit → Session
  | .user u => { s with user := some u }
  | .password p => { s with password := some p }
  | .profile name => { s with profile := some name }
  | .authRecord r => { s with authRecord := some r }
  | .principalRecord r => { s with principalRecord := some r }
  | .hardLimit limit => { s with hardLimit := limit }
  | .seen => { s with lastSeen := now }

/-- A session as a record; its password is not shown. -/
def toRecord (s : Session) : Record := .ofList [
  ("user", .ofOption (fun u => .record u.toRecord) s.user),
  ("profile_name", .ofOption .text s.profile),
  ("auth_record", .ofOption (fun r => .record r.fields) s.authRecord),
  ("principal_record", .ofOption (fun r => .record r.fields) s.principalRecord),
  ("password", .ofOption (fun p => .text p.text) s.password),
  ("hard_limit", .ofOption (fun t => .text t.toText) s.hardLimit),
  ("created_at", .text s.createdAt.toText),
  ("last_seen", .text s.lastSeen.toText)]

end Session

end Gatehouse
