import Gatehouse.ObjectId
import Gatehouse.Time.Clockface
import Gatehouse.Audit.Event
import Gatehouse.Data.ToValue
/-!
The audit trail: entries in the order in which they were logged. An entry is never changed.
-/

namespace Gatehouse

/-- An entry of the audit trail. -/
structure AuditEntry where
  id : ObjectId
  /-- Whom the event is logged against. -/
  userName : String
  event : AuditEvent
  createdAt : Instant
deriving DecidableEq

/-- An entry as a record. -/
def AuditEntry.toRecord (e : AuditEntry) : Record := .ofList [
  ("id", .text e.id.toText),
  ("user_name", .text e.userName),
  ("log_type", .text e.event.name),
  ("created_at", .text e.createdAt.toText)]

/-- What a log shows of an entry. -/
def AuditEntry.line (e : AuditEntry) : Record := .ofList [
  ("user", .text e.userName),
  ("event", .text e.event.code),
  ("message", .text "Audit event")]

/-- An audit trail. -/
structure AuditTrail where
  entries : List AuditEntry := []
deriving Inhabited

namespace AuditTrail

/-- Logs an entry. -/
def log (t : AuditTrail) (e : AuditEntry) : AuditTrail := ⟨t.entries ++ [e]⟩

/-- The entries of an event. -/
def entriesOf (t : AuditTrail) (e : AuditEvent) : List AuditEntry :=
  t.entries.filter fun x => x.event = e

@[simp] theorem entries_log (t : AuditTrail) (e : AuditEntry) : (t.log e).entries = t.entries ++ [e] := rfl

/-- Logging adds to the entries of the logged event alone. -/
theorem entriesOf_log (t : AuditTrail) (x : AuditEntry) (e : AuditEvent) :
    (t.log x).entriesOf e = t.entriesOf e ++ if x.event = e then [x] else [] := by
  by_cases h : x.event = e <;> simp [entriesOf, h]

end AuditTrail

end Gatehouse
