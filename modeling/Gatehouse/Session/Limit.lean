import Gatehouse.Account.AuthRecord
/-!
The hard limit of a new session: the earlier of what the settings allow and what the authenticator
vouches for. A validity end that cannot be read limits nothing.
-/

namespace Gatehouse.Session

/-- The limit that the settings set; zero minutes set none. -/
def configuredLimit (now : Instant) (minutes : Nat) : Option Instant :=
  if minutes = 0 then none else some (now.addMinutes minutes)

/-- The limit that an authentication record sets. -/
def vouchedLimit (record : AuthRecord) : Option Instant :=
  match record.validTo? with
  | some (.ok t) => some t
  | _ => none

/-- The earlier of two limits, either of which may be missing. -/
def earlierLimit : Option Instant → Option Instant → Option Instant
  | some a, some b => some (a.earlier b)
  | some a, none => some a
  | none, b => b

/-- The hard limit of a session that starts now. -/
def hardLimitFrom (now : Instant) (minutes : Nat) (record : AuthRecord) : Option Instant :=
  earlierLimit (configuredLimit now minutes) (vouchedLimit record)

theorem configuredLimit_eq_some_iff {now limit : Instant} {minutes : Nat} :
    configuredLimit now minutes = some limit ↔ 0 < minutes ∧ limit = now.addMinutes minutes := by
  unfold configuredLimit
  split
  · next h => simp [h]
  · next h => simp [eq_comm, Nat.pos_of_ne_zero h]

theorem vouchedLimit_eq_some_iff {record : AuthRecord} {limit : Instant} :
    vouchedLimit record = some limit ↔ record.VouchesUntil limit := by
  unfold vouchedLimit
  rw [← AuthRecord.validTo?_eq_some_ok_iff]
  cases record.validTo? with
  | none => simp
  | some r => cases r <;> simp

/-- Under a record that vouches until a point in time there is a limit, even if the settings set none. -/
theorem hardLimitFrom_of_vouchesUntil {now limit : Instant} {minutes : Nat} {record : AuthRecord}
    (h : record.VouchesUntil limit) :
    hardLimitFrom now minutes record =
      some (if minutes = 0 then limit else (now.addMinutes minutes).earlier limit) := by
  unfold hardLimitFrom configuredLimit
  rw [vouchedLimit_eq_some_iff.2 h]
  split <;> rfl

/-- The earlier of two limits has come when either has. -/
theorem earlierLimit_le_iff {a b : Option Instant} {t : Instant} :
    (∃ limit, earlierLimit a b = some limit ∧ limit ≤ t) ↔
      (∃ limit, a = some limit ∧ limit ≤ t) ∨ ∃ limit, b = some limit ∧ limit ≤ t := by
  cases a <;> cases b <;> simp [earlierLimit, Instant.earlier_le_iff]

theorem earlierLimit_eq_none_iff {a b : Option Instant} : earlierLimit a b = none ↔ a = none ∧ b = none := by
  cases a <;> cases b <;> simp [earlierLimit]

end Gatehouse.Session
