import Gatehouse.Data.Value
import Gatehouse.Time.Stamp
import Gatehouse.Data.ToValue
/-!
Authentication records: what an authenticator says about who was authenticated, and until when it
vouches for it.
-/

namespace Gatehouse

/-- An authentication record. -/
structure AuthRecord where
  fields : Record
deriving Inhabited

/-- A validity end that is no stamp. -/
structure StampFault where
  value : String
  flaw : Stamp.Flaw

/-- The text of the fault. -/
def StampFault.message (e : StampFault) : String :=
  "invalid VALID_TO '" ++ e.value ++ "': " ++ e.flaw.text

namespace AuthRecord

instance : ToValue AuthRecord := ⟨fun r => .record r.fields⟩

/-- Who was authenticated. -/
def principalKey : String := "PRINCIPAL"

/-- Until when the record is valid. -/
def validToKey : String := "VALID_TO"

/-- The name under which the principal authenticated. -/
def userKey : String := "USER"

/-- The record of a principal. -/
def new (principal : String) : AuthRecord := ⟨(∅ : Record).insertText principalKey principal⟩

def principal? (r : AuthRecord) : Option String := r.fields.text? principalKey

def withPrincipal (r : AuthRecord) (principal : String) : AuthRecord :=
  ⟨r.fields.insertText principalKey principal⟩

@[simp] theorem principal?_withPrincipal (r : AuthRecord) (principal : String) :
    (r.withPrincipal principal).principal? = some principal := by
  unfold principal? withPrincipal Record.text? Record.insertText
  rw [Table.find?_insert_self]
  rfl

/-- The text of the validity end. -/
def validToText? (r : AuthRecord) : Option String := r.fields.text? validToKey

/-- The validity end that a text means. -/
def parseValidTo (s : String) : Except StampFault Instant :=
  (Stamp.parse s).mapError fun flaw => ⟨s, flaw⟩

/-- The validity end; a record without one, or with one that is not a text, has none. -/
def validTo? (r : AuthRecord) : Option (Except StampFault Instant) := r.validToText?.map parseValidTo

/-- The record says, in a text that can be read, that it is valid until then. -/
def VouchesUntil (r : AuthRecord) (t : Instant) : Prop :=
  ∃ s, r.fields.find? validToKey = some (.text s) ∧ parseValidTo s = .ok t

/-- What a record vouches for does not hinge on whose it is. -/
@[simp] theorem vouchesUntil_withPrincipal {r : AuthRecord} {principal : String} {t : Instant} :
    (r.withPrincipal principal).VouchesUntil t ↔ r.VouchesUntil t := by
  unfold VouchesUntil withPrincipal Record.insertText
  rw [Table.find?_insert_of_ne _ _ (by decide)]

theorem validTo?_eq_some_ok_iff {r : AuthRecord} {t : Instant} : r.validTo? = some (.ok t) ↔ r.VouchesUntil t := by
  unfold validTo? validToText? VouchesUntil Record.text?
  cases h : r.fields.find? validToKey with
  | none => simp
  | some v => cases v <;> simp [Value.text?]

def withValidTo (r : AuthRecord) (t : Instant) : AuthRecord :=
  ⟨r.fields.insertText validToKey (Stamp.format t)⟩

end AuthRecord

end Gatehouse
