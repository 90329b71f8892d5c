import Gatehouse.Account.LocalUser
/-!
The user directory: one row for every principal, under its domain and its identifier there. A principal
keeps the identifier of its first row, and its administrator flag changes only when it is evaluated.
-/

namespace Gatehouse

/-- The local users by their keys. -/
structure UserDirectory where
  rows : Table (String × String) LocalUser := ∅
deriving Inhabited

namespace UserDirectory

/-- How many users there are. -/
def size (d : UserDirectory) : Nat := d.rows.size

/-- The user of a domain and an identifier there. -/
def findByKey? (d : UserDirectory) (domain externalId : String) : Option LocalUser :=
  d.rows.find? (domain, externalId)

/-- The user of an identifier. -/
def findById? (d : UserDirectory) (id : ObjectId) : Option LocalUser :=
  d.rows.values.find? fun u => u.id = id

/-- The row that a saved user leaves behind: what identifies the old row and what was evaluated for it
stays. -/
def merged (d : UserDirectory) (u : LocalUser) : LocalUser :=
  match d.rows.find? u.key with
  | some old => { u with id := old.id, admin := old.admin, lastAdminCheck := old.lastAdminCheck }
  | none => u

/-- Saves a user, and answers its row. -/
def save (d : UserDirectory) (u : LocalUser) : LocalUser × UserDirectory :=
  let row := d.merged u
  (row, ⟨d.rows.insert u.key row⟩)

/-- Records that the administrator flag of a user was evaluated at a time. -/
def recordAdminCheck (d : UserDirectory) (id : ObjectId) (admin : Bool) (time : Instant) :
    Except Fault Unit × UserDirectory :=
  match d.findById? id with
  | some u =>
    (.ok (), ⟨d.rows.insert u.key { u with admin, lastAdminCheck := some time }⟩)
  | none => (.error (.notFound ("Local user " ++ id.toText ++ " not found")), d)

/-- The users by ascending keys. -/
def toList (d : UserDirectory) : List LocalUser :=
  (d.rows.entries.mergeSort fun a b =>
    a.1.1 < b.1.1 || (a.1.1 == b.1.1 && decide (a.1.2 ≤ b.1.2))).map Prod.snd

/-- The operations of a directory. -/
inductive Op where
  | save (u : LocalUser)
  | findById? (id : ObjectId)
  | findByKey? (domain externalId : String)
  | recordAdminCheck (id : ObjectId) (admin : Bool) (time : Instant)

/-- What an operation answers. -/
def Op.Answer : Op → Type
  | .save _ => LocalUser
  | .findById? _ => Option LocalUser
  | .findByKey? .. => Option LocalUser
  | .recordAdminCheck .. => Unit

/-- The answer of an operation, and the directory after it. -/
def perform (d : UserDirectory) : (op : Op) → Except Fault op.Answer × UserDirectory
  | .save u => let (row, d) := d.save u; (.ok row, d)
  | .findById? id => (.ok (d.findById? id), d)
  | .findByKey? domain externalId => (.ok (d.findByKey? domain externalId), d)
  | .recordAdminCheck id admin time => d.recordAdminCheck id admin time

end UserDirectory

end Gatehouse
