import Gatehouse.Fault
import Gatehouse.ObjectId
import Gatehouse.Time.Clockface
import Gatehouse.Account.PrincipalRecord
/-!
Local users: what this program keeps about a principal. A user is known by the authorizer that knows
the principal, its domain, and by the principal's identifier there.
-/

namespace Gatehouse

/-- A local user. -/
structure LocalUser where
  id : ObjectId
  externalId : String
  loginName : String
  domain : String
  /-- The name space of the principal within its domain. -/
  realm : Option String := none
  firstName : Option String := none
  lastName : Option String := none
  email : Option String := none
  department : Option String := none
  groupIds : NameSet := ∅
  /-- Whether the user may administer the system, as last evaluated. -/
  admin : Bool := false
  active : Bool := true
  /-- When `admin` was last evaluated. -/
  lastAdminCheck : Option Instant := none
deriving DecidableEq, Inhabited

namespace LocalUser

/-- The name of a user together with its domain. -/
def qualifiedName (u : LocalUser) : String := u.loginName ++ "@" ++ u.domain

/-- What identifies the principal behind a user: its domain and its identifier there. -/
def key (u : LocalUser) : String × String := (u.domain, u.externalId)

/-- The user that an authorizer's record describes, under a fresh identifier. The record must carry
an identifier or a name; the login name is the name, else the principal, else the identifier. -/
def ofPrincipal (id : ObjectId) (authorizer : String) (r : PrincipalRecord) :
    Except Fault LocalUser :=
  match r.id? <|> r.name? with
  | none =>
    .error (.protocol ("Principal record from '" ++ authorizer ++ "' carries neither ID nor NAME"))
  | some externalId =>
    .ok {
      id, externalId
      loginName := (r.name? <|> r.principal?).getD externalId
      domain := authorizer
      realm := r.realm?
      firstName := r.firstName?
      lastName := r.lastName?
      email := r.email?
      department := r.department?
      groupIds := r.groupIds }

theorem exists_ofPrincipal_iff {id : ObjectId} {authorizer : String} {r : PrincipalRecord} :
    (∃ u, ofPrincipal id authorizer r = .ok u) ↔ (r.id? <|> r.name?).isSome = true := by
  unfold ofPrincipal
  split
  · next h => simp [h]
  · next h => simp [h]

/-- A user as a record. -/
def toRecord (u : LocalUser) : Record := .ofList [
  ("id", .text u.id.toText),
  ("external_id", .text u.externalId),
  ("login_name", .text u.loginName),
  ("domain", .text u.domain),
  ("namespace", .ofOption .text u.realm),
  ("first_name", .ofOption .text u.firstName),
  ("last_name", .ofOption .text u.lastName),
  ("email", .ofOption .text u.email),
  ("department", .ofOption .text u.department),
  ("group_ids", .list (u.groupIds.toList.map .text)),
  ("admin", .bool u.admin),
  ("active", .bool u.active),
  ("last_admin_check", .ofOption (fun t => .text t.toText) u.lastAdminCheck)]

/-- The user that a record describes; what it does not say is empty, absent, or as for a new user. -/
def ofRecord (id : ObjectId) (r : Record) : LocalUser where
  id := ((r.text? "id").bind ObjectId.ofText?).getD id
  externalId := (r.text? "external_id").getD ""
  loginName := (r.text? "login_name").getD ""
  domain := (r.text? "domain").getD ""
  realm := r.text? "namespace"
  firstName := r.text? "first_name"
  lastName := r.text? "last_name"
  email := r.text? "email"
  department := r.text? "department"
  groupIds := match r.find? "group_ids" with
    | some (.list items) => .ofList (items.filterMap Value.text?)
    | _ => ∅
  admin := r.find? "admin" == some (.bool true)
  active := r.find? "active" != some (.bool false)
  lastAdminCheck := (r.int? "last_admin_check").map fun n => ⟨n, 0⟩

end LocalUser

end Gatehouse
