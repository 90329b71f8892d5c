import Gatehouse.Account.LocalUser
import Gatehouse.Settings.Schema
/-!
Permissions: who may log in and who administers, by login name and by group. An administrator may
always log in.
-/

namespace Gatehouse

/-- What is asked about a user who wants to log in. -/
structure PermissionQuery where
  userId : ObjectId
  loginName : String
  groupIds : NameSet
  objectId : ObjectId
  /-- Whether the rules that hold for everyone apply. -/
  bypassObjectAcl : Bool
deriving DecidableEq

/-- May the user log in? No object is named, and the rules that hold for everyone apply. -/
def PermissionQuery.login (u : LocalUser) : PermissionQuery where
  userId := u.id
  loginName := u.loginName
  groupIds := u.groupIds
  objectId := .bottom
  bypassObjectAcl := true

/-- The permissions that the settings grant. -/
structure PermissionTable where
  allowEveryone : Bool := false
  loginUsers : NameSet := ∅
  loginGroups : NameSet := ∅
  adminUsers : NameSet := ∅
  adminGroups : NameSet := ∅
deriving Inhabited

namespace PermissionTable

def ofSettings (s : PermissionSettings) : PermissionTable where
  allowEveryone := s.allowEveryone
  loginUsers := .ofList s.loginUsers
  loginGroups := .ofList s.loginGroups
  adminUsers := .ofList s.adminUsers
  adminGroups := .ofList s.adminGroups

/-- Whether a name, or one of its groups, administers. -/
def administers (t : PermissionTable) (loginName : String) (groupIds : NameSet) : Bool :=
  loginName ∈ t.adminUsers || groupIds.toList.any (· ∈ t.adminGroups)

/-- Whether a user may log in. -/
def grantsLogin (t : PermissionTable) (q : PermissionQuery) : Bool :=
  (t.allowEveryone && q.bypassObjectAcl)
    || q.loginName ∈ t.loginUsers
    || q.groupIds.toList.any (· ∈ t.loginGroups)
    || t.administers q.loginName q.groupIds

/-- Whether a user administers. -/
def isAdmin (t : PermissionTable) (u : LocalUser) : Bool := t.administers u.loginName u.groupIds

end PermissionTable

end Gatehouse
