import Gatehouse.Secret
import Gatehouse.Wire.Field
import Gatehouse.Wire.Verdict
import Gatehouse.Account.AuthRecord
import Gatehouse.Account.PrincipalRecord
/-!
The messages that are exchanged with extensions, each with its map. Reading checks the fields in the
order in which they are named here, and the first flaw counts.
-/

namespace Gatehouse.Wire

/-- A request with only its command. -/
def request (c : Command) : Record := (∅ : Record).insertText commandKey c.text

/-- A request keeps its command when it is given another field. -/
theorem command_insert (c : Command) {key : String} (h : key ≠ commandKey) (v : Value) :
    command ((request c).insert key v) = .ok c := by
  have hfind : ((request c).insert key v).find? commandKey = some (.text c.text) := by
    rw [Table.find?_insert_of_ne _ _ h]
    exact Table.find?_insert_self ..
  unfold command
  rw [hfind]
  cases c <;> rfl

/-- Binds a key to a record, if there is one. -/
def insertRecord? (m : Record) (key : String) (r : Option Record) : Record :=
  match r with
  | some r => m.insert key (.record r)
  | none => m

/-- Asks an authenticator to check credentials. -/
structure AuthnRequest where
  user : String
  credentials : Secret
deriving DecidableEq

namespace AuthnRequest

def toMap (q : AuthnRequest) : Record :=
  ((request .authenticateCredentials).insertText userKey q.user).insertText credentialsKey
    q.credentials.exposed

def ofMap (m : Record) : Except Flaw AuthnRequest := do
  expect .authenticateCredentials m
  let user ← text m userKey
  let credentials ← text m credentialsKey
  pure { user, credentials := ⟨credentials⟩ }

/-- A request as it may be shown. -/
def inspect (q : AuthnRequest) : String :=
  "AuthnRequest \x7b user: \"" ++ q.user ++ "\", credentials: " ++ q.credentials.inspect ++ " \x7d"

end AuthnRequest

/-- An authenticator's answer. -/
structure AuthnResponse where
  result : Verdict
  principal : Option String := none
  authRecord : Option AuthRecord := none
  /-- Where the user can change expired credentials. -/
  changeUrl : Option String := none
  /-- What the authenticator wants the user to be told. -/
  userMessage : Option String := none

namespace AuthnResponse

/-- Credentials were accepted. -/
def success (record : AuthRecord) : AuthnResponse :=
  { result := .success, principal := record.principal?, authRecord := some record }

/-- Credentials were not accepted. -/
def failure (result : Verdict) : AuthnResponse := { result }

def withPrincipal (a : AuthnResponse) (principal : String) : AuthnResponse :=
  { a with principal := some principal }

def withChangeUrl (a : AuthnResponse) (url : String) : AuthnResponse := { a with changeUrl := some url }

def withUserMessage (a : AuthnResponse) (message : String) : AuthnResponse :=
  { a with userMessage := some message }

def toMap (a : AuthnResponse) : Record :=
  let m : Record := (∅ : Record).insert resultKey (.int a.result.code)
  let m : Record := m.insertText? principalKey a.principal
  let m : Record := insertRecord? m authRecordKey (a.authRecord.map AuthRecord.fields)
  let m : Record := m.insertText? changeUrlKey a.changeUrl
  m.insertText? userMessageKey a.userMessage

/-- An answer must have a verdict, and a record if the verdict is success. -/
def ofMap (m : Record) : Except Flaw AuthnResponse := do
  let some code ← int? m resultKey | throw (.missingField resultKey)
  let result := Verdict.ofCode code
  let authRecord ← record? m authRecordKey
  if result.isSuccess && authRecord.isNone then throw (.missingField authRecordKey)
  let principal ← text? m principalKey
  let changeUrl ← text? m changeUrlKey
  let userMessage ← text? m userMessageKey
  pure { result, principal, authRecord := authRecord.map AuthRecord.mk, changeUrl, userMessage }

/-- What an answer says, by the names of its parts. -/
def summary (a : AuthnResponse) : Record := .ofList [
  ("result", .text a.result.text),
  ("principal", .ofOption .text a.principal),
  ("auth_record", .ofOption (fun r => .record r.fields) a.authRecord),
  ("change_url", .ofOption .text a.changeUrl),
  ("user_message", .ofOption .text a.userMessage)]

instance : ToValue AuthnResponse := ⟨fun a => .record a.summary⟩

/-- Whether two answers say the same. -/
def beq (a b : AuthnResponse) : Bool :=
  a.result == b.result && a.principal == b.principal
    && a.authRecord.map AuthRecord.fields == b.authRecord.map AuthRecord.fields
    && a.changeUrl == b.changeUrl && a.userMessage == b.userMessage

instance : BEq AuthnResponse := ⟨beq⟩

end AuthnResponse

/-- Asks a mapper for the name under which a user is known to the authenticator. -/
structure MapUserRequest where
  user : String
deriving DecidableEq

namespace MapUserRequest

def toMap (q : MapUserRequest) : Record := (request .mapUser).insertText userKey q.user

theorem command_toMap (q : MapUserRequest) : command q.toMap = .ok .mapUser :=
  command_insert _ (by decide) _

def ofMap (m : Record) : Except Flaw MapUserRequest := do
  expect .mapUser m
  let user ← text m userKey
  pure { user }

end MapUserRequest

/-- Asks a mapper for the record that the authorizer is to see. -/
structure MapAuthRecordRequest where
  authRecord : AuthRecord

namespace MapAuthRecordRequest

def toMap (q : MapAuthRecordRequest) : Record :=
  (request .mapAuthRecord).insert authRecordKey (.record q.authRecord.fields)

theorem command_toMap (q : MapAuthRecordRequest) : command q.toMap = .ok .mapAuthRecord :=
  command_insert _ (by decide) _

def ofMap (m : Record) : Except Flaw MapAuthRecordRequest := do
  expect .mapAuthRecord m
  let r ← record m authRecordKey
  pure { authRecord := ⟨r⟩ }

end MapAuthRecordRequest

/-- A mapper's answer; what is missing stays as it was. -/
structure MappingResponse where
  user : Option String := none
  authRecord : Option AuthRecord := none

namespace MappingResponse

/-- What an answer says, by the names of its parts. -/
def summary (a : MappingResponse) : Record := .ofList [
  ("user", .ofOption .text a.user),
  ("auth_record", .ofOption (fun r => .record r.fields) a.authRecord)]

instance : ToValue MappingResponse := ⟨fun a => .record a.summary⟩

/-- The name to go on with. -/
def userOr (a : MappingResponse) (user : String) : String := a.user.getD user

/-- The record to go on with. -/
def authRecordOr (a : MappingResponse) (record : AuthRecord) : AuthRecord := a.authRecord.getD record

def toMap (a : MappingResponse) : Record :=
  let m : Record := (∅ : Record).insert resultKey (.int Verdict.success.code)
  let m : Record := m.insertText? userKey a.user
  insertRecord? m authRecordKey (a.authRecord.map AuthRecord.fields)

def ofMap (m : Record) : Except Flaw MappingResponse := do
  let user ← text? m userKey
  let authRecord ← record? m authRecordKey
  pure { user, authRecord := authRecord.map AuthRecord.mk }

end MappingResponse

/-- Asks an authorizer for the record of a principal. -/
structure FetchPrincipalRequest where
  authRecord : AuthRecord

namespace FetchPrincipalRequest

def toMap (q : FetchPrincipalRequest) : Record :=
  (request .fetchPrincipalRecord).insert authRecordKey (.record q.authRecord.fields)

theorem command_toMap (q : FetchPrincipalRequest) : command q.toMap = .ok .fetchPrincipalRecord :=
  command_insert _ (by decide) _

def ofMap (m : Record) : Except Flaw FetchPrincipalRequest := do
  expect .fetchPrincipalRecord m
  let r ← record m authRecordKey
  pure { authRecord := ⟨r⟩ }

end FetchPrincipalRequest

/-- An authorizer's answer; it need not know the principal. -/
structure FetchPrincipalResponse where
  principalRecord : Option PrincipalRecord := none

namespace FetchPrincipalResponse

def toMap (a : FetchPrincipalResponse) : Record :=
  insertRecord? ((∅ : Record).insert resultKey (.int Verdict.success.code)) principalRecordKey
    (a.principalRecord.map PrincipalRecord.fields)

def ofMap (m : Record) : Except Flaw FetchPrincipalResponse := do
  let r ← record? m principalRecordKey
  pure { principalRecord := r.map PrincipalRecord.mk }

end FetchPrincipalResponse

end Gatehouse.Wire
