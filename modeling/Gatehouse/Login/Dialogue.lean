import Gatehouse.Account.LocalUser
import Gatehouse.Accounting.Report
import Gatehouse.Audit.Event
import Gatehouse.Background.AdminCheck
import Gatehouse.Extension.Profile
import Gatehouse.Permission
import Gatehouse.Session.Store
/-!
Dialogues: a login attempt as a conversation with its collaborators. A dialogue says what is asked and
how it goes on after each reply; who replies, and what, is left open. `run` lets a handler reply, which
may be any function of the request and of a state of its own.

Main statements: dialogues are a lawful monad, and running one that is composed of two is running the
one and then the other.
-/

namespace Gatehouse.Login

/-- What a dialogue asks. -/
inductive Request where
  /-- An operation of the session store. -/
  | sessions (op : SessionStore.Op)
  /-- An authenticator is asked to check credentials. -/
  | authenticate (a : Authenticator) (q : Wire.AuthnRequest)
  /-- A mapper is asked for the name under which a user is known to the authenticator. -/
  | mapUser (m : Mapper) (q : Wire.MapUserRequest)
  /-- A mapper is asked for the record that the authorizer is to see. -/
  | mapAuthRecord (m : Mapper) (q : Wire.MapAuthRecordRequest)
  /-- An authorizer is asked for a principal. -/
  | fetchPrincipal (a : Authorizer) (q : Wire.FetchPrincipalRequest)
  /-- A fresh identifier. -/
  | newId
  /-- The user directory is asked to save a user. -/
  | saveUser (u : LocalUser)
  /-- May a user log in? -/
  | checkPermission (q : PermissionQuery)
  /-- Does a user administer? -/
  | checkAdmin (u : LocalUser)
  /-- A report is made to the accounting sinks. -/
  | report (r : Report)
  /-- An event is logged in the audit trail. -/
  | audit (userName : String) (e : AuditEvent)
  /-- A fresh session token. -/
  | newToken
  /-- What time is it? -/
  | now
  /-- A task is submitted to the background runner. -/
  | submit (c : Background.AdminCheck)

/-- What a request is replied to with. -/
def Request.Reply : Request → Type
  | sessions op => Except Fault op.Answer
  | authenticate .. => Except Fault Wire.AuthnResponse
  | mapUser .. => Except Fault Wire.MappingResponse
  | mapAuthRecord .. => Except Fault Wire.MappingResponse
  | fetchPrincipal .. => Except Fault Wire.FetchPrincipalResponse
  | newId => ObjectId
  | saveUser _ => Except Fault LocalUser
  | checkPermission _ => Except Fault Bool
  | checkAdmin _ => Except Fault Bool
  | report _ => Unit
  | audit .. => Unit
  | newToken => Except Fault String
  | now => Instant
  | submit _ => Bool

/-- A dialogue that ends with an `α`. -/
inductive Dialogue (α : Type) : Type where
  | done (a : α)
  | ask (r : Request) (next : r.Reply → Dialogue α)

namespace Dialogue

/-- One dialogue after the other. -/
def bind (x : Dialogue α) (f : α → Dialogue β) : Dialogue β :=
  match x with
  | done a => f a
  | ask r next => ask r fun reply => (next reply).bind f

instance : Monad Dialogue where
  pure := done
  bind := bind

theorem bind_done (x : Dialogue α) : x.bind done = x := by
  induction x with
  | done a => rfl
  | ask r next ih => simp [bind, ih]

theorem bind_assoc (x : Dialogue α) (f : α → Dialogue β) (g : β → Dialogue γ) :
    (x.bind f).bind g = x.bind fun a => (f a).bind g := by
  induction x with
  | done a => rfl
  | ask r next ih => simp [bind, ih]

instance : LawfulMonad Dialogue := .mk' Dialogue bind_done (fun _ _ => rfl) bind_assoc

/-- A dialogue of one request. -/
def request (r : Request) : Dialogue r.Reply := ask r done

/-- What replies to requests: to each one by a function of the handler's state. -/
abbrev Handler (σ : Type) := (r : Request) → StateM σ r.Reply

/-- Runs a dialogue against a handler. -/
def run (h : Handler σ) : Dialogue α → StateM σ α
  | done a => pure a
  | ask r next => do
    let reply ← h r
    (next reply).run h

@[simp] theorem run_pure (h : Handler σ) (a : α) : (pure a : Dialogue α).run h = pure a := rfl

@[simp] theorem run_request (h : Handler σ) (r : Request) : (request r).run h = h r := by
  funext s
  rfl

@[simp] theorem run_bind (h : Handler σ) (x : Dialogue α) (f : α → Dialogue β) :
    (x >>= f).run h = x.run h >>= fun a => (f a).run h := by
  induction x with
  | done a => rfl
  | ask r next ih =>
    show run h (ask r fun reply => (next reply).bind f) = _
    funext s
    simp only [run]
    exact congrFun (ih (h r s).1) (h r s).2

end Dialogue

/-- A dialogue that may fail. -/
abbrev Talk := ExceptT Fault Dialogue

end Gatehouse.Login
