import Gatehouse.Login.Services
import Gatehouse.Rehearsal.Script
/-!
A stage to rehearse logins on: scripted extensions, collaborators that fail on demand, and a record of
everything that is asked. A collaborator that is to fail is asked all the same, but does nothing.
-/

namespace Gatehouse.Rehearsal

/-- A request that reached a scripted extension. -/
structure Call where
  extension : String
  request : Record

instance : ToValue Call := ⟨fun c => .record (.ofList [("ext", .text c.extension), ("request", .record c.request)])⟩

/-- A stage. -/
structure Stage where
  /-- The scripted extensions, by their numbers. -/
  scripts : List (Remote × Script) := []
  calls : List Call := []
  /-- What the collaborators were asked, by the names of their tasks. -/
  trace : List String := []
  /-- The tasks that fail, and how. -/
  faults : Table String Fault := ∅
deriving Inhabited

namespace Stage

/-- Puts a scripted extension on the stage. -/
def add (s : Stage) (name : String) (capabilities : Capabilities) (script : Script) : Remote × Stage :=
  let r : Remote := { number := s.scripts.length, name, capabilities }
  (r, { s with scripts := s.scripts ++ [(r, script)] })

/-- What a scripted extension replies; the call is recorded. -/
def invoke (r : Remote) (request : Record) : StateM Stage (Except Fault Record) :=
  modifyGet fun (s : Stage) =>
    let s : Stage := { s with calls := s.calls ++ [{ extension := r.name, request }] }
    match s.scripts[r.number]? with
    | some (_, script) =>
      let (reply, script) := script.reply request
      (reply, { s with scripts := s.scripts.set r.number (r, script) })
    | none => (.error (.extension ("Extension '" ++ r.name ++ "' is not on stage")), s)

/-- Changes the replies of the extensions of a name to a command. -/
def respond (s : Stage) (name command : String) (replies : List (Except Fault Record)) : Stage :=
  { s with scripts := s.scripts.map fun (r, script) =>
      (r, if r.name = name then script.respond command replies else script) }

/-- From now on a task fails, or does not fail any more. -/
def setFault (s : Stage) (task : String) (e : Option Fault) : Stage :=
  { s with faults := match e with
      | some e => s.faults.insert task e
      | none => s.faults.erase task }

/-- Records that a task was asked for; answers how it is to fail. -/
def enter (task : String) : StateM (Login.Services Stage) (Option Fault) :=
  modifyGet fun s =>
    (s.outside.faults.find? task, { s with outside := { s.outside with trace := s.outside.trace ++ [task] } })

end Stage

/-! ## Tasks of the collaborators -/

/-- The name of the task of writing something into a session. -/
def editTask : Session.Edit → String
  | .user _ => "sessions.set_user"
  | .password _ => "sessions.set_password"
  | .profile _ => "sessions.set_profile"
  | .authRecord _ => "sessions.set_auth_record"
  | .principalRecord _ => "sessions.set_principal_record"
  | .hardLimit _ => "sessions.set_hard_limit"
  | .seen => "sessions.refresh"

/-- The name of an operation of the session store. -/
def sessionTask : SessionStore.Op → String
  | .write _ e => editTask e
  | .user? _ => "sessions.get_user"
  | .password? _ => "sessions.get_password"
  | .hardLimit? _ => "sessions.get_hard_limit"
  | .session? _ => "sessions.get_session"
  | .remove _ => "sessions.remove"
  | .evict .. => "sessions.evict_expired"
  | .size => "sessions.len"

/-- The name of the task that a request is for; only those of collaborators have one. -/
def task? : Login.Request → Option String
  | .sessions op => some (sessionTask op)
  | .saveUser _ => some "directory.save_or_update"
  | .checkPermission _ => some "permissions.check"
  | .checkAdmin _ => some "permissions.admin"
  | .report _ => some "accounting"
  | .newToken => some "tokens.generate"
  | .audit _ e => some ("audit " ++ e.code)
  | _ => none

/-- The name of the task that records an evaluated administrator flag. -/
def adminCheckTask : String := "directory.update_last_admin_check"

/-- How a request fails, if it can. -/
def failed? (e : Fault) : (r : Login.Request) → Option r.Reply
  | .sessions _ => some (.error e)
  | .saveUser _ => some (.error e)
  | .checkPermission _ => some (.error e)
  | .checkAdmin _ => some (.error e)
  | .newToken => some (.error e)
  | .report _ => some ()
  | _ => none

/-- What is replied when nothing fails: an authenticator may have an answer ready, and all else is up to
the collaborators and the scripts. -/
def replyWell : Login.Dialogue.Handler (Login.Services Stage)
  | .authenticate (.remote remote) q => do
    match ((← get).outside.scripts[remote.number]?).bind fun x => x.2.answer with
    | some a => pure (.ok a)
    | none => Login.Services.reply Stage.invoke (.authenticate (.remote remote) q)
  | r => Login.Services.reply Stage.invoke r

/-- What is replied on the stage. -/
def reply : Login.Dialogue.Handler (Login.Services Stage) := fun r => do
  let failing ← match task? r with
    | some task => Stage.enter task
    | none => pure none
  match failing.bind fun e => failed? e r with
  | some x => pure x
  | none => replyWell r

/-- A background task on the stage. -/
def performAdminCheck (c : Background.AdminCheck) : StateM (Login.Services Stage) Unit := do
  if (← Stage.enter adminCheckTask).isNone then Login.Services.recordAdminCheck c

/-- Runs a dialogue, and then what it left to the background. -/
def rehearse (x : Login.Dialogue α) : StateM (Login.Services Stage) α := do
  let a ← x.run reply
  Login.Services.runBackground performAdminCheck
  pure a

end Gatehouse.Rehearsal
