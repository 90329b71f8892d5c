import Gatehouse.Accounting.Sink
import Gatehouse.Audit.Trail
import Gatehouse.Background.Runner
import Gatehouse.Login.Dialogue
import Gatehouse.Session.Token
/-!
The collaborators of logins that this program has itself: the session store, the user directory, the
permissions, the audit trail, the accounting sinks, the background runner, a clock, and supplies of
identifiers and tokens. Remote extensions are outside; whoever runs logins says what they reply.
-/

namespace Gatehouse.Login

/-- The collaborators, together with the state `ρ` of what is outside. -/
structure Services (ρ : Type) where
  sessions : SessionStore := {}
  users : UserDirectory := {}
  permissions : PermissionTable := {}
  audit : AuditTrail := {}
  accounting : Accounting := {}
  background : Option (Background.Runner Background.AdminCheck) := none
  /-- What the clock shows, reading by reading. -/
  clock : Nat → Instant
  /-- How often the clock was read. -/
  readings : Nat := 0
  /-- The supply of identifiers. -/
  ids : Nat → ObjectId := ObjectId.nth
  /-- How many identifiers were drawn. -/
  idsDrawn : Nat := 0
  /-- The supply of tokens; a random source may fail. -/
  tokens : Nat → Except Fault String := fun n => .ok (Token.nth n)
  /-- How many tokens were drawn. -/
  tokensDrawn : Nat := 0
  outside : ρ

namespace Services

variable {ρ : Type}

/-- Reads the clock. -/
def readClock : StateM (Services ρ) Instant :=
  modifyGet fun s => (s.clock s.readings, { s with readings := s.readings + 1 })

/-- Draws an identifier. -/
def drawId : StateM (Services ρ) ObjectId :=
  modifyGet fun s => (s.ids s.idsDrawn, { s with idsDrawn := s.idsDrawn + 1 })

/-- Draws a token. -/
def drawToken : StateM (Services ρ) (Except Fault String) :=
  modifyGet fun s => (s.tokens s.tokensDrawn, { s with tokensDrawn := s.tokensDrawn + 1 })

/-- Performs an operation of the session store. -/
def performSessions (op : SessionStore.Op) : StateM (Services ρ) op.Answer := do
  let now ← readClock
  modifyGet fun s =>
    let (answer, sessions) := s.sessions.perform now op
    (answer, { s with sessions })

/-- Performs an operation of the user directory. -/
def performUsers (op : UserDirectory.Op) : StateM (Services ρ) (Except Fault op.Answer) :=
  modifyGet fun s =>
    let (answer, users) := s.users.perform op
    (answer, { s with users })

/-- Logs an event. -/
def logEvent (userName : String) (event : AuditEvent) : StateM (Services ρ) Unit := do
  let id ← drawId
  let createdAt ← readClock
  modify fun s => { s with audit := s.audit.log { id, userName, event, createdAt } }

/-- Submits a task to the background runner, if there is one. -/
def submit (c : Background.AdminCheck) : StateM (Services ρ) Bool :=
  modifyGet fun s =>
    match s.background with
    | some runner =>
      let (accepted, runner) := runner.submit c
      (accepted, { s with background := some runner })
    | none => (false, s)

/-- Submitting a task concerns the background runner alone. -/
theorem submit_eq (c : Background.AdminCheck) (s : Services ρ) :
    ∃ background, (submit c s).2 = { s with background } := by
  show ∃ background, (match s.background with
    | some runner => (let (accepted, runner) := runner.submit c; (accepted, { s with background := some runner }))
    | none => (false, s) : Bool × Services ρ).2 = { s with background }
  split
  · exact ⟨_, rfl⟩
  · exact ⟨s.background, rfl⟩

/-- Asks a remote extension. -/
def askOutside (invoke : Remote → Record → StateM ρ (Except Fault Record)) (r : Remote) (m : Record) :
    StateM (Services ρ) (Except Fault Record) :=
  modifyGet fun s =>
    let (reply, outside) := invoke r m s.outside
    (reply, { s with outside })

/-- What the collaborators reply; `invoke` replies for remote extensions. -/
def reply (invoke : Remote → Record → StateM ρ (Except Fault Record)) : Dialogue.Handler (Services ρ)
  | .sessions op => do pure (.ok (← performSessions op))
  | .authenticate (.directory d) q => do pure (d.authenticate (← readClock) q)
  | .authenticate (.remote r) q => r.authenticate (askOutside invoke) q
  | .mapUser (.suffix m) q => pure (.ok (m.mapUser q))
  | .mapUser (.remote r) q => r.mapUser (askOutside invoke) q
  | .mapAuthRecord (.suffix m) q => pure (.ok (m.mapAuthRecord q))
  | .mapAuthRecord (.remote r) q => r.mapAuthRecord (askOutside invoke) q
  | .fetchPrincipal (.directory d) q => pure (.ok (d.fetchPrincipal q))
  | .fetchPrincipal (.remote r) q => r.fetchPrincipal (askOutside invoke) q
  | .newId => drawId
  | .saveUser u => performUsers (.save u)
  | .checkPermission q => do pure (.ok ((← get).permissions.grantsLogin q))
  | .checkAdmin u => do pure (.ok ((← get).permissions.isAdmin u))
  | .report r => modify fun s => { s with accounting := s.accounting.report r }
  | .audit userName event => logEvent userName event
  | .newToken => drawToken
  | .now => readClock
  | .submit c => submit c

/-- Records in the directory what a background task found out. -/
def recordAdminCheck (c : Background.AdminCheck) : StateM (Services ρ) Unit := do
  let _ ← performUsers (.recordAdminCheck c.userId c.admin c.time)

/-- Lets the background runner do all that is waiting; every task that runs is performed. -/
def runBackground (perform : Background.AdminCheck → StateM (Services ρ) Unit) :
    StateM (Services ρ) Unit := do
  if let some runner := (← get).background then
    let settled := runner.settle fun _ => true
    modify fun s => { s with background := some settled }
    (settled.log.drop runner.log.length).forM fun
      | .started _ => pure ()
      | .ended c => perform c

end Services

end Gatehouse.Login
