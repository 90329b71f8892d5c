/-!
Faults: what can go wrong in a collaborator, by kind. Only a failing random source is fatal.
-/

namespace Gatehouse

/-- The kind of a fault. -/
inductive FaultKind where
  | notFound
  | conflict
  | internal
  | database
  | configuration
  | extension
  | protocol
  | randomSource
deriving DecidableEq, Repr, Inhabited

namespace FaultKind

/-- Every kind. -/
def all : List FaultKind :=
  [notFound, conflict, internal, database, configuration, extension, protocol, randomSource]

/-- The text of a kind in messages. -/
def text : FaultKind → String
  | notFound => "NOT_FOUND"
  | conflict => "CONFLICT"
  | internal => "INTERNAL"
  | database => "DATABASE"
  | configuration => "CONFIGURATION"
  | extension => "EXTENSION"
  | protocol => "PROTOCOL"
  | randomSource => "RANDOM_SOURCE"

/-- The name of a kind in settings and records. -/
def name : FaultKind → String
  | notFound => "NotFound"
  | conflict => "Conflict"
  | internal => "Internal"
  | database => "Database"
  | configuration => "Configuration"
  | extension => "Extension"
  | protocol => "Protocol"
  | randomSource => "RandomSource"

/-- The kind of a name. -/
def ofName? (s : String) : Option FaultKind := all.find? fun k => k.name == s

end FaultKind

/-- A fault: its kind, what happened, and the text of what caused it. -/
structure Fault where
  kind : FaultKind
  message : String
  cause : Option String := none
deriving DecidableEq, Inhabited

namespace Fault

/-- The text of a fault. -/
def text (e : Fault) : String := e.kind.text ++ ": " ++ e.message

/-- Whether the fault must end the program: without random numbers no session is safe. -/
def isFatal (e : Fault) : Bool := e.kind == .randomSource

/-- The fault as it is handed on: the cause stays where it arose. -/
def withoutCause (e : Fault) : Fault := { e with cause := none }

def notFound (message : String) : Fault := { kind := .notFound, message }

def conflict (message : String) : Fault := { kind := .conflict, message }

def internal (message : String) : Fault := { kind := .internal, message }

def database (message : String) : Fault := { kind := .database, message }

def configuration (message : String) : Fault := { kind := .configuration, message }

def extension (message : String) : Fault := { kind := .extension, message }

def protocol (message : String) : Fault := { kind := .protocol, message }

end Fault

end Gatehouse
