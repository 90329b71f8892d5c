import Gatehouse.Fault
import Gatehouse.Data.Value
/-!
The fields of the maps that are exchanged with extensions. A field that is absent or null is missing;
one of another kind than asked for is a flaw of the map.
-/

namespace Gatehouse.Wire

/-- What an extension can be asked to do. -/
inductive Command where
  | authenticateCredentials
  | mapUser
  | mapAuthRecord
  | fetchPrincipalRecord
deriving DecidableEq, Repr

namespace Command

def all : List Command := [authenticateCredentials, mapUser, mapAuthRecord, fetchPrincipalRecord]

/-- The name of a command in a request. -/
def text : Command → String
  | authenticateCredentials => "AUTHENTICATE_CREDENTIALS"
  | mapUser => "MAP_USER"
  | mapAuthRecord => "MAP_AUTH_RECORD"
  | fetchPrincipalRecord => "FETCH_PRINCIPAL_RECORD"

/-- The command of a name. -/
def ofText? (s : String) : Option Command := all.find? fun c => c.text == s

end Command

/-- The kind of a field's value. -/
inductive Kind where
  | text
  | integer
  | record
deriving DecidableEq, Repr

/-- The name of a kind. -/
def Kind.name : Kind → String
  | .text => "string"
  | .integer => "integer"
  | .record => "map"

/-- What is wrong with a map. -/
inductive Flaw where
  | unknownCommand (name : String)
  | unexpectedCommand (actual expected : Command)
  | missingField (key : String)
  | invalidField (key : String) (expected : Kind)
deriving DecidableEq, Repr

namespace Flaw

/-- The text of a flaw. -/
def message : Flaw → String
  | unknownCommand name => "unknown command '" ++ name ++ "'"
  | unexpectedCommand actual expected =>
    "unexpected command " ++ actual.text ++ ", expected " ++ expected.text
  | missingField key => "missing field " ++ key
  | invalidField key expected => "field " ++ key ++ " must be a " ++ expected.name

/-- The name of a flaw's kind. -/
def name : Flaw → String
  | unknownCommand _ => "UnknownCommand"
  | unexpectedCommand .. => "UnexpectedCommand"
  | missingField _ => "MissingField"
  | invalidField .. => "InvalidField"

/-- A flaw is a fault of the exchange. -/
def toFault (e : Flaw) : Fault := .protocol e.message

end Flaw

def commandKey : String := "COMMAND"

def resultKey : String := "RESULT"

def userKey : String := "USER"

def credentialsKey : String := "CREDENTIALS"

def authRecordKey : String := "AUTH_RECORD"

def principalKey : String := "PRINCIPAL"

def changeUrlKey : String := "CREDENTIALS_CHANGE_URL"

def userMessageKey : String := "USER_MESSAGE"

def principalRecordKey : String := "PRINCIPAL_RECORD"

/-- The command of a request. -/
def command (m : Record) : Except Flaw Command :=
  match m.find? commandKey with
  | none => .error (.missingField commandKey)
  | some (.text s) =>
    match Command.ofText? s with
    | some c => .ok c
    | none => .error (.unknownCommand s)
  | some _ => .error (.invalidField commandKey .text)

/-- The command of a request must be the given one. -/
def expect (expected : Command) (m : Record) : Except Flaw Unit := do
  let actual ← command m
  if actual = expected then pure () else throw (.unexpectedCommand actual expected)

/-- A text that may be missing. -/
def text? (m : Record) (key : String) : Except Flaw (Option String) :=
  match m.find? key with
  | none | some .null => .ok none
  | some (.text s) => .ok (some s)
  | some _ => .error (.invalidField key .text)

/-- A text that must be there. -/
def text (m : Record) (key : String) : Except Flaw String := do
  match ← text? m key with
  | some s => pure s
  | none => throw (.missingField key)

/-- A record that may be missing. -/
def record? (m : Record) (key : String) : Except Flaw (Option Record) :=
  match m.find? key with
  | none | some .null => .ok none
  | some (.record r) => .ok (some r)
  | some _ => .error (.invalidField key .record)

/-- A record that must be there. -/
def record (m : Record) (key : String) : Except Flaw Record := do
  match ← record? m key with
  | some r => pure r
  | none => throw (.missingField key)

/-- An integer that may be missing. -/
def int? (m : Record) (key : String) : Except Flaw (Option Int) :=
  match m.find? key with
  | none | some .null => .ok none
  | some v =>
    match v.int? with
    | some n => .ok (some n)
    | none => .error (.invalidField key .integer)

end Gatehouse.Wire
