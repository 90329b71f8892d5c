import Gatehouse.Extension.Remote
/-!
Scripted extensions: remote extensions that reply as a script says, to rehearse logins with. A command
has a list of replies; each is given once, the last one again and again.
-/

namespace Gatehouse.Rehearsal

/-- A scripted extension. -/
structure Script where
  /-- Whether every request is sent back as it came. -/
  echo : Bool := false
  replies : Table String (List (Except Fault Record)) := ∅
  /-- What the extension answers as an authenticator, without any map. -/
  answer : Option Wire.AuthnResponse := none
deriving Inhabited

/-- What is replied to a command that the script does not know: an authenticator fails, all else goes
well. -/
def Script.unscripted (c : Wire.Command) : Record :=
  let verdict : Wire.Verdict := if c = .authenticateCredentials then .generalError else .success
  (∅ : Record).insert Wire.resultKey (.int verdict.code)

/-- The reply to a request, and the script for the next one. -/
def Script.reply (s : Script) (request : Record) : Except Fault Record × Script :=
  match Wire.command request with
  | .error e => (.error e.toFault, s)
  | .ok c =>
    if s.echo then (.ok request, s)
    else
      match s.replies.find? c.text with
      | some (x :: y :: rest) => (x, { s with replies := s.replies.insert c.text (y :: rest) })
      | some [x] => (x, s)
      | _ => (.ok (unscripted c), s)

/-- The script with other replies to a command. -/
def Script.respond (s : Script) (command : String) (replies : List (Except Fault Record)) : Script :=
  { s with replies := s.replies.insert command replies }

/-! ## Reading scripts -/

/-- The fault that a record describes by its kind and its message. -/
def readFault (r : Record) : Fault where
  kind := (((r.find? "kind").bind Value.choice?).bind FaultKind.ofName?).getD .internal
  message := (r.text? "message").getD ""

/-- A reply: a map under `ok`, or a fault under `err`. -/
def readReply (v : Value) : Except Fault Record :=
  let r : Record := v.record?.getD ∅
  match r.record? "ok" with
  | some m => .ok m
  | none => .error (readFault ((r.record? "err").getD ∅))

/-- The replies to a command: one or a list. -/
def readReplies : Value → List (Except Fault Record)
  | .list vs => vs.map readReply
  | v => [readReply v]

/-- The answer that a record describes, by its code and what goes with it. -/
def readAnswer (r : Record) : Wire.AuthnResponse where
  result := .ofCode ((r.int? "code").getD 0)
  principal := r.text? "principal"
  authRecord := (r.record? "record").map AuthRecord.mk
  changeUrl := r.text? "url"
  userMessage := r.text? "message"

/-- The script that a record describes. -/
def Script.ofRecord (r : Record) : Script where
  echo := r.find? "echo" == some (.bool true)
  replies := .ofList (((r.record? "replies").getD ∅).entries.map fun (k, v) => (k, readReplies v))
  answer := (r.record? "typed").map readAnswer

end Gatehouse.Rehearsal
