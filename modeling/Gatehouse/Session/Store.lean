import Gatehouse.Session.Basic
/-!
The session store: sessions by token. The first write to a token opens its session; reading opens
none. An evicting pass drops the expired and the idle sessions.
-/

namespace Gatehouse

/-- The sessions by their tokens. -/
structure SessionStore where
  sessions : Table String Session := ∅
deriving Inhabited

namespace SessionStore

/-- The operations of a store. -/
inductive Op where
  | write (token : String) (e : Session.Edit)
  | user? (token : String)
  | password? (token : String)
  | hardLimit? (token : String)
  | session? (token : String)
  | remove (token : String)
  | evict (now : Instant) (softLimit : Span)
  | size

/-- What an operation answers. -/
def Op.Answer : Op → Type
  | .write .. => Unit
  | .user? _ => Option LocalUser
  | .password? _ => Option Secret
  | .hardLimit? _ => Option Instant
  | .session? _ => Option Session
  | .remove _ => Bool
  | .evict .. => Nat
  | .size => Nat

/-- The session of a token. -/
def find? (s : SessionStore) (token : String) : Option Session := s.sessions.find? token

/-- Writes into the session of a token, which is opened if there is none. -/
def write (s : SessionStore) (now : Instant) (token : String) (e : Session.Edit) : SessionStore :=
  let session := (s.find? token).getD (.new now)
  ⟨s.sessions.insert token (session.edit now e)⟩

def user? (s : SessionStore) (token : String) : Option LocalUser :=
  (s.find? token).bind Session.user

def password? (s : SessionStore) (token : String) : Option Secret :=
  (s.find? token).bind Session.password

def hardLimit? (s : SessionStore) (token : String) : Option Instant :=
  (s.find? token).bind Session.hardLimit

/-- The store without the session of a token. -/
def remove (s : SessionStore) (token : String) : SessionStore := ⟨s.sessions.erase token⟩

/-- How many sessions there are. -/
def size (s : SessionStore) : Nat := s.sessions.size

/-- Whether an evicting pass at a time keeps a session. -/
def keeps (now : Instant) (softLimit : Span) (session : Session) : Bool :=
  !session.isExpired now && !session.isIdle now softLimit

/-- The store after an evicting pass. -/
def evict (s : SessionStore) (now : Instant) (softLimit : Span) : SessionStore :=
  ⟨s.sessions.filter (keeps now softLimit)⟩

/-- An evicting pass: how many sessions it dropped, and the store after it. -/
def pass (s : SessionStore) (now : Instant) (softLimit : Span) : Nat × SessionStore :=
  let kept := s.evict now softLimit
  (s.size - kept.size, kept)

/-- The answer of an operation, and the store after it; `now` is what the store's clock shows. -/
def perform (s : SessionStore) (now : Instant) : (op : Op) → op.Answer × SessionStore
  | .write token e => ((), s.write now token e)
  | .user? token => (s.user? token, s)
  | .password? token => (s.password? token, s)
  | .hardLimit? token => (s.hardLimit? token, s)
  | .session? token => (s.find? token, s)
  | .remove token => ((s.find? token).isSome, s.remove token)
  | .evict time softLimit => s.pass time softLimit
  | .size => (s.size, s)

theorem find?_evict {s : SessionStore} (h : s.sessions.keys.Nodup) (now : Instant) (softLimit : Span) (token : String) :
    (s.evict now softLimit).find? token = (s.find? token).filter (keeps now softLimit) :=
  Table.find?_filter h _ token

/-- No operation gives a token a second session. -/
theorem nodup_perform {s : SessionStore} (h : s.sessions.keys.Nodup) (now : Instant) (op : Op) :
    (s.perform now op).2.sessions.keys.Nodup := by
  cases op with
  | write token e => exact Table.nodup_keys_insert h token _
  | remove token => exact Table.nodup_keys_erase h token
  | evict time softLimit => exact Table.nodup_keys_filter h _
  | _ => exact h

end SessionStore

end Gatehouse
