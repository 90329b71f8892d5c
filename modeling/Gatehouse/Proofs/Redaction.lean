import Gatehouse.Proofs.Transcript
/-!
# What is left when passwords are taken out

A redacted secret tells only whether it was empty. Redaction goes through everything that holds secrets: sessions,
stores, what logins are asked for, and the exchanges of a transcript. Whatever is the same after redaction differs
in no more than passwords that are not empty. Main statements: the store works alike on redacted sessions, and
what it shows of a session is not changed by redaction.
-/

namespace Gatehouse

namespace Secret

/-- What is left of a secret when its text is taken out: whether there was any. -/
def redacted (s : Secret) : Secret := if s.isEmpty then s else ⟨redaction⟩

theorem isEmpty_redacted (s : Secret) : s.redacted.isEmpty = s.isEmpty := by
  unfold redacted
  split
  · rfl
  · next h => exact (Bool.eq_false_iff.2 h).symm ▸ (by decide)

/-- Secrets are alike when both are empty or both are not. -/
theorem redacted_eq_iff {a b : Secret} : a.redacted = b.redacted ↔ a.isEmpty = b.isEmpty := by
  constructor
  · intro h
    rw [← isEmpty_redacted a, h, isEmpty_redacted]
  · intro h
    unfold redacted
    rw [h]
    split
    · next hb =>
      have ha : a.exposed = "" := String.isEmpty_iff.1 (h.trans hb)
      have hb : b.exposed = "" := String.isEmpty_iff.1 hb
      cases a
      cases b
      simp_all
    · rfl

end Secret

/-- A session without its password. -/
def Session.redacted (x : Session) : Session := { x with password := x.password.map Secret.redacted }

def Session.Edit.redacted : Session.Edit → Session.Edit
  | .password p => .password p.redacted
  | e => e

theorem Session.edit_redacted (x : Session) (now : Instant) (e : Edit) :
    (x.edit now e).redacted = x.redacted.edit now e.redacted := by
  cases e <;> rfl

/-- What is shown of a session does not depend on its password. -/
theorem Session.toRecord_redacted (x : Session) : x.redacted.toRecord = x.toRecord := by
  unfold Session.toRecord Session.redacted
  cases x.password <;> rfl

namespace SessionStore

/-- A store without the passwords of its sessions. -/
def redacted (s : SessionStore) : SessionStore := ⟨s.sessions.mapValues Session.redacted⟩

def Op.redacted : Op → Op
  | .write token e => .write token e.redacted
  | op => op

section
variable (s : SessionStore)

theorem find?_redacted (token : String) : s.redacted.find? token = (s.find? token).map Session.redacted :=
  Table.find?_mapValues ..

theorem user?_redacted (token : String) : s.redacted.user? token = s.user? token := by
  unfold user?
  rw [find?_redacted]
  cases s.find? token <;> rfl

theorem password?_redacted (token : String) :
    s.redacted.password? token = (s.password? token).map Secret.redacted := by
  unfold password?
  rw [find?_redacted]
  cases s.find? token <;> rfl

theorem hardLimit?_redacted (token : String) : s.redacted.hardLimit? token = s.hardLimit? token := by
  unfold hardLimit?
  rw [find?_redacted]
  cases s.find? token <;> rfl

theorem size_redacted : s.redacted.size = s.size := Table.size_mapValues ..

theorem write_redacted (now : Instant) (token : String) (e : Session.Edit) :
    (s.write now token e).redacted = s.redacted.write now token e.redacted := by
  have hget : ((s.find? token).getD (.new now)).redacted = (s.redacted.find? token).getD (.new now) := by
    rw [find?_redacted]
    cases s.find? token <;> rfl
  unfold write redacted
  rw [Table.mapValues_insert, Session.edit_redacted, hget]
  rfl

theorem remove_redacted (token : String) : (s.remove token).redacted = s.redacted.remove token :=
  congrArg SessionStore.mk (Table.mapValues_erase ..)

theorem evict_redacted (now : Instant) (soft : Span) : (s.evict now soft).redacted = s.redacted.evict now soft :=
  congrArg SessionStore.mk (Table.mapValues_filter _ fun _ => rfl)

theorem perform_redacted (now : Instant) (op : Op) :
    (s.perform now op).2.redacted = (s.redacted.perform now op.redacted).2 := by
  cases op with
  | write token e => exact s.write_redacted now token e
  | remove token => exact s.remove_redacted token
  | evict time soft => exact s.evict_redacted time soft
  | _ => rfl

/-- What a store shows of a session does not depend on any password. -/
theorem toRecord_of_redacted_eq {s s' : SessionStore} (h : s.redacted = s'.redacted) (token : String) :
    (s.find? token).map Session.toRecord = (s'.find? token).map Session.toRecord := by
  have hfind : (s.find? token).map Session.redacted = (s'.find? token).map Session.redacted := by
    rw [← find?_redacted, h, find?_redacted]
  have hshown : ∀ x : Option Session, x.map Session.toRecord = (x.map Session.redacted).map Session.toRecord := by
    intro x
    cases x with
    | none => rfl
    | some x => exact congrArg some x.toRecord_redacted.symm
  rw [hshown, hfind, ← hshown]

end

end SessionStore

def LoginParameters.redacted (p : LoginParameters) : LoginParameters :=
  { p with password := p.password.map Secret.redacted }

namespace Login

/-! ## Exchanges -/

def Request.redacted : Request → Request
  | .sessions op => .sessions op.redacted
  | .authenticate a q => .authenticate a { q with credentials := q.credentials.redacted }
  | r => r

/-- An exchange without the passwords in it. -/
def Exchange.redacted : Exchange → Exchange
  | ⟨.sessions (.write token e), r⟩ => ⟨.sessions (.write token e.redacted), r⟩
  | ⟨.sessions (.password? token), r⟩ =>
    ⟨.sessions (.password? token), Except.map (fun w : Option Secret => w.map Secret.redacted) r⟩
  | ⟨.sessions (.session? token), r⟩ =>
    ⟨.sessions (.session? token), Except.map (fun x : Option Session => x.map Session.redacted) r⟩
  | ⟨.authenticate a q, r⟩ => ⟨.authenticate a { q with credentials := q.credentials.redacted }, r⟩
  | x => x

/-- Requests that are not replied to with a password. -/
def Request.isDiscreet : Request → Bool
  | .sessions (.password? _) | .sessions (.session? _) => false
  | _ => true

/-- A reply that holds no password is seen after redaction. -/
theorem reply_eq_of_redacted_eq {r : Request} (hr : r.isDiscreet = true) {v w : r.Reply}
    (h : Exchange.redacted ⟨r, v⟩ = Exchange.redacted ⟨r, w⟩) : v = w := by
  cases r with
  | sessions op =>
    cases op with
    | password? | session? => cases hr
    | _ => exact eq_of_heq (Exchange.mk.inj h).2
  | _ => exact eq_of_heq (Exchange.mk.inj h).2

/-! Where there is a password, the rest of the exchange is seen after redaction. -/

section
variable {token : String}

theorem password?_eq_of_redacted_eq {v v' : Except Fault (Option Secret)}
    (h : Exchange.redacted ⟨.sessions (.password? token), v⟩ = Exchange.redacted ⟨.sessions (.password? token), v'⟩) :
    v.map (Option.map Secret.redacted) = v'.map (Option.map Secret.redacted) :=
  eq_of_heq (Exchange.mk.inj h).2

theorem authenticate_eq_of_redacted_eq {a : Authenticator} {q q' : Wire.AuthnRequest}
    {v v' : Except Fault Wire.AuthnResponse}
    (h : Exchange.redacted ⟨.authenticate a q, v⟩ = Exchange.redacted ⟨.authenticate a q', v'⟩) : v = v' :=
  eq_of_heq (Exchange.mk.inj h).2

theorem write_eq_of_redacted_eq {e e' : Session.Edit} {v v' : Except Fault Unit}
    (h : Exchange.redacted ⟨.sessions (.write token e), v⟩ = Exchange.redacted ⟨.sessions (.write token e'), v'⟩) :
    v = v' :=
  eq_of_heq (Exchange.mk.inj h).2

end

end Login

end Gatehouse
