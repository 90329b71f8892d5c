import Gatehouse.Proofs.Confidentiality
import Gatehouse.Proofs.Retention
/-!
# What can be told from a login about its password

The program is run twice, from states and with parameters that differ in passwords only. If the authenticators
answer the same in both runs, so does the program, and nothing that it leaves tells the runs apart: not the audit
trail, the accounting reports, or the directory, and not the sessions but for the passwords that they retain. The
collaborators may fail in any way; they and whoever is outside are only assumed not to tell what an authenticator
was sent.
-/

namespace Gatehouse.Login

variable {ρ : Type}

/-- The collaborators of the program, unless somebody outside replies in their stead: one that fails, or an
authenticator of another kind. -/
def Services.replyUnless (instead : (r : Request) → StateM ρ (Option r.Reply))
    (invoke : Remote → Record → StateM ρ (Except Fault Record)) : Dialogue.Handler (Services ρ) := fun r s =>
  let s' : Services ρ := { s with outside := (instead r s.outside).2 }
  match (instead r s.outside).1 with
  | some v => (v, s')
  | none => Services.reply invoke r s'

/-- What is outside does not tell passwords apart, except that an authenticator may answer by them: alike states
stay alike, have the same collaborators stood in for, and reply the same to whoever does not check credentials. -/
structure Indifferent (instead : (r : Request) → StateM ρ (Option r.Reply))
    (invoke : Remote → Record → StateM ρ (Except Fault Record)) (alike : ρ → ρ → Prop) : Prop where
  standing : ∀ r r' o o', r.redacted = r'.redacted → alike o o' →
    Option.Rel (fun v v' => Exchange.Agrees ⟨r, v⟩ ⟨r', v'⟩) (instead r o).1 (instead r' o').1 ∧
      alike (instead r o).2 (instead r' o').2
  replying : ∀ r m c o o', Wire.command m = .ok c → c ≠ .authenticateCredentials → alike o o' →
    (invoke r m o).1 = (invoke r m o').1 ∧ alike (invoke r m o).2 (invoke r m o').2
  asked : ∀ r user w w' o o', w.redacted = w'.redacted → alike o o' →
    alike (invoke r (Wire.AuthnRequest.toMap { user, credentials := w }) o).2
      (invoke r (Wire.AuthnRequest.toMap { user, credentials := w' }) o').2

def Exchange.consults? : Exchange → Option Request
  | ⟨.mapUser m q, _⟩ => some (.mapUser m q)
  | ⟨.mapAuthRecord m q, _⟩ => some (.mapAuthRecord m q)
  | ⟨.fetchPrincipal a q, _⟩ => some (.fetchPrincipal a q)
  | _ => none

/-- What mappers and authorizers were asked in a transcript. -/
def consultations (tr : List Exchange) : List Request := tr.filterMap Exchange.consults?

/-- Two attempts ended the same, with the same result or the same fault, and what they left is the same but for
retained passwords, which no session shows. -/
structure LeftAlike (left left' : Except Fault LoginResult × Services ρ) : Prop where
  outcome : left.1 = left'.1
  audit : left.2.audit = left'.2.audit
  accounting : left.2.accounting = left'.2.accounting
  users : left.2.users = left'.2.users
  background : left.2.background = left'.2.background
  sessions : left.2.sessions.redacted = left'.2.sessions.redacted
  shown : ∀ token, (left.2.sessions.find? token).map (fun x => (Value.record x.toRecord).toText) =
    (left'.2.sessions.find? token).map (fun x => (Value.record x.toRecord).toText)

/-- Two states of the collaborators differ in the passwords of sessions only, and in what is outside. -/
structure Services.Alike (alike : ρ → ρ → Prop) (s s' : Services ρ) : Prop where
  sessions : s.sessions.redacted = s'.sessions.redacted
  outside : alike s.outside s'.outside
  rest : s' = { s with sessions := s'.sessions, outside := s'.outside }

/-- Requests are alike when they are the same, or carry passwords that are alike. -/
theorem redacted_eq_cases {r r' : Request} (h : r.redacted = r'.redacted) :
    r = r' ∨
    (∃ a user w w', r = .authenticate a { user, credentials := w } ∧ r' = .authenticate a { user, credentials := w' } ∧
      w.redacted = w'.redacted) ∨
    ∃ token w w', r = .sessions (.write token (.password w)) ∧ r' = .sessions (.write token (.password w')) ∧
      w.redacted = w'.redacted := by
  cases r with
  | sessions op =>
    cases r' with
    | sessions op' =>
      have hop : op.redacted = op'.redacted := Request.sessions.inj h
      cases op with
      | write token e =>
        cases op' with
        | write token' e' =>
          obtain ⟨rfl, he⟩ := SessionStore.Op.write.inj hop
          cases e with
          | password w =>
            cases e' with
            | password w' => exact .inr (.inr ⟨token, w, w', rfl, rfl, Session.Edit.password.inj he⟩)
            | _ => cases he
          | _ => cases e' <;> first | (cases he; exact .inl rfl) | cases he
        | _ => cases hop
      | _ => cases op' <;> first | (cases hop; exact .inl rfl) | cases hop
    | _ => cases h
  | authenticate a q =>
    cases r' with
    | authenticate a' q' =>
      obtain ⟨user, w⟩ := q
      obtain ⟨user', w'⟩ := q'
      obtain ⟨rfl, hq⟩ := Request.authenticate.inj h
      obtain ⟨hu, hw⟩ := Wire.AuthnRequest.mk.inj hq
      obtain rfl : user = user' := hu
      exact .inr (.inl ⟨a, user, w, w', rfl, rfl, hw⟩)
    | _ => cases h
  | _ => cases r' <;> first | (cases h; exact .inl rfl) | cases h

/-- A store answers alike to an operation, whatever passwords its sessions retain. -/
theorem answer_alike {store store' : SessionStore} (h : store.redacted = store'.redacted) (now : Instant)
    (op : SessionStore.Op) :
    Exchange.redacted ⟨.sessions op, Except.ok (store.perform now op).1⟩ =
      Exchange.redacted ⟨.sessions op, Except.ok (store'.perform now op).1⟩ := by
  have hfind : ∀ token, (store.find? token).map Session.redacted = (store'.find? token).map Session.redacted := by
    intro token
    rw [← SessionStore.find?_redacted, h, SessionStore.find?_redacted]
  have hsize : store.size = store'.size := by
    rw [← SessionStore.size_redacted, h, SessionStore.size_redacted]
  cases op with
  | write => rfl
  | user? token =>
    have hu : store.user? token = store'.user? token := by
      rw [← SessionStore.user?_redacted, h, SessionStore.user?_redacted]
    exact congrArg (fun u => (⟨.sessions (.user? token), Except.ok u⟩ : Exchange)) hu
  | password? token =>
    have hw : (store.password? token).map Secret.redacted = (store'.password? token).map Secret.redacted := by
      rw [← SessionStore.password?_redacted, h, SessionStore.password?_redacted]
    exact congrArg (fun w => (⟨.sessions (.password? token), Except.ok w⟩ : Exchange)) hw
  | hardLimit? token =>
    have hl : store.hardLimit? token = store'.hardLimit? token := by
      rw [← SessionStore.hardLimit?_redacted, h, SessionStore.hardLimit?_redacted]
    exact congrArg (fun l => (⟨.sessions (.hardLimit? token), Except.ok l⟩ : Exchange)) hl
  | session? token =>
    exact congrArg (fun x => (⟨.sessions (.session? token), Except.ok x⟩ : Exchange)) (hfind token)
  | remove token =>
    have hsome : (store.find? token).isSome = (store'.find? token).isSome := by
      rw [← Option.isSome_map, hfind, Option.isSome_map]
    exact congrArg (fun b => (⟨.sessions (.remove token), Except.ok b⟩ : Exchange)) hsome
  | evict time soft =>
    have hkept : (store.evict time soft).size = (store'.evict time soft).size := by
      rw [← SessionStore.size_redacted, SessionStore.evict_redacted, h, ← SessionStore.evict_redacted,
        SessionStore.size_redacted]
    have hgone : store.size - (store.evict time soft).size = store'.size - (store'.evict time soft).size := by
      rw [hsize, hkept]
    exact congrArg (fun n => (⟨.sessions (.evict time soft), Except.ok n⟩ : Exchange)) hgone
  | size => exact congrArg (fun n => (⟨.sessions .size, Except.ok n⟩ : Exchange)) hsize

theorem perform_alike {store store' : SessionStore} (h : store.redacted = store'.redacted) (now : Instant)
    {op op' : SessionStore.Op} (ho : op.redacted = op'.redacted) :
    (store.perform now op).2.redacted = (store'.perform now op').2.redacted := by
  rw [SessionStore.perform_redacted, h, ho, SessionStore.perform_redacted]

section
variable {instead : (r : Request) → StateM ρ (Option r.Reply)}
  {invoke : Remote → Record → StateM ρ (Except Fault Record)} {alike : ρ → ρ → Prop}
  (hi : Indifferent instead invoke alike) {st st' : Services ρ}
include hi

omit hi in
theorem Services.Alike.eq_with (hs : st.Alike alike st') : ∃ (store : SessionStore) (outside : ρ),
    st.sessions.redacted = store.redacted ∧ alike st.outside outside ∧
      st' = { st with sessions := store, outside } := ⟨_, _, hs.sessions, hs.outside, hs.rest⟩

/-- Asked alike in alike states, the program replies alike, if an authenticator answers the same, and the states
stay alike. -/
theorem reply_alike (hs : st.Alike alike st') {r r' : Request} (hr : r.redacted = r'.redacted) :
    (Services.reply invoke r st).2.Alike alike (Services.reply invoke r' st').2 ∧
      Exchange.Agrees ⟨r, (Services.reply invoke r st).1⟩ ⟨r', (Services.reply invoke r' st').1⟩ := by
  obtain ⟨store, outside, hstore, hout, rfl⟩ := hs.eq_with
  rcases redacted_eq_cases hr with rfl | ⟨a, user, w, w', rfl, rfl, hw⟩ | ⟨token, w, w', rfl, rfl, hw⟩
  · cases r with
    | sessions op => exact ⟨⟨perform_alike hstore _ rfl, hout, rfl⟩, fun _ => answer_alike hstore _ op⟩
    | authenticate a q =>
      have hseen : ∀ {v v' : Except Fault Wire.AuthnResponse}, some v = some v' →
          Exchange.redacted ⟨.authenticate a q, v⟩ = Exchange.redacted ⟨.authenticate a q, v'⟩ := by
        rintro v _ ⟨⟩
        rfl
      cases a with
      | directory d => exact ⟨⟨hstore, hout, rfl⟩, fun _ => rfl⟩
      | remote r => exact ⟨⟨hstore, hi.asked r q.user q.credentials q.credentials _ _ rfl hout, rfl⟩, hseen⟩
    | mapUser m q =>
      cases m with
      | suffix m => exact ⟨⟨hstore, hout, rfl⟩, fun _ => rfl⟩
      | remote r =>
        obtain ⟨hreply, hnext⟩ := hi.replying r q.toMap _ _ _ q.command_toMap (by decide) hout
        exact ⟨⟨hstore, hnext, rfl⟩, fun _ =>
          congrArg (fun v => (⟨.mapUser (.remote r) q, Except.bind v r.readMapping⟩ : Exchange)) hreply⟩
    | mapAuthRecord m q =>
      cases m with
      | suffix m => exact ⟨⟨hstore, hout, rfl⟩, fun _ => rfl⟩
      | remote r =>
        obtain ⟨hreply, hnext⟩ := hi.replying r q.toMap _ _ _ q.command_toMap (by decide) hout
        exact ⟨⟨hstore, hnext, rfl⟩, fun _ =>
          congrArg (fun v => (⟨.mapAuthRecord (.remote r) q, Except.bind v r.readMapping⟩ : Exchange)) hreply⟩
    | fetchPrincipal a q =>
      cases a with
      | directory d => exact ⟨⟨hstore, hout, rfl⟩, fun _ => rfl⟩
      | remote r =>
        obtain ⟨hreply, hnext⟩ := hi.replying r q.toMap _ _ _ q.command_toMap (by decide) hout
        exact ⟨⟨hstore, hnext, rfl⟩, fun _ =>
          congrArg (fun v => (⟨.fetchPrincipal (.remote r) q, Except.bind v r.readPrincipal⟩ : Exchange)) hreply⟩
    | submit c =>
      -- What is answered depends on whether there is a runner, which the states agree on.
      rcases st with ⟨_, _, _, _, _, _ | runner, _⟩
      · exact ⟨⟨hstore, hout, rfl⟩, fun _ => rfl⟩
      · exact ⟨⟨hstore, hout, rfl⟩, fun _ => rfl⟩
    | _ => exact ⟨⟨hstore, hout, rfl⟩, fun _ => rfl⟩
  · have hseen : ∀ {v v' : Except Fault Wire.AuthnResponse}, some v = some v' →
        Exchange.redacted ⟨.authenticate a { user, credentials := w }, v⟩ =
          Exchange.redacted ⟨.authenticate a { user, credentials := w' }, v'⟩ := by
      rintro v _ ⟨⟩
      exact congrArg (fun c => (⟨.authenticate a { user, credentials := c }, v⟩ : Exchange)) hw
    cases a with
    | directory d => exact ⟨⟨hstore, hout, rfl⟩, hseen⟩
    | remote r => exact ⟨⟨hstore, hi.asked r user w w' _ _ hw hout, rfl⟩, hseen⟩
  · refine ⟨⟨perform_alike hstore _ (Request.sessions.inj hr), hout, rfl⟩, fun _ => ?_⟩
    exact congrArg (fun w => (⟨.sessions (.write token (.password w)), Except.ok ()⟩ : Exchange)) hw

theorem replyUnless_alike (hs : st.Alike alike st') {r r' : Request} (hr : r.redacted = r'.redacted) :
    (Services.replyUnless instead invoke r st).2.Alike alike (Services.replyUnless instead invoke r' st').2 ∧
      Exchange.Agrees ⟨r, (Services.replyUnless instead invoke r st).1⟩
        ⟨r', (Services.replyUnless instead invoke r' st').1⟩ := by
  obtain ⟨hinstead, hnext⟩ := hi.standing r r' _ _ hr hs.outside
  have hs' : Services.Alike alike { st with outside := (instead r st.outside).2 }
      { st' with outside := (instead r' st'.outside).2 } := by
    obtain ⟨store, outside, hstore, -, rfl⟩ := hs.eq_with
    exact ⟨hstore, hnext, rfl⟩
  unfold Services.replyUnless
  dsimp only
  -- Either somebody stands in for both collaborators, or for neither.
  generalize (instead r st.outside).1 = v at hinstead
  generalize (instead r' st'.outside).1 = v' at hinstead
  cases hinstead with
  | none => exact reply_alike hi hs' hr
  | some hv => exact ⟨hs', hv⟩

theorem replyUnless_keepsAlike : Dialogue.KeepsAlike (Services.replyUnless instead invoke) (Services.Alike alike) where
  reply _ _ _ _ hr hs := (replyUnless_alike hi hs hr).2
  next _ _ _ _ hr hs := (replyUnless_alike hi hs hr).1

omit hi in
theorem consults?_redacted (x : Exchange) : x.redacted.consults? = x.consults? := by
  obtain ⟨r, v⟩ := x
  cases r with
  | sessions op => cases op <;> rfl
  | _ => rfl

omit hi in
theorem consultations_redacted (tr : List Exchange) : consultations (tr.map Exchange.redacted) = consultations tr := by
  unfold consultations
  rw [List.filterMap_map]
  exact congrArg (fun f => tr.filterMap f) (funext consults?_redacted)

omit hi in
/-- From alike states after the same outcome, whatever is left is the same but for retained passwords. -/
theorem Services.Alike.leftAlike (hs : st.Alike alike st') {v v' : Except Fault LoginResult} (hv : v = v') :
    LeftAlike (v, st) (v', st') := by
  obtain ⟨store, outside, hstore, -, rfl⟩ := hs.eq_with
  refine ⟨hv, rfl, rfl, rfl, rfl, hstore, fun token => ?_⟩
  have hshown := congrArg (Option.map fun r => (Value.record r).toText)
    (SessionStore.toRecord_of_redacted_eq hstore token)
  rwa [Option.map_map, Option.map_map] at hshown

/-- A password is seen by authenticators, and retained; nothing else depends on it. Attempts that differ in a
password, from states that differ in retained passwords, end the same, ask the mapper and the authorizer the same,
and leave the same but for retained passwords, if the authenticators answer the same. -/
theorem login_noninterference (hs : st.Alike alike st') (s : Setup) {p q : LoginParameters}
    (hp : p.redacted = q.redacted)
    (ha : answers ((login s p).transcript (Services.replyUnless instead invoke) st) =
      answers ((login s q).transcript (Services.replyUnless instead invoke) st')) :
    LeftAlike ((login s p).run (Services.replyUnless instead invoke) st)
        ((login s q).run (Services.replyUnless instead invoke) st') ∧
      consultations ((login s p).transcript (Services.replyUnless instead invoke) st) =
        consultations ((login s q).transcript (Services.replyUnless instead invoke) st') := by
  obtain ⟨hresult, htr, hleft⟩ := (login_alike s hp).run (replyUnless_keepsAlike hi) hs ha
  refine ⟨hleft.leftAlike hresult, ?_⟩
  rw [← consultations_redacted, htr, consultations_redacted]

end

/-- Two passwords are accepted by somebody who writes them down. The attempts succeed alike although each session
retains the password that it was opened with. -/
theorem login_noninterference_accepted :
    let invoke : Remote → Record → StateM (List Record) (Except Fault Record) := fun _ m seen =>
      (.ok (vouching "bob"), m :: seen)
    let h := Services.replyUnless (fun _ => pure none) invoke
    let st : Services (List Record) := {
      permissions := { allowEveryone := true }, clock := fun _ => ⟨5, 0⟩, tokens := fun _ => .ok "new", outside := [] }
    let p := LoginParameters.ofCredentials "main" "bob" ⟨"one"⟩
    let q := LoginParameters.ofCredentials "main" "bob" ⟨"two"⟩
    let left := (login ldapSetup p).run h st
    let left' := (login ldapSetup q).run h st
    p.redacted = q.redacted ∧
      answers ((login ldapSetup p).transcript h st) = answers ((login ldapSetup q).transcript h st) ∧
      LeftAlike left left' ∧ opened? left.1 = some "new" ∧
      left.2.sessions.password? "new" = some ⟨"one"⟩ ∧ left'.2.sessions.password? "new" = some ⟨"two"⟩ := by
  intro invoke h st p q left left'
  have hi : Indifferent (fun _ => pure none) invoke fun _ _ => True :=
    ⟨fun _ _ _ _ _ _ => ⟨.none, trivial⟩, fun _ _ _ _ _ _ _ _ => ⟨rfl, trivial⟩, fun _ _ _ _ _ _ _ _ => trivial⟩
  have hs : st.Alike (fun _ _ => True) st := ⟨rfl, trivial, rfl⟩
  have hp : p.redacted = q.redacted := rfl
  have hfirst : answers ((login ldapSetup p).transcript h st) = [Remote.readAuthn (vouching "bob")] := rfl
  have hsecond : answers ((login ldapSetup q).transcript h st) = [Remote.readAuthn (vouching "bob")] := rfl
  have ha := hfirst.trans hsecond.symm
  have hone : left.2.sessions.password? "new" = some ⟨"one"⟩ := by decide +kernel
  have htwo : left'.2.sessions.password? "new" = some ⟨"two"⟩ := by decide +kernel
  exact ⟨hp, ha, (login_noninterference hi hs ldapSetup hp ha).1, by decide +kernel, hone, htwo⟩

end Gatehouse.Login
