import Gatehouse.Proofs.Recollection
import Mathlib.Data.List.Chain
/-!
# The password that a session retains

A session retains the password that was submitted to the attempt that issued it. The authenticator has accepted
this password only if the consulted session lent no other one. Along a chain of attempts, each of which consults
the session that the one before it issued, every attempt presents what was submitted to the one before it.
-/

namespace Gatehouse.Login

variable {σ : Type}

def Exchange.accepted? : Exchange → Option Secret
  | ⟨.authenticate _ q, .ok response⟩ => if response.result.isSuccess then some q.credentials else none
  | _ => none

/-- The passwords that authenticators accepted in a transcript. -/
def acceptedIn (tr : List Exchange) : List Secret := tr.filterMap Exchange.accepted?

/-- An attempt by credentials that succeeds: it opens a session, and the authenticator accepted a password. -/
structure LogsIn (h : Dialogue.Handler σ) (s : Setup) (p : LoginParameters) (st st' : σ) (token : String)
    (accepted : Secret) : Prop where
  unsupplied : p.authRecord = none
  opened : opened? ((login s p).run h st).1 = some token
  left : ((login s p).run h st).2 = st'
  accepted : accepted ∈ acceptedIn ((login s p).transcript h st)

/-- Attempts that succeed one after the other, the latest first, each with the password that the authenticator
accepted. Each attempt consults the session that the one before it issued; what happens in between leaves the
user and the password of this session as they are. -/
inductive Chained (h : Dialogue.Handler σ) (store : σ → SessionStore) (s : Setup) :
    List (LoginParameters × Secret) → σ → String → Prop
  | first {p st st' token accepted} (hl : LogsIn h s p st st' token accepted) :
      Chained h store s [(p, accepted)] st' token
  | next {l p st before st' token token' accepted} (hc : Chained h store s l st token)
      (hu : (store before).user? token = (store st).user? token)
      (hw : (store before).password? token = (store st).password? token)
      (hp : p.credentialSession? = some token) (hl : LogsIn h s p before st' token' accepted) :
      Chained h store s ((p, accepted) :: l) st' token'

/-- What an attempt retains is what was submitted to it, and what the next one presents. -/
def Retains (later earlier : LoginParameters × Secret) : Prop := earlier.1.givenPassword? = some later.2

/-- Where every attempt presents what was submitted to the one before, they all present the same password
exactly if the same one was submitted to all but the latest. -/
theorem forall_presented_iff {l : List (LoginParameters × Secret)} {w : Secret} (hl : l.IsChain Retains)
    (hw : ∀ x ∈ l.getLast?, x.2 = w) :
    (∀ x ∈ l, x.2 = w) ↔ ∀ x ∈ l.tail, x.1.givenPassword? = some w := by
  induction l with
  | nil => simp
  | cons x l ih =>
    cases l with
    | nil => simpa using hw
    | cons y l =>
      obtain ⟨hxy, hl⟩ := List.isChain_cons_cons.1 hl
      have hrest := ih hl (by simpa using hw)
      have hy : y.1.givenPassword? = some w ↔ x.2 = w := by
        rw [show y.1.givenPassword? = some x.2 from hxy, Option.some.injEq]
      simp only [List.tail_cons] at hrest ⊢
      rw [List.forall_mem_cons, hrest, List.forall_mem_cons, hy]

/-! ## One attempt -/

/-- How an attempt by credentials that succeeds takes the store from one state to another: the authenticator
accepted what was presented, and the session retains what was submitted. -/
structure Accepts (before after : SessionStore) (tr : List Exchange) (p : LoginParameters) (v : LoginResult)
    (token : String) (submitted : String × Secret) (x : Session) : Prop where
  issued : v.sessionId = some token
  name : p.givenName? = some submitted.1
  password : p.givenPassword? = some submitted.2
  accepted : ∀ w, w ∈ acceptedIn tr ↔ w = (presented before p submitted).2
  stored : after.find? token = some x
  user : ∃ user, v.user = some user ∧ x.user = some user
  retained : x.password = some submitted.2

theorem mem_acceptedIn {w : Secret} {tr : List Exchange} :
    w ∈ acceptedIn tr ↔ ∃ a q response, ⟨.authenticate a q, .ok response⟩ ∈ tr ∧
      response.result.isSuccess = true ∧ q.credentials = w := by
  constructor
  · intro h
    obtain ⟨x, hx, hw⟩ := List.mem_filterMap.1 h
    unfold Exchange.accepted? at hw
    split at hw
    · split at hw
      · next hs => exact ⟨_, _, _, hx, hs, Option.some.inj hw⟩
      · cases hw
    · cases hw
  · rintro ⟨a, q, response, hx, hs, rfl⟩
    exact List.mem_filterMap.2 ⟨_, hx, by simp [Exchange.accepted?, hs]⟩

theorem isEmpty_of_givenPassword? {p : LoginParameters} {password : Secret} (h : p.givenPassword? = some password) :
    password.isEmpty = false := by
  obtain ⟨-, hne⟩ := Option.filter_eq_some_iff.1 h
  simpa using hne

/-- The authenticator has accepted what is retained exactly if no other password was lent. -/
theorem retained_eq_presented_iff {store : SessionStore} {p : LoginParameters} {submitted : String × Secret} :
    submitted.2 = (presented store p submitted).2 ↔ ∀ c, lent? store p = some c → c.2 = submitted.2 := by
  unfold presented
  cases lent? store p with
  | none => simp
  | some c => simp [eq_comm]

section
variable {h : Dialogue.Handler σ} {store : σ → SessionStore} (ht : TellsStore h store) {s : Setup}
  (hr : s.session.retainPassword = true) {p : LoginParameters} {st st' : σ} {tr : List Exchange} {token : String}
include ht hr

theorem Course.accepts {v : LoginResult} (hy : Course s p tr (.ok v)) (hd : Dialogue.Conducts h st tr st')
    (hp : p.authRecord = none) (hv : v.succeeded = true) :
    ∃ token submitted x, Accepts (store st) (store st') tr p v token submitted x := by
  obtain ⟨f, b, token, now, t, u, x, y, ha, htoken, huser, rfl, hfill, hy'⟩ := hy.filled ht.toKeepsStore hd hv
  have hc := ha.consulted
  rcases hc.proven with hs | ⟨-, q, response, hx, hsuccess, -⟩
  · cases hp.symm.trans hs
  have hx : ⟨.authenticate f.profile.authenticator q, .ok response⟩ ∈
      t ++ ⟨.report f.report, ()⟩ :: ⟨.newToken, .ok token⟩ :: ⟨.now, now⟩ :: u := List.mem_append_left _ hx
  obtain ⟨submitted, credentials, hq⟩ := hy.asksAsChosen hc.profile _ _ _ hx
  have hpass := hq.submits.password
  have hsent : ∀ {a q r}, ⟨.authenticate a q, r⟩ ∈
      t ++ ⟨.report f.report, ()⟩ :: ⟨.newToken, .ok token⟩ :: ⟨.now, now⟩ :: u →
      q.credentials = (presented (store st) p submitted).2 := by
    intro a q' r hx'
    obtain ⟨submitted', credentials', hq'⟩ := hy.asksAsChosen hc.profile _ _ _ hx'
    -- What was submitted is read off the parameters, so it is the same for every request.
    have hsame : submitted' = submitted :=
      Prod.ext (Option.some.inj (hq'.submits.name.symm.trans hq.submits.name))
        (Option.some.inj (hq'.submits.password.symm.trans hpass))
    rw [hq'.password, hq'.eq_presented ht hd, hsame]
  refine ⟨token, submitted, y, {
    issued := htoken, name := hq.submits.name, password := hpass, accepted := ?_, stored := hy'
    user := ⟨f.user, huser, hfill.user⟩, retained := ?_ }⟩
  · intro w
    rw [mem_acceptedIn]
    constructor
    · rintro ⟨a, q', response', hx', -, rfl⟩
      exact hsent hx'
    · rintro rfl
      exact ⟨_, q, response, hx, hsuccess, hsent hx⟩
  · rw [hfill.password, hr, show (f.grant p).password = some submitted.2 from hpass]
    rfl

theorem LogsIn.accepts {accepted : Secret} (hl : LogsIn h s p st st' token accepted) :
    ∃ v submitted x, Accepts (store st) (store st') ((login s p).transcript h st) p v token submitted x := by
  obtain ⟨v, hv, hsucc, htoken⟩ := opened?_eq_some.1 hl.opened
  have hy : Course s p _ _ := course_of_yields (Dialogue.yields_transcript h (login s p) st)
  rw [hv] at hy
  obtain ⟨token', submitted, x, ha⟩ :=
    hy.accepts ht hr (Dialogue.conducts_transcript h (login s p) st) hl.unsupplied hsucc
  cases ha.issued.symm.trans htoken
  exact ⟨v, submitted, x, hl.left ▸ ha⟩

/-! ## Chains -/

/-- The session that an attempt issues lends what was submitted to the attempt. -/
theorem LogsIn.lends {accepted : Secret} (hl : LogsIn h s p st st' token accepted) :
    ∃ user password, (store st').user? token = some user ∧ (store st').password? token = some password ∧
      p.givenPassword? = some password := by
  obtain ⟨v, submitted, x, ha⟩ := hl.accepts ht hr
  obtain ⟨user, -, hu⟩ := ha.user
  refine ⟨user, submitted.2, ?_, ?_, ha.password⟩
  · simp [SessionStore.user?, ha.stored, hu]
  · simp [SessionStore.password?, ha.stored, ha.retained]

/-- Somebody who consults a session with a user and a password presents this password. -/
theorem LogsIn.accepted_eq {accepted password : Secret} {user : LocalUser} {token' : String}
    (hl : LogsIn h s p st st' token' accepted) (hp : p.credentialSession? = some token)
    (hu : (store st).user? token = some user) (hw : (store st).password? token = some password)
    (hne : password.isEmpty = false) : accepted = password := by
  obtain ⟨v, submitted, x, ha⟩ := hl.accepts ht hr
  have hlent : lent? (store st) p = some (user.loginName, password) := by
    simp [lent?, hp, hu, hw, recollect, hne]
  rw [(ha.accepted accepted).1 hl.accepted, presented, hlent]
  rfl

/-- At the end of a chain stands a session that lends what was submitted to the latest attempt. -/
theorem Chained.lends {l : List (LoginParameters × Secret)} (hc : Chained h store s l st token) :
    ∃ x rest user password, l = x :: rest ∧ (store st).user? token = some user ∧
      (store st).password? token = some password ∧ x.1.givenPassword? = some password := by
  cases hc with
  | first hl | next _ _ _ _ hl =>
    obtain ⟨user, password, hu, hw, hg⟩ := hl.lends ht hr
    exact ⟨_, _, user, password, rfl, hu, hw, hg⟩

theorem Chained.isChain {l : List (LoginParameters × Secret)} (hc : Chained h store s l st token) :
    l.IsChain Retains := by
  induction hc with
  | first => exact .singleton _
  | next hc hu hw hp hl ih =>
    obtain ⟨x, rest, user, password, rfl, hu', hw', hg⟩ := hc.lends ht hr
    have haccepted := hl.accepted_eq ht hr hp (hu.trans hu') (hw.trans hw') (isEmpty_of_givenPassword? hg)
    exact List.isChain_cons_cons.2 ⟨haccepted ▸ hg, ih⟩

end

/-- With passwords retained, the session of a successful attempt by credentials retains the password that was
submitted; the authenticator has accepted it exactly if the consulted session lent no other one. Along a chain
every attempt presents what was submitted to the one before it, so the same password is presented throughout
exactly if it was submitted to all but the latest. -/
theorem login_retains {h : Dialogue.Handler σ} {store : σ → SessionStore} (ht : TellsStore h store) (s : Setup)
    (hr : s.session.retainPassword = true) :
    (∀ p st v, p.authRecord = none → ((login s p).run h st).1 = .ok v → v.succeeded = true →
      ∃ token submitted x, Accepts (store st) (store ((login s p).run h st).2) ((login s p).transcript h st) p v
        token submitted x ∧
        (x.password = some (presented (store st) p submitted).2 ↔
          ∀ c, lent? (store st) p = some c → c.2 = submitted.2)) ∧
    ∀ l st token, Chained h store s l st token → l.IsChain Retains ∧
      ∀ w, (∀ x ∈ l.getLast?, x.2 = w) →
        ((∀ x ∈ l, x.2 = w) ↔ ∀ x ∈ l.tail, x.1.givenPassword? = some w) := by
  constructor
  · intro p st v hp hv hs
    have hy : Course s p _ _ := course_of_yields (Dialogue.yields_transcript h (login s p) st)
    rw [hv] at hy
    obtain ⟨token, submitted, x, ha⟩ := hy.accepts ht hr (Dialogue.conducts_transcript h (login s p) st) hp hs
    refine ⟨token, submitted, x, ha, ?_⟩
    rw [ha.retained, Option.some.injEq]
    exact retained_eq_presented_iff
  · intro l st token hc
    have hl := hc.isChain ht hr
    exact ⟨hl, fun w hw => forall_presented_iff hl hw⟩

/-- A remote party vouches for whoever it is asked about under one name. -/
def vouching (name : String) : Record :=
  (Wire.AuthnResponse.success (.new name)).toMap.insert Wire.principalRecordKey
    (.record (.ofList [(PrincipalRecord.nameKey, .text name)]))

/-- Somebody logs in without a session, and then consults the session that was issued: both attempts present
the password that was submitted to the first. -/
theorem login_retains_submitted :
    let h := Services.reply fun _ _ => pure (.ok (vouching "bob"))
    let st : Services Unit := {
      permissions := { allowEveryone := true }, clock := fun _ => ⟨5, 0⟩
      tokens := fun n => .ok (if n = 0 then "first" else "second"), outside := () }
    let p := LoginParameters.ofCredentials "main" "bob" ⟨"bob-secret"⟩
    let q := { LoginParameters.ofCredentials "main" "bob" ⟨"mistyped"⟩ with sessionId := some "first" }
    let st' := ((login ldapSetup p).run h st).2
    (∃ v token submitted x,
        Accepts st.sessions ((login ldapSetup p).run h st).2.sessions ((login ldapSetup p).transcript h st) p v
          token submitted x) ∧
      Chained h Services.sessions ldapSetup [(q, ⟨"bob-secret"⟩), (p, ⟨"bob-secret"⟩)]
        ((login ldapSetup q).run h st').2 "second" ∧
      Retains (q, ⟨"bob-secret"⟩) (p, ⟨"bob-secret"⟩) := by
  intro h st p q st'
  have hp : LogsIn h ldapSetup p st st' "first" ⟨"bob-secret"⟩ :=
    ⟨rfl, by decide +kernel, rfl, by decide +kernel⟩
  have hq : LogsIn h ldapSetup q st' ((login ldapSetup q).run h st').2 "second" ⟨"bob-secret"⟩ :=
    ⟨rfl, by decide +kernel, rfl, by decide +kernel⟩
  have hc : Chained h Services.sessions ldapSetup _ _ "second" := .next (.first hp) rfl rfl rfl hq
  obtain ⟨hone, hchain⟩ := login_retains (h := h) (tellsStore_reply _) ldapSetup rfl
  obtain ⟨v, hv, hs, -⟩ := opened?_eq_some.1 hp.opened
  obtain ⟨token, submitted, x, ha, -⟩ := hone p st v rfl hv hs
  exact ⟨⟨v, token, submitted, x, ha⟩, hc, (List.isChain_cons_cons.1 (hchain _ _ _ hc).1).1⟩

/-- Bob consults Ann's session: the authenticator accepts Ann's password, and Bob's session retains Bob's. -/
theorem login_retains_unaccepted :
    let h := Services.reply fun _ _ => pure (.ok (vouching "ann"))
    let st : Services Unit := {
      sessions := ⟨.ofList [("old", overdue)]⟩, permissions := { allowEveryone := true }
      clock := fun _ => ⟨5, 0⟩, tokens := fun _ => .ok "new", outside := () }
    let p := consulting "old"
    let left := (login ldapSetup p).run h st
    ldapSetup.session.retainPassword = true ∧ p.authRecord = none ∧ opened? left.1 = some "new" ∧
      acceptedIn ((login ldapSetup p).transcript h st) = [⟨"ann-secret"⟩] ∧
      left.2.sessions.password? "new" ≠ some ⟨"ann-secret"⟩ :=
  ⟨rfl, rfl, by decide +kernel, by decide +kernel, by decide +kernel⟩

end Gatehouse.Login
