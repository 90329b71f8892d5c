import Gatehouse.Proofs.Recollection
/-!
# Which credentials reach the authenticator

An attempt with credentials consults at most one session. It presents the user and the password that the session
remembers, or else what was submitted, but never a part of either; and an attempt that lacks a name or a password
does not look into sessions at all. Nothing is assumed but that the store can be read.
-/

namespace Gatehouse

/-- The session that an attempt consults: the one it names, else the pending one. An empty name is none. -/
inductive LoginParameters.Consults (p : LoginParameters) (token : String) : Prop
  | named (h : p.sessionId = some token) (hne : token ≠ "")
  | pending (hn : p.sessionId = none ∨ p.sessionId = some "") (h : p.pendingSessionId = some token)
      (hne : token ≠ "")

/-- The session of a token remembers a user's name and a password that is not empty. -/
def SessionStore.Remembers (store : SessionStore) (token : String) (credentials : String × Secret) : Prop :=
  ∃ x user, store.find? token = some x ∧ x.user = some user ∧ user.loginName = credentials.1 ∧
    x.password = some credentials.2 ∧ credentials.2.exposed ≠ ""

namespace Login

/-! ## What is chosen -/

/-- What an attempt presents: what the consulted session remembers, else what was submitted. -/
inductive Lends (store : SessionStore) (p : LoginParameters) (submitted : String × Secret) : String × Secret → Prop
  | remembered {token credentials} (hp : p.Consults token) (h : store.Remembers token credentials) :
      Lends store p submitted credentials
  | submitted (h : ∀ token credentials, p.Consults token → ¬ store.Remembers token credentials) :
      Lends store p submitted submitted

/-- How the consulted session is read. -/
inductive ReadsSession (store : SessionStore) (p : LoginParameters) : List Exchange → Prop
  | none (h : ∀ token, ¬ p.Consults token) : ReadsSession store p []
  | both {token} (h : p.Consults token) :
      ReadsSession store p [⟨.sessions (.user? token), .ok (store.user? token)⟩,
        ⟨.sessions (.password? token), .ok (store.password? token)⟩]

/-- How credentials are sent: the mapper is asked for the name if there is one and the authenticator checks
credentials, and if the mapper does not fail, the authenticator is asked with what it says. -/
inductive Sends (profile : Profile) (credentials : String × Secret) : List Exchange → Prop
  | plain {reply} (h : profile.authenticator.capabilities.acceptsCredentials = false ∨ profile.mapper = none) :
      Sends profile credentials
        [⟨.authenticate profile.authenticator { user := credentials.1, credentials := credentials.2 }, reply⟩]
  | unmapped {m e} (hc : profile.authenticator.capabilities.acceptsCredentials = true)
      (hm : profile.mapper = some m) :
      Sends profile credentials [⟨.mapUser m { user := credentials.1 }, .error e⟩]
  | mapped {m answer reply} (hc : profile.authenticator.capabilities.acceptsCredentials = true)
      (hm : profile.mapper = some m) :
      Sends profile credentials
        [⟨.mapUser m { user := credentials.1 }, .ok answer⟩,
          ⟨.authenticate profile.authenticator
            { user := Wire.MappingResponse.userOr answer credentials.1, credentials := credentials.2 }, reply⟩]

/-- An attempt reads the consulted session, presents what it chose, and has nothing to do with credentials after
that. -/
inductive Presents (profile : Profile) (store : SessionStore) (p : LoginParameters)
    (submitted credentials : String × Secret) : List Exchange → Prop
  | intro {reads asked rest} (hr : ReadsSession store p reads) (hl : Lends store p submitted credentials)
      (hs : Sends profile credentials asked) (hrest : Settled rest) :
      Presents profile store p submitted credentials (reads ++ (asked ++ rest))

section
variable {p : LoginParameters} {store : SessionStore} {token : String} {submitted credentials : String × Secret}

theorem nonEmpty?_eq_some {s t : String} : LoginParameters.nonEmpty? s = some t ↔ s = t ∧ t ≠ "" := by
  unfold LoginParameters.nonEmpty?
  rw [Option.ite_none_left_eq_some, String.isEmpty_iff, Option.some.injEq]
  constructor
  · rintro ⟨hne, rfl⟩
    exact ⟨rfl, hne⟩
  · rintro ⟨rfl, hne⟩
    exact ⟨hne, rfl⟩

theorem credentialSession?_eq_some : p.credentialSession? = some token ↔ p.Consults token := by
  have hnamed : p.sessionId.bind LoginParameters.nonEmpty? = none ↔ p.sessionId = none ∨ p.sessionId = some "" := by
    cases p.sessionId with
    | none => simp
    | some s => simp [LoginParameters.nonEmpty?]
  unfold LoginParameters.credentialSession?
  rw [Option.orElse_eq_orElse, Option.orElse_eq_or, Option.or_eq_some_iff, hnamed]
  simp only [Option.bind_eq_some_iff, nonEmpty?_eq_some]
  constructor
  · rintro (⟨_, h, rfl, hne⟩ | ⟨hn, _, h, rfl, hne⟩)
    · exact .named h hne
    · exact .pending hn h hne
  · rintro (⟨h, hne⟩ | ⟨hn, h, hne⟩)
    · exact .inl ⟨token, h, rfl, hne⟩
    · exact .inr ⟨hn, token, h, rfl, hne⟩

theorem recollect_eq_some : recollect (store.user? token) (store.password? token) = some credentials ↔
    store.Remembers token credentials := by
  unfold SessionStore.Remembers SessionStore.user? SessionStore.password?
  cases store.find? token with
  | none => simp [recollect]
  | some x =>
    obtain ⟨name, password⟩ := credentials
    cases hu : x.user <;> cases hw : x.password <;> simp [recollect, hu, hw, Secret.isEmpty]
    grind

theorem lends_getD (hp : p.Consults token) :
    Lends store p submitted ((recollect (store.user? token) (store.password? token)).getD submitted) := by
  cases hr : recollect (store.user? token) (store.password? token) with
  | some credentials => exact .remembered hp (recollect_eq_some.1 hr)
  | none =>
    refine .submitted fun token' credentials hp' h => ?_
    have htoken : token' = token :=
      Option.some.inj ((credentialSession?_eq_some.2 hp').symm.trans (credentialSession?_eq_some.2 hp))
    exact nomatch hr.symm.trans (recollect_eq_some.2 (htoken ▸ h))

theorem Lends.exposed_ne (h : Lends store p submitted credentials) (hs : submitted.2.exposed ≠ "") :
    credentials.2.exposed ≠ "" := by
  cases h with
  | remembered _ h =>
    obtain ⟨_, _, _, _, _, _, hne⟩ := h
    exact hne
  | submitted => exact hs

end

theorem Presents.lends {profile : Profile} {store : SessionStore} {p : LoginParameters}
    {submitted credentials : String × Secret} {tr : List Exchange}
    (h : Presents profile store p submitted credentials tr) : Lends store p submitted credentials := by
  cases h with
  | intro _ hl => exact hl

/-! ## What is asked -/

theorem exposed_ne_of_givenPassword? {p : LoginParameters} {password : Secret} (h : p.givenPassword? = some password) :
    password.exposed ≠ "" := by
  obtain ⟨-, hne⟩ := Option.filter_eq_some_iff.1 h
  simpa [Secret.isEmpty] using hne

/-- Without a name or a password nobody is asked who logs in. -/
theorem Proves.eq_nil {profile : Profile} {p : LoginParameters} {a b : Progress} {t : List Exchange}
    {r : Except Exit Evidence} (h : Proves profile p a t r b)
    (hlacks : p.givenName? = none ∨ p.givenPassword? = none) : t = [] := by
  have hs : ∀ submitted, ¬ Submits profile p submitted := by
    intro submitted hs
    rcases hlacks with hn | hw
    · exact nomatch hn.symm.trans hs.name
    · exact nomatch hw.symm.trans hs.password
  cases h with
  | supplied | noName | noPassword | unsupported => rfl
  | unchosen ho | unasked ho | refused ho | recordless ho | proven ho => exact absurd ho (hs _)

/-- A handler tells what users and passwords its store holds, and to ask for a user does not change the store. -/
structure ReadsStore {σ : Type} (h : Dialogue.Handler σ) (store : σ → SessionStore) : Prop where
  user : ∀ token st, (h (.sessions (.user? token)) st).1 = .ok ((store st).user? token)
  password : ∀ token st, (h (.sessions (.password? token)) st).1 = .ok ((store st).password? token)
  kept : ∀ token st, store (h (.sessions (.user? token)) st).2 = store st

/-- The program's own store can be read. -/
theorem readsStore_reply {ρ : Type} (invoke : Remote → Record → StateM ρ (Except Fault Record)) :
    ReadsStore (Services.reply invoke) Services.sessions where
  user _ _ := rfl
  password _ _ := rfl
  kept _ _ := rfl

theorem Asks.sends {profile : Profile} {credentials : String × Secret} {t : List Exchange}
    {r : Except Fault Authentication} (h : Asks profile credentials t r) : Sends profile credentials t := by
  cases h with
  | unnamed hn =>
    cases hn with
    | failed hc hm => exact .unmapped hc hm
  | failed hn | answered hn =>
    cases hn with
    | same hm => exact .plain hm
    | mapped hc hm => exact .mapped hc hm

section
variable {σ : Type} {h : Dialogue.Handler σ} {store : σ → SessionStore} (hread : ReadsStore h store)
  {profile : Profile} {p : LoginParameters} {t : List Exchange} {st st' : σ} {submitted : String × Secret}
include hread

/-- With a store that can be read, a choice is made. -/
theorem Chooses.lends {r : Except Fault (String × Secret)} (hc : Chooses p submitted t r)
    (hd : Dialogue.Conducts h st t st') :
    ∃ credentials, r = .ok credentials ∧ ReadsSession (store st) p t ∧ Lends (store st) p submitted credentials := by
  cases hc with
  | submitted hp =>
    have hnone : ∀ token, ¬ p.Consults token := fun token ht => nomatch hp.symm.trans (credentialSession?_eq_some.2 ht)
    exact ⟨submitted, rfl, .none hnone, .submitted fun token _ ht => absurd ht (hnone token)⟩
  | noUser =>
    obtain ⟨hu, -⟩ := Dialogue.conducts_cons.1 hd
    exact nomatch hu.trans (hread.user _ st)
  | @noPassword token =>
    obtain ⟨-, hd⟩ := Dialogue.conducts_cons.1 hd
    obtain ⟨hw, -⟩ := Dialogue.conducts_cons.1 hd
    exact nomatch hw.trans (hread.password token _)
  | @recalled token user password hp =>
    obtain ⟨hu, hd⟩ := Dialogue.conducts_cons.1 hd
    obtain ⟨hw, -⟩ := Dialogue.conducts_cons.1 hd
    cases hu.trans (hread.user token st)
    cases hw.trans (hread.password token _)
    rw [show store (h (.sessions (.user? token)) st).2 = store st from hread.kept token st]
    have hp := credentialSession?_eq_some.1 hp
    exact ⟨_, rfl, .both hp, lends_getD hp⟩

theorem Proves.presents {a b : Progress} {r : Except Exit Evidence} {u : List Exchange}
    (hs : Submits profile p submitted) (hv : Proves profile p a t r b) (hd : Dialogue.Conducts h st t st')
    (hu : Settled u) : ∃ credentials, Presents profile (store st) p submitted credentials (t ++ u) := by
  have same : ∀ {other}, Submits profile p other → other = submitted := fun ho =>
    Prod.ext (Option.some.inj (ho.name.symm.trans hs.name)) (Option.some.inj (ho.password.symm.trans hs.password))
  -- Once a choice has been made, the authenticator is asked, whatever comes of it.
  have asked : ∀ {other credentials v w x y}, Submits profile p other → Chooses p other v (.ok credentials) →
      Asks profile credentials w x → Settled y → (∃ m, Dialogue.Conducts h st v m) →
      ∃ credentials, Presents profile (store st) p submitted credentials (v ++ (w ++ y)) := by
    rintro other credentials v w x y ho hc ha hy ⟨m, hm⟩
    obtain ⟨_, hr, hreads, hl⟩ := hc.lends hread hm
    cases hr
    exact ⟨credentials, .intro hreads (same ho ▸ hl) ha.sends hy⟩
  have start : ∀ {v w}, t = v ++ w → ∃ m, Dialogue.Conducts h st v m := by
    rintro v w rfl
    obtain ⟨m, hm, -⟩ := Dialogue.conducts_append.1 hd
    exact ⟨m, hm⟩
  cases hv with
  | supplied hp => exact nomatch hp.symm.trans hs.unsupplied
  | noName _ hn => exact nomatch hn.symm.trans hs.name
  | noPassword _ _ hw => exact nomatch hw.symm.trans hs.password
  | unsupported _ _ _ hc => exact nomatch hc.symm.trans hs.accepts
  | unchosen _ hc =>
    obtain ⟨_, hr, -⟩ := hc.lends hread hd
    cases hr
  | unasked ho hc ha | recordless ho hc ha | proven ho hc ha =>
    rw [List.append_assoc]
    exact asked ho hc ha hu (start rfl)
  | refused ho hc ha =>
    rw [List.append_assoc, List.append_assoc]
    exact asked ho hc ha ((settled_refusalEntry _).append hu) (start rfl)

/-- An attempt with credentials that gets past its guards reads the consulted session and presents what the session
remembers of a user with a password, and else what was submitted; the name goes through the mapper exactly if there is
one and the authenticator checks credentials, and the password is not empty. An attempt without a name or a password
has nothing to do with credentials, those that sessions remember included. -/
theorem login_presents_remembered (s : Setup) (p : LoginParameters) (st : σ) :
    (∀ profile name password, s.profiles.find? p.profileName = some profile → Submits profile p (name, password) →
      ∃ credentials, credentials.2.exposed ≠ "" ∧
        Presents profile (store st) p (name, password) credentials ((login s p).transcript h st)) ∧
      ((∀ name, p.loginName = some name → name = "") ∨
          (∀ password, p.password = some password → password.exposed = "") →
        Settled ((login s p).transcript h st)) := by
  have hd := Dialogue.conducts_transcript h (login s p) st
  have hy : Course s p _ _ := course_of_yields (Dialogue.yields_transcript h (login s p) st)
  generalize (login s p).transcript h st = tr at hd hy ⊢
  refine ⟨fun profile name password hp hs => ?_, fun hlacks => ?_⟩
  · obtain ⟨t, u, r, b, rfl, hv, hu⟩ := hy.startsWithProof hp
    obtain ⟨m, hm, -⟩ := Dialogue.conducts_append.1 hd
    obtain ⟨credentials, hpresents⟩ := hv.presents hread hs hm hu
    exact ⟨credentials, hpresents.lends.exposed_ne (exposed_ne_of_givenPassword? hs.password), hpresents⟩
  · have hgiven : p.givenName? = none ∨ p.givenPassword? = none := by
      rcases hlacks with hn | hw
      · refine .inl ?_
        cases hname : p.loginName with
        | none => simp [LoginParameters.givenName?, hname]
        | some name => simp [LoginParameters.givenName?, hname, LoginParameters.nonEmpty?, hn name hname]
      · refine .inr ?_
        cases hpassword : p.password with
        | none => simp [LoginParameters.givenPassword?, hpassword]
        | some password => simp [LoginParameters.givenPassword?, hpassword, Secret.isEmpty, hw password hpassword]
    cases hp : s.profiles.find? p.profileName with
    | none =>
      obtain ⟨who, rfl⟩ := hy.of_idle (.noProfile hp)
      exact (lacks_nil _).cons rfl
    | some profile =>
      obtain ⟨t, u, r, b, rfl, hv, hu⟩ := hy.startsWithProof hp
      rwa [hv.eq_nil hgiven]

end

/-- Bob's attempt consults Ann's session: her name and her password are sent, and if he leaves out his password,
nothing of hers is read. -/
theorem login_presents_ann :
    let h := Services.reply fun _ _ => pure (.ok ∅)
    let st : Services Unit := {
      sessions := ⟨.ofList [("old", overdue)]⟩, clock := fun _ => ⟨5, 0⟩, outside := () }
    let p := consulting "old"
    Presents { name := "main", authenticator := .remote ldap, authorizer := .remote ldap } st.sessions p
        ("bob", ⟨"bob-secret"⟩) ("ann", ⟨"ann-secret"⟩) ((login ldapSetup p).transcript h st) ∧
      Settled ((login ldapSetup { p with password := some ⟨""⟩ }).transcript h st) := by
  intro h st p
  have hread : ReadsStore h Services.sessions := readsStore_reply fun _ _ => pure (.ok ∅)
  obtain ⟨credentials, -, hpresents⟩ := (login_presents_remembered hread ldapSetup p st).1 _ "bob" ⟨"bob-secret"⟩ rfl
    ⟨rfl, rfl, rfl, rfl⟩
  have hann : credentials = ("ann", ⟨"ann-secret"⟩) := by
    cases hpresents.lends with
    | @remembered token _ hp hr =>
      have htoken : some "old" = some token := credentialSession?_eq_some.2 hp
      cases htoken
      exact (Option.some.inj (recollect_eq_some.2 hr)).symm
    | submitted hn => exact absurd (recollect_eq_some.1 rfl) (hn "old" _ (.named rfl (by decide)))
  refine ⟨hann ▸ hpresents, (login_presents_remembered hread ldapSetup _ st).2 (.inr ?_)⟩
  rintro _ ⟨⟩
  rfl

end Login

end Gatehouse
