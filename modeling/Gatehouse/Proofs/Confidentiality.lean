import Gatehouse.Proofs.CallOrder
import Gatehouse.Proofs.Likeness
/-!
# Where the password goes

Two attempts that differ in a password only are alike: each asks for what the other one asks for, but for the
password that is presented to the authenticator and the password that the session retains. So if the authenticator
makes no difference between the passwords, nobody else can.
-/

namespace Gatehouse.Login

variable {α β : Type}

/-! ## Credentials -/

/-- The same name, and passwords that are alike. -/
def CredentialsAlike (c c' : String × Secret) : Prop := c.1 = c'.1 ∧ c.2.redacted = c'.2.redacted

/-- A password taken out of what may be one. -/
abbrev redacted? (w : Option Secret) : Option Secret := w.map Secret.redacted

theorem outcomes_of_map_eq {ε α β : Type} {f : α → β} {r r' : Except ε α} (h : r.map f = r'.map f) :
    Outcomes (fun a b => f a = f b) r r' := by
  cases r <;> cases r'
  · cases h
    exact .error _
  · cases h
  · cases h
  · exact .ok (Except.ok.inj h)

/-- What was submitted passes over to what is remembered, or stays. -/
theorem getD_alike {o o' : Option (String × Secret)} {c c' : String × Secret} (hc : CredentialsAlike c c')
    (ho : Option.Rel CredentialsAlike o o') : CredentialsAlike (o.getD c) (o'.getD c') := by
  cases ho with
  | some h => exact h
  | none => exact hc

theorem remembered?_alike (token : String) :
    TalksAlike (Option.Rel CredentialsAlike) (remembered? token) (remembered? token) := by
  refine TalksAlike.bind (talksAlike_of_alike (Dialogue.alike_discreet (r := .sessions (.user? token)) rfl)) ?_
  rintro user _ rfl
  have hpassword : TalksAlike (fun w w' : Option Secret => redacted? w = redacted? w')
      (ExceptT.mk (Dialogue.request (.sessions (.password? token))))
      (ExceptT.mk (Dialogue.request (.sessions (.password? token)))) :=
    (Dialogue.alike_request (r := .sessions (.password? token)) rfl).mono fun v v' h =>
      outcomes_of_map_eq (password?_eq_of_redacted_eq h)
  refine hpassword.bind fun w w' hw => ?_
  rcases user with _ | user
  · exact talksAlike_pure .none
  rcases w with _ | w <;> rcases w' with _ | w'
  · exact talksAlike_pure .none
  · cases hw
  · cases hw
  · have hw : w.redacted = w'.redacted := Option.some.inj hw
    have hempty : w.isEmpty = w'.isEmpty := Secret.redacted_eq_iff.1 hw
    refine talksAlike_pure ?_
    rw [hempty]
    split
    · exact .none
    · exact .some ⟨rfl, hw⟩

theorem chooseCredentials_alike {p q : LoginParameters} (hp : p.credentialSession? = q.credentialSession?)
    (name : String) {w w' : Secret} (hw : w.redacted = w'.redacted) :
    TalksAlike CredentialsAlike (chooseCredentials p name w) (chooseCredentials q name w') := by
  unfold chooseCredentials
  rw [hp]
  split
  · exact (remembered?_alike _).bind fun o o' ho => talksAlike_pure (getD_alike ⟨rfl, hw⟩ ho)
  · exact talksAlike_pure ⟨rfl, hw⟩

theorem authenticate_alike (profile : Profile) {c c' : String × Secret} (hc : CredentialsAlike c c') :
    TalksAlike Eq (profile.authenticate c.1 c.2) (profile.authenticate c'.1 c'.2) := by
  obtain ⟨name, w⟩ := c
  obtain ⟨name', w'⟩ := c'
  obtain ⟨hname, hw⟩ := hc
  obtain rfl : name = name' := hname
  show TalksAlike Eq (profile.authenticate name w) (profile.authenticate name w')
  -- Under whichever name, the authenticator is asked alike, and its answer is the same.
  have asked : ∀ user, TalksAlike Eq
      (do
        let response ← ExceptT.mk (Dialogue.request (.authenticate profile.authenticator { user, credentials := w }))
        pure { mappedUser := user, response } : Talk Authentication)
      (do
        let response ← ExceptT.mk (Dialogue.request (.authenticate profile.authenticator { user, credentials := w' }))
        pure { mappedUser := user, response } : Talk Authentication) := by
    intro user
    have hrequest : (Request.authenticate profile.authenticator { user, credentials := w }).redacted =
        (Request.authenticate profile.authenticator { user, credentials := w' }).redacted := by
      simp only [Request.redacted, show w.redacted = w'.redacted from hw]
    have hasked : TalksAlike Eq
        (ExceptT.mk (Dialogue.request (.authenticate profile.authenticator { user, credentials := w })))
        (ExceptT.mk (Dialogue.request (.authenticate profile.authenticator { user, credentials := w' }))) :=
      (Dialogue.alike_request hrequest).mono fun v v' h => outcomes_of_eq (authenticate_eq_of_redacted_eq h)
    refine hasked.bind ?_
    rintro response _ rfl
    exact talksAlike_pure rfl
  unfold Profile.authenticate
  split
  · refine TalksAlike.bind (P := Eq) ?_ ?_
    · unfold Profile.mapUser
      split
      · exact talksAlike_pure rfl
      · next m _ =>
        refine TalksAlike.bind (talksAlike_of_alike (Dialogue.alike_discreet (r := .mapUser m { user := name }) rfl)) ?_
        rintro answer _ rfl
        exact talksAlike_pure rfl
    · rintro user _ rfl
      exact asked user
  · exact asked name

/-! ## Evidence -/

theorem attemptsAlike_refuse (f : LoginFailure) (messages : List UserMessage) :
    AttemptsAlike (@Eq α) (refuse f messages) (refuse f messages) := fun _ => .done ⟨.error _, rfl⟩

/-- Where an attempt is refused, it does not matter how it would go on. -/
theorem attemptsAlike_refuse_bind {P : β → β → Prop} (f : LoginFailure) (messages : List UserMessage)
    (g g' : α → Attempt β) : AttemptsAlike P (refuse f messages >>= g) (refuse f messages >>= g') := fun _ =>
  .done ⟨.error _, rfl⟩

theorem redacted?_givenPassword? (p : LoginParameters) :
    redacted? p.givenPassword? = (redacted? p.password).filter fun s => !s.isEmpty := by
  unfold LoginParameters.givenPassword?
  cases p.password with
  | none => rfl
  | some w =>
    simp only [redacted?, Option.map_some, Option.filter_some, Secret.isEmpty_redacted]
    split <;> rfl

theorem obtainEvidence_alike (profile : Profile) (p : LoginParameters) {w : Option Secret}
    (hw : redacted? p.password = redacted? w) :
    AttemptsAlike Eq (obtainEvidence profile p) (obtainEvidence profile { p with password := w }) := by
  have hgiven : redacted? p.givenPassword? = redacted? { p with password := w }.givenPassword? := by
    rw [redacted?_givenPassword?, hw, redacted?_givenPassword?]
  unfold obtainEvidence
  dsimp only
  split
  · exact attemptsAlike_pure rfl
  unfold checkCredentials
  have hname : { p with password := w }.givenName? = p.givenName? := rfl
  rw [hname]
  split
  case h_2 => exact attemptsAlike_refuse _ _
  next name hn =>
  generalize p.givenPassword? = o at hgiven
  generalize { p with password := w }.givenPassword? = o' at hgiven
  rcases o with _ | v <;> rcases o' with _ | v'
  · exact attemptsAlike_refuse _ _
  · cases hgiven
  · cases hgiven
  have hv : v.redacted = v'.redacted := Option.some.inj hgiven
  dsimp only
  split
  · exact attemptsAlike_refuse_bind _ _ _ _
  refine (attemptsAlike_reaching _ (chooseCredentials_alike rfl name hv)).bind ?_
  rintro ⟨user, sent⟩ ⟨user', sent'⟩ ⟨hname, hsent⟩
  obtain rfl : user = user' := hname
  have hchosen : CredentialsAlike (user, sent) (user, sent') := ⟨rfl, hsent⟩
  refine (attemptsAlike_reaching _ (authenticate_alike profile hchosen)).bind ?_
  rintro x _ rfl
  -- From here on the password is not used any more.
  refine attemptsAlike_of_goes fun a tr r b h e he => ?_
  obtain ⟨_, _, hr⟩ := audit_of_goes_settled h he
  rw [hr]
  rfl

/-! ## The session -/

theorem edits_alike (s : SessionSettings) (now : Instant) (g : Grant) {w : Option Secret}
    (hw : redacted? g.password = redacted? w) :
    (g.edits s now).map Session.Edit.redacted = (Grant.edits { g with password := w } s now).map Session.Edit.redacted := by
  unfold Grant.edits
  cases hg : g.password with
  | none =>
    rw [hg] at hw
    cases w with
    | none => rfl
    | some w => cases hw
  | some v =>
    rw [hg] at hw
    cases w with
    | none => cases hw
    | some w =>
      have hv : v.redacted = w.redacted := Option.some.inj hw
      cases s.retainPassword <;> simp [Option.filter, Session.Edit.redacted, hv]

theorem writes_alike (token : String) {es es' : List Session.Edit}
    (h : es.map Session.Edit.redacted = es'.map Session.Edit.redacted) :
    TalksAlike Eq (es.forM (writeSession token)) (es'.forM (writeSession token)) := by
  induction es generalizing es' with
  | nil =>
    cases es' with
    | nil => exact talksAlike_pure rfl
    | cons e' es' => cases h
  | cons e es ih =>
    cases es' with
    | nil => cases h
    | cons e' es' =>
      obtain ⟨he, hes⟩ := List.cons.inj h
      have hwrite : TalksAlike Eq (writeSession token e) (writeSession token e') := by
        have hr : (Request.sessions (.write token e)).redacted = (Request.sessions (.write token e')).redacted := by
          simp only [Request.redacted, SessionStore.Op.redacted, he]
        exact (Dialogue.alike_request hr).mono fun v v' h => outcomes_of_eq (write_eq_of_redacted_eq h)
      refine TalksAlike.bind hwrite ?_
      rintro _ _ rfl
      exact ih hes

theorem issue_alike (s : SessionSettings) (g : Grant) {w : Option Secret} (hw : redacted? g.password = redacted? w) :
    TalksAlike Eq (issue s g) (issue s { g with password := w }) := by
  have attached : ∀ token, TalksAlike Eq (attach s token g) (attach s token { g with password := w }) := by
    intro token
    rw [attach_eq, attach_eq]
    refine (talksAlike_lift (Dialogue.alike_discreet (r := .now) rfl)).bind ?_
    rintro now _ rfl
    exact writes_alike token (edits_alike s now g hw)
  unfold issue
  refine TalksAlike.bind (talksAlike_of_alike (Dialogue.alike_discreet (r := .newToken) rfl)) ?_
  rintro token _ rfl
  refine TalksAlike.bind (talksAlike_lift (attached token)) ?_
  rintro r r' hr
  cases hr with
  | ok h => exact talksAlike_pure rfl
  | error e =>
    refine (talksAlike_lift (Dialogue.alike_discreet (r := .sessions (.remove token)) rfl)).bind fun _ _ _ => ?_
    exact .done (.error e)

/-! ## Steps that are not told passwords -/

section
variable {profile : Profile} {tr : List Exchange} {e : Exchange}

theorem Maps.isDiscreet {record : AuthRecord} {r : Except Fault AuthRecord} (h : Maps profile record tr r) :
    ∀ e ∈ tr, e.request.isDiscreet = true := by
  cases h <;> simp [Request.isDiscreet]

theorem Finds.isDiscreet {record : AuthRecord} {name : Option String} {b c : Progress}
    {r : Except Exit PrincipalRecord} (h : Finds profile record name b tr r c) :
    ∀ e ∈ tr, e.request.isDiscreet = true := by
  cases h <;> simp [Request.isDiscreet]

theorem Syncs.isDiscreet {principal : PrincipalRecord} {r : Except Fault LocalUser}
    (h : Syncs profile principal tr r) : ∀ e ∈ tr, e.request.isDiscreet = true := by
  cases h <;> simp [Request.isDiscreet]

theorem Permits.isDiscreet {record : AuthRecord} {principal : PrincipalRecord} {row : LocalUser} {b c : Progress}
    {r : Except Exit LocalUser} (h : Permits profile record principal row b tr r c) :
    ∀ e ∈ tr, e.request.isDiscreet = true := by
  cases h <;> simp [Request.isDiscreet]

theorem Books.isDiscreet {s : Setup} {user : LocalUser} (h : Books s user tr) :
    ∀ e ∈ tr, e.request.isDiscreet = true := by
  cases h <;> simp [Request.isDiscreet]

end

/-- Whether a principal is learned of does not depend on the password. -/
theorem attemptsAlike_identify_bind {P : α → β → Prop} {principal : Option String} {profile : Profile}
    {f : Unit → Attempt α} {g : Unit → Attempt β} (h : AttemptsAlike P (f ()) (g ())) :
    AttemptsAlike P
      (match principal with
        | some principal => do
          let y ← identify principal profile.name
          f y
        | _ => f ())
      (match principal with
        | some principal => do
          let y ← identify principal profile.name
          g y
        | _ => g ()) := by
  cases principal with
  | none => exact h
  | some principal =>
    have hnamed : AttemptsAlike Eq (identify principal profile.name) (identify principal profile.name) := fun _ =>
      .done ⟨.ok rfl, rfl⟩
    exact hnamed.bind fun _ _ _ => h

theorem attemptsAlike_ask {r : Request} (hr : r.isDiscreet = true) : AttemptsAlike Eq (ask r) (ask r) := by
  refine attemptsAlike_of_goes fun a tr v b h e he => ?_
  have hpure : Goes (ask r >>= pure) a tr v b := by rwa [bind_pure]
  obtain ⟨_, u, rfl, hu⟩ := goes_ask.1 hpure
  obtain ⟨rfl, -, -⟩ := goes_pure.1 hu
  cases List.mem_singleton.1 he
  exact hr

/-! ## The whole attempt -/

theorem execute_alike (s : Setup) (p : LoginParameters) {w : Option Secret}
    (hw : redacted? p.password = redacted? w) :
    AttemptsAlike Eq (execute s p) (execute s { p with password := w }) := by
  have hgiven : redacted? p.givenPassword? = redacted? { p with password := w }.givenPassword? := by
    rw [redacted?_givenPassword?, hw, redacted?_givenPassword?]
  unfold execute
  dsimp only
  split
  case h_2 => exact attemptsAlike_refuse _ _
  next profile _ =>
  refine (obtainEvidence_alike profile p hw).bind ?_
  rintro evidence _ rfl
  refine attemptsAlike_identify_bind ?_
  refine AttemptsAlike.bind (P := Eq) (attemptsAlike_reaching _ ?_) ?_
  · exact talksAlike_of_yields fun tr r h => (maps_of_yields h).isDiscreet
  rintro record _ rfl
  refine AttemptsAlike.bind (P := Eq) (attemptsAlike_of_goes fun a tr r b h => (finds_of_goes h).isDiscreet) ?_
  rintro principal _ rfl
  refine AttemptsAlike.bind (P := Eq) (attemptsAlike_reaching _ ?_) ?_
  · exact talksAlike_of_yields fun tr r h => (syncs_of_yields h).isDiscreet
  rintro row _ rfl
  refine AttemptsAlike.bind (P := Eq) (attemptsAlike_of_goes fun a tr r b h => (permits_of_goes h).isDiscreet) ?_
  rintro user _ rfl
  refine (attemptsAlike_ask rfl).bind fun _ _ _ => ?_
  refine (attemptsAlike_reaching _ (issue_alike s.session _ hgiven)).bind ?_
  rintro token _ rfl
  exact attemptsAlike_pure rfl

/-- Attempts that differ in a password only, empty in neither or in both, are alike and answer the same. -/
theorem login_alike (s : Setup) {p q : LoginParameters} (h : p.redacted = q.redacted) :
    (login s p).Alike Eq (login s q) := by
  obtain ⟨w, hw, rfl⟩ : ∃ w, redacted? p.password = redacted? w ∧ q = { p with password := w } := by
    cases p
    cases q
    simp_all [LoginParameters.redacted]
  unfold login
  refine (execute_alike s p hw (.start p)).bind ?_
  rintro ⟨outcome, b⟩ ⟨_, _⟩ ⟨houtcome, rfl⟩
  obtain rfl := eq_of_outcomes houtcome
  have logged : ∀ {event}, Dialogue.Alike Eq (Dialogue.request (.audit b.displayName event))
      (Dialogue.request (.audit b.displayName event)) := Dialogue.alike_discreet rfl
  rcases outcome with (f | e) | ⟨token, user⟩
  · exact logged.bind fun _ _ _ => Dialogue.alike_pure rfl
  · exact Dialogue.alike_pure rfl
  · refine logged.bind fun _ _ _ => ?_
    refine (Dialogue.alike_of_yields fun tr r h => (books_of_yields h).isDiscreet).bind fun _ _ _ => ?_
    exact Dialogue.alike_pure rfl

end Gatehouse.Login
