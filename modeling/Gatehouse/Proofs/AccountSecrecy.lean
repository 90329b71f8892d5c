import Gatehouse.Proofs.Assembly
import Gatehouse.Proofs.AuditEntries
import Gatehouse.Proofs.Internal
import Gatehouse.Proofs.MadeHashes
/-!
# What a wrong password tells about an account

An attempt by name and password that a directory turns down for the password is the same in all that can be seen of
it, whether the directory declares the user or not, and whatever is wrong with the account besides: the answer, the
events in the audit trail, and how many passwords are verified. Main statement: this for any two such attempts, with
whatever function verifies passwords.
-/

namespace Gatehouse

/-- Every password can be compared with a hash. -/
def Usable (verify : String → String → Except Fault Bool) (hash : String) : Prop :=
  ∀ password, ∃ right, verify password hash = .ok right

/-- A made hash can be used, whatever it is the hash of. -/
theorem usable_make {salt : List UInt8} (h : 8 ≤ salt.length) (h' : salt.length ≤ 48) (origin : String) :
    Usable PasswordHash.verify (PasswordHash.make origin salt) :=
  fun password => ⟨_, PasswordHash.verify_make password origin h h'⟩

namespace Login

/-! ## Counting verifications -/

/-- The collaborators, together with what was verified so far. -/
structure Metered (ρ : Type) where
  services : Services ρ
  /-- The passwords that were verified, each with the hash it was compared with. -/
  verified : List (String × String) := []

/-- Verifies a password, and keeps a note of it. -/
def noting (verify : String → String → Except Fault Bool) (password hash : String) :
    StateM (List (String × String)) (Except Fault Bool) :=
  modifyGet fun verified => (verify password hash, verified ++ [(password, hash)])

/-- What the collaborators reply if passwords are verified by a function, of which every use is noted. -/
def metered {ρ : Type} (verify : String → String → Except Fault Bool)
    (invoke : Remote → Record → StateM ρ (Except Fault Record)) : Dialogue.Handler (Metered ρ)
  | .authenticate (.directory d) q => fun st =>
    let (now, services) := Services.readClock st.services
    let (answer, verified) := d.authenticateBy (noting verify) now q st.verified
    (answer, { services, verified })
  | r => fun st =>
    let (v, services) := Services.reply invoke r st.services
    (v, { st with services })

section
variable {ρ : Type} {verify : String → String → Except Fault Bool} {d : Directory} {now : Instant}
  {q : Wire.AuthnRequest} (invoke : Remote → Record → StateM ρ (Except Fault Record))

theorem authenticateBy_noting_of_unknown (hu : d.users.find? q.user = none) (verified : List (String × String)) :
    d.authenticateBy (noting verify) now q verified =
      ((verify q.credentials.exposed d.dummyHash).map fun _ => .failure .credentialsInvalid,
        verified ++ [(q.credentials.exposed, d.dummyHash)]) := by
  unfold Directory.authenticateBy
  rw [hu]
  rfl

theorem authenticateBy_noting_of_known {u : UserSettings} (hu : d.users.find? q.user = some u)
    (verified : List (String × String)) :
    d.authenticateBy (noting verify) now q verified =
      ((verify q.credentials.exposed u.passwordHash).map fun right =>
          if right then d.accept now u
          else (Wire.AuthnResponse.failure .credentialsIncorrect).withPrincipal u.name,
        verified ++ [(q.credentials.exposed, u.passwordHash)]) := by
  unfold Directory.authenticateBy
  rw [hu]
  rfl

/-- Keeping notes is all that there is to it: with the program's own function the program replies. -/
theorem metered_eq_reply (r : Request) (st : Metered ρ) :
    (metered PasswordHash.verify invoke r st).1 = (Services.reply invoke r st.services).1 ∧
      (metered PasswordHash.verify invoke r st).2.services = (Services.reply invoke r st.services).2 := by
  cases r with
  | authenticate a q =>
    cases a with
    | directory d =>
      refine ⟨?_, rfl⟩
      show (d.authenticateBy (noting PasswordHash.verify) _ q st.verified).1 = d.authenticate _ q
      cases hu : d.users.find? q.user with
      | none => rw [authenticateBy_noting_of_unknown hu, Directory.authenticate_of_unknown hu]
      | some u => rw [authenticateBy_noting_of_known hu, Directory.authenticate_of_known hu]
    | remote r => exact ⟨rfl, rfl⟩
  | _ => exact ⟨rfl, rfl⟩

/-- A dialogue with the program ends the same whether notes are kept or not. -/
theorem run_metered {α : Type} (x : Dialogue α) (st : Metered ρ) :
    (x.run (metered PasswordHash.verify invoke) st).1 = (x.run (Services.reply invoke) st.services).1 ∧
      (x.run (metered PasswordHash.verify invoke) st).2.services = (x.run (Services.reply invoke) st.services).2 := by
  induction x generalizing st with
  | done a => exact ⟨rfl, rfl⟩
  | ask r next ih =>
    obtain ⟨hv, hs⟩ := metered_eq_reply invoke r st
    rw [Dialogue.run_ask, Dialogue.run_ask, ← hv, ← hs]
    exact ih _ _

end

/-! ## Wrong passwords -/

/-- A directory turns a user down for the password: it does not declare the user, or the password is not the user's. -/
inductive Rebuffs (verify : String → String → Except Fault Bool) (d : Directory) (user password : String) : Prop
  | undeclared (hu : d.users.find? user = none) (hv : Usable verify d.dummyHash)
  | mistaken {u : UserSettings} (hu : d.users.find? user = some u) (hv : verify password u.passwordHash = .ok false)

/-- An authenticator says that there is something wrong with the credentials, and no more. -/
def BlamesCredentials (a : Wire.AuthnResponse) : Prop :=
  a.result = .credentialsInvalid ∨ a.result = .credentialsIncorrect

/-- How an attempt fails for wrong credentials. -/
def wrongCredentials : LoginFailure := .authenticationFailed .invalidCredentials

theorem BlamesCredentials.refusal {a : Wire.AuthnResponse} (h : BlamesCredentials a) :
    a.refusal = (wrongCredentials, [told .wrongUsernameOrPassword]) := by
  unfold Wire.AuthnResponse.refusal
  rcases h with h | h <;> rw [h] <;> rfl

theorem BlamesCredentials.isSuccess {a : Wire.AuthnResponse} (h : BlamesCredentials a) :
    a.result.isSuccess = false := by
  rcases h with h | h <;> rw [h] <;> rfl

theorem BlamesCredentials.refusalEntry {x : Authentication} (h : BlamesCredentials x.response) :
    refusalEntry x = [⟨.audit x.mappedUser .invalidCredentials, ()⟩] := by
  unfold Login.refusalEntry
  rcases h with h | h <;> rw [h] <;> rfl

/-- One password is verified, and the answer blames the credentials. -/
theorem Rebuffs.answer {verify : String → String → Except Fault Bool} {d : Directory} {q : Wire.AuthnRequest}
    (h : Rebuffs verify d q.user q.credentials.exposed) (now : Instant) (verified : List (String × String)) :
    ∃ response hash, d.authenticateBy (noting verify) now q verified =
      (.ok response, verified ++ [(q.credentials.exposed, hash)]) ∧ BlamesCredentials response := by
  cases h with
  | undeclared hu hv =>
    obtain ⟨right, hv⟩ := hv q.credentials.exposed
    refine ⟨.failure .credentialsInvalid, d.dummyHash, ?_, .inl rfl⟩
    rw [authenticateBy_noting_of_unknown hu, hv]
    rfl
  | @mistaken u hu hv =>
    refine ⟨(Wire.AuthnResponse.failure .credentialsIncorrect).withPrincipal u.name, u.passwordHash, ?_, .inr rfl⟩
    rw [authenticateBy_noting_of_known hu, hv]
    rfl

/-! ## An attempt that is turned down -/

/-- An attempt by a name and a password, with no session to consult. -/
structure Alone (p : LoginParameters) (name : String) (password : Secret) : Prop where
  unsupplied : p.authRecord = none
  name : p.givenName? = some name
  password : p.givenPassword? = some password
  unremembered : p.credentialSession? = none

/-- The events of a trail. -/
def events (t : AuditTrail) : List AuditEvent := t.entries.map AuditEntry.event

/-- Some events were logged and one password was verified, and that is all. -/
structure Leaves {ρ : Type} (st : Metered ρ) (logged : List AuditEvent) (st' : Metered ρ) : Prop where
  logged : events st'.services.audit = events st.services.audit ++ logged
  accounting : st'.services.accounting = st.services.accounting
  sessions : st'.services.sessions = st.services.sessions
  users : st'.services.users = st.services.users
  verified : ∃ password hash, st'.verified = st.verified ++ [(password, hash)]

section
variable {ρ : Type} {verify : String → String → Except Fault Bool}
  {invoke : Remote → Record → StateM ρ (Except Fault Record)} {st st' : Metered ρ} {t : List Exchange}
  {s : Setup} {p : LoginParameters} {profile : Profile} {m : Option SuffixMapper} {d : Directory} {name : String}
  {password : Secret} {a b : Progress}

theorem Leaves.audit {logged : List AuditEvent} (h : Leaves st logged st') (userName : String) (event : AuditEvent) :
    Leaves st (logged ++ [event]) (metered verify invoke (.audit userName event) st').2 where
  logged := by
    show events (AuditTrail.log _ _) = _
    unfold events
    rw [AuditTrail.entries_log, List.map_append, ← events, h.logged, List.append_assoc]
    rfl
  accounting := h.accounting
  sessions := h.sessions
  users := h.users
  verified := h.verified

variable (invoke) in
/-- The directory verifies one password, and blames the credentials. -/
theorem Rebuffs.reply {q : Wire.AuthnRequest} (h : Rebuffs verify d q.user q.credentials.exposed) (st : Metered ρ) :
    ∃ response, (metered verify invoke (.authenticate (.directory d) q) st).1 = .ok response ∧
      BlamesCredentials response ∧ Leaves st [] (metered verify invoke (.authenticate (.directory d) q) st).2 := by
  obtain ⟨response, hash, ha, hb⟩ := h.answer (Services.readClock st.services).1 st.verified
  exact ⟨response, congrArg Prod.fst ha, hb, (List.append_nil _).symm, rfl, rfl, rfl, _, hash, congrArg Prod.snd ha⟩

/-- The name is stripped, and nothing happens. -/
theorem Names.metered {r : Except Fault String} (h : Names profile name t r) (hm : profile.mapper = m.map .suffix)
    (ha : profile.authenticator = .directory d) (hc : Dialogue.Conducts (metered verify invoke) st t st') :
    r = .ok (strippedBy m name) ∧ st' = st := by
  cases h with
  | same hn =>
    refine ⟨?_, Dialogue.conducts_nil.1 hc⟩
    rcases hn with hn | hn
    · rw [ha] at hn
      cases hn.symm.trans Directory.acceptsCredentials_capabilities
    · rw [hm, Option.map_eq_none_iff] at hn
      rw [hn]
      rfl
  | failed _ hn =>
    rw [hm, Option.map_eq_some_iff] at hn
    obtain ⟨m, rfl, rfl⟩ := hn
    cases (Dialogue.conducts_cons.1 hc).1
  | mapped _ hn =>
    rw [hm, Option.map_eq_some_iff] at hn
    obtain ⟨m, rfl, rfl⟩ := hn
    obtain ⟨hr, hc⟩ := Dialogue.conducts_cons.1 hc
    cases hr
    exact ⟨rfl, Dialogue.conducts_nil.1 hc⟩

/-- The directory is asked once, and blames the credentials. -/
theorem Asks.metered {r : Except Fault Authentication} (h : Asks profile (name, password) t r)
    (hm : profile.mapper = m.map .suffix) (ha : profile.authenticator = .directory d)
    (hr : Rebuffs verify d (strippedBy m name) password.exposed)
    (hc : Dialogue.Conducts (metered verify invoke) st t st') :
    ∃ x, r = .ok x ∧ BlamesCredentials x.response ∧ Leaves st [] st' := by
  have asked : ∀ {u user v}, Names profile name u (.ok user) → Dialogue.Conducts (Login.metered verify invoke) st
      (u ++ [⟨.authenticate profile.authenticator { user, credentials := password }, v⟩]) st' →
      ∃ response, v = .ok response ∧ BlamesCredentials response ∧ Leaves st [] st' := by
    intro u user v hn hc
    obtain ⟨between, hcu, hca⟩ := Dialogue.conducts_append.1 hc
    obtain ⟨hname, hsame⟩ := hn.metered hm ha hcu
    cases hname
    rw [ha, hsame] at hca
    obtain ⟨hv, hend⟩ := Dialogue.conducts_cons.1 hca
    rw [Dialogue.conducts_nil.1 hend]
    obtain ⟨response, hresponse, hrest⟩ :=
      Rebuffs.reply invoke (q := { user := strippedBy m name, credentials := password }) hr st
    exact ⟨response, hv.trans hresponse, hrest⟩
  cases h with
  | unnamed hn => cases (hn.metered hm ha hc).1
  | failed hn =>
    obtain ⟨_, hv, -⟩ := asked hn hc
    cases hv
  | answered hn =>
    obtain ⟨_, hv, hrest⟩ := asked hn hc
    cases hv
    exact ⟨_, rfl, hrest⟩

/-- The submitted credentials are chosen, and nobody is asked for that. -/
theorem Alone.chosen (hp : Alone p name password) {submitted : String × Secret} (hs : Submits profile p submitted)
    {r : Except Fault (String × Secret)} (h : Chooses p submitted t r) : t = [] ∧ r = .ok (name, password) := by
  have hsubmitted : submitted = (name, password) :=
    Prod.ext (Option.some.inj (hs.name.symm.trans hp.name)) (Option.some.inj (hs.password.symm.trans hp.password))
  cases h with
  | submitted => exact ⟨rfl, congrArg Except.ok hsubmitted⟩
  | noUser hn | noPassword hn | recalled hn => cases hn.symm.trans hp.unremembered

/-- The attempt gets no further than the directory, and it does not become known what it was turned down for. -/
theorem Proves.metered {r : Except Exit Evidence} (h : Proves profile p a t r b) (hp : Alone p name password)
    (hm : profile.mapper = m.map .suffix) (ha : profile.authenticator = .directory d)
    (hr : Rebuffs verify d (strippedBy m name) password.exposed)
    (hc : Dialogue.Conducts (metered verify invoke) st t st') :
    r = .error (.failed wrongCredentials) ∧ b.messages = a.messages ++ [told .wrongUsernameOrPassword] ∧
      Leaves st [.invalidCredentials] st' := by
  -- Whatever the attempt goes by, the directory blames the credentials.
  have asked : ∀ {submitted credentials t₁ t₂ v st'}, Submits profile p submitted →
      Chooses p submitted t₁ (.ok credentials) → Asks profile credentials t₂ v →
      Dialogue.Conducts (Login.metered verify invoke) st (t₁ ++ t₂) st' →
      ∃ x, v = .ok x ∧ BlamesCredentials x.response ∧ Leaves st [] st' := by
    intro submitted credentials t₁ t₂ v st' hs hch hask hc
    obtain ⟨rfl, hcredentials⟩ := hp.chosen hs hch
    cases hcredentials
    exact hask.metered hm ha hr hc
  cases h with
  | supplied hn => cases hn.symm.trans hp.unsupplied
  | noName _ hn => cases hn.symm.trans hp.name
  | noPassword _ _ hn => cases hn.symm.trans hp.password
  | unsupported _ _ _ hn =>
    rw [ha] at hn
    cases hn.symm.trans Directory.acceptsPassword_capabilities
  | unchosen hs hch => cases (hp.chosen hs hch).2
  | unasked hs hch hask =>
    obtain ⟨_, hv, -⟩ := asked hs hch hask hc
    cases hv
  | refused hs hch hask =>
    rw [← List.append_assoc] at hc
    obtain ⟨between, hca, hcb⟩ := Dialogue.conducts_append.1 hc
    obtain ⟨_, hv, hblames, hleaves⟩ := asked hs hch hask hca
    cases hv
    rw [hblames.refusal]
    rw [hblames.refusalEntry] at hcb
    rw [Dialogue.conducts_nil.1 (Dialogue.conducts_cons.1 hcb).2]
    refine ⟨rfl, ?_, hleaves.audit _ _⟩
    unfold Progress.telling Progress.naming
    split <;> rfl
  | recordless hs hch hask hx | proven hs hch hask hx =>
    obtain ⟨_, hv, hblames, -⟩ := asked hs hch hask hc
    cases hv
    cases hx.symm.trans hblames.isSuccess

/-- An attempt whose credentials are not proven gets no further. -/
theorem Executes.unproven_of {r : Except Exit (String × LocalUser)} (h : Executes s p a t r b)
    (hp : s.profiles.find? p.profileName = some profile)
    (hn : ∀ t₁ t₂ evidence b, t = t₁ ++ t₂ → ¬ Proves profile p a t₁ (.ok evidence) b) :
    ∃ x, r = .error x ∧ Proves profile p a t (.error x) b := by
  have located : ∀ {profile' evidence record principal t₁ t₂ c}, t = t₁ ++ t₂ →
      Locates s p a profile' evidence record principal t₁ c → False := by
    intro profile' evidence record principal t₁ t₂ c ht hl
    cases hl with
    | intro hq hv =>
      cases hp.symm.trans hq
      exact hn _ _ _ _ (ht.trans (List.append_assoc ..)) hv
  have admitted : ∀ {x t₁ t₂ c}, t = t₁ ++ t₂ → Admits s p a x t₁ c → False := by
    intro x t₁ t₂ c ht hx
    cases hx with
    | intro hl => exact located (ht.trans (List.append_assoc ..)) hl
  cases h with
  | noProfile hq => cases hq.symm.trans hp
  | unproven hq hv =>
    cases hp.symm.trans hq
    exact ⟨_, rfl, hv⟩
  | unmapped hq hv | unfound hq hv =>
    cases hp.symm.trans hq
    exact (hn _ _ _ _ rfl hv).elim
  | unsynced hl | unpermitted hl => exact (located rfl hl).elim
  | unissued hx | granted hx => exact (admitted rfl hx).elim

/-- What the attempt answers and leaves does not depend on what it was turned down for. -/
theorem Course.metered {r : Except Fault LoginResult} (h : Course s p t r)
    (hprofile : s.profiles.find? p.profileName = some profile) (hp : Alone p name password)
    (hm : profile.mapper = m.map .suffix) (ha : profile.authenticator = .directory d)
    (hr : Rebuffs verify d (strippedBy m name) password.exposed)
    (hc : Dialogue.Conducts (metered verify invoke) st t st') :
    r = .ok (.refused wrongCredentials [told .wrongUsernameOrPassword]) ∧
      Leaves st [.invalidCredentials, .loginFailed] st' := by
  have executed : ∀ {u v c st'}, Executes s p (.start p) u v c →
      Dialogue.Conducts (Login.metered verify invoke) st u st' →
      v = .error (.failed wrongCredentials) ∧ c.messages = [told .wrongUsernameOrPassword] ∧
        Leaves st [.invalidCredentials] st' := by
    intro u v c st' he hc
    obtain ⟨x, rfl, hv⟩ := he.unproven_of hprofile fun t₁ t₂ evidence b ht hv => by
      obtain ⟨_, hct, -⟩ := Dialogue.conducts_append.1 (ht ▸ hc)
      cases (hv.metered hp hm ha hr hct).1
    obtain ⟨hx, hmessages, hleaves⟩ := hv.metered hp hm ha hr hc
    cases hx
    exact ⟨rfl, hmessages, hleaves⟩
  cases h with
  | granted he =>
    obtain ⟨_, hce, -⟩ := Dialogue.conducts_append.1 hc
    cases (executed he hce).1
  | refused he =>
    obtain ⟨_, hce, hca⟩ := Dialogue.conducts_append.1 hc
    obtain ⟨hx, hmessages, hleaves⟩ := executed he hce
    cases hx
    rw [Dialogue.conducts_nil.1 (Dialogue.conducts_cons.1 hca).2, hmessages]
    exact ⟨rfl, hleaves.audit _ _⟩
  | aborted he => cases (executed he hc).1

/-- What is compared with the password of an unknown user is a hash that was made. -/
theorem dummyHash_of_ofSettings {salt : List UInt8} {x : DirectorySettings} (h : Directory.ofSettings salt x = .ok d) :
    d.dummyHash = PasswordHash.make x.authnName salt := by
  obtain ⟨users, -, hd⟩ := Except.bind_eq_ok_iff.1 h
  cases hd
  rfl

/-- If every made hash and the hashes of all declared users can be used, then an attempt by somebody whom the directory
does not declare, and an attempt by somebody whom it declares but with a wrong password, are not told apart, whatever
may be said against that user's account: they get the same answer, the same events are logged in the same order, nothing
is reported, neither the sessions nor the users change, and one password is verified for each. -/
theorem login_conceals_accounts {salt : List UInt8} {x : DirectorySettings} (hd : Directory.ofSettings salt x = .ok d)
    (hmade : ∀ origin, Usable verify (PasswordHash.make origin salt))
    (hdeclared : ∀ u ∈ x.users, Usable verify u.passwordHash)
    (hm : profile.mapper = m.map .suffix) (ha : profile.authenticator = .directory d) {p p' : LoginParameters}
    (hprofile : s.profiles.find? p.profileName = some profile)
    (hprofile' : s.profiles.find? p'.profileName = some profile) {name name' : String} {password password' : Secret}
    (hp : Alone p name password) (hp' : Alone p' name' password') (hu : ∀ u ∈ x.users, u.name ≠ strippedBy m name)
    {u : UserSettings} (hu' : u ∈ x.users) (hname : u.name = strippedBy m name')
    (hw : verify password'.exposed u.passwordHash ≠ .ok true) (st st' : Metered ρ) :
    let run := (login s p).run (metered verify invoke) st
    let run' := (login s p').run (metered verify invoke) st'
    ∃ answer logged, run.1 = .ok answer ∧ run'.1 = .ok answer ∧
      Leaves st logged run.2 ∧ Leaves st' logged run'.2 := by
  intro run run'
  have hbacks := Directory.backs_of_ofSettings hd
  have hunknown : Rebuffs verify d (strippedBy m name) password.exposed := by
    refine .undeclared (Option.eq_none_iff_forall_ne_some.2 fun u hf => ?_) (dummyHash_of_ofSettings hd ▸ hmade _)
    obtain ⟨hmem, hn⟩ := hbacks.find?_users.1 hf
    exact hu u hmem hn
  have hwrong : Rebuffs verify d (strippedBy m name') password'.exposed := by
    obtain ⟨right, hright⟩ := hdeclared u hu' password'.exposed
    cases right with
    | true => exact absurd hright hw
    | false => exact .mistaken (hbacks.find?_users.2 ⟨hu', hname⟩) hright
  have turnedDown : ∀ {p name password} (st : Metered ρ), s.profiles.find? p.profileName = some profile →
      Alone p name password → Rebuffs verify d (strippedBy m name) password.exposed →
      let run := (login s p).run (metered verify invoke) st
      run.1 = .ok (.refused wrongCredentials [told .wrongUsernameOrPassword]) ∧
        Leaves st [.invalidCredentials, .loginFailed] run.2 :=
    fun _ hprofile hp hr => (course_of_yields (Dialogue.yields_transcript ..)).metered hprofile hp hm ha hr
      (Dialogue.conducts_transcript ..)
  obtain ⟨hanswer, hleaves⟩ := turnedDown st hprofile hp hunknown
  obtain ⟨hanswer', hleaves'⟩ := turnedDown st' hprofile' hp' hwrong
  exact ⟨_, _, hanswer, hanswer', hleaves, hleaves'⟩

end

/-- Nobody is called Bob, and Ann's account is disabled, locked and expired at once: with a wrong password both are told
the same by the program. -/
theorem login_conceals_accounts_locked :
    let ann : UserSettings := {
      name := "ann", passwordHash := "$argon2id$v=19", disabled := true, locked := true, passwordExpired := true }
    let x : DirectorySettings := { name := "staff", users := [ann] }
    let salt := List.replicate 16 7
    let d : Directory := {
      name := "staff", authnName := "staff-authn", authzName := "staff-authz", users := .ofList [("ann", ann)]
      dummyHash := PasswordHash.make "staff-authn" salt }
    let profile : Profile := {
      name := "main", authenticator := .directory d, authorizer := .directory d
      mapper := some (.suffix { name := "local", suffix := some "@staff" }) }
    let s : Setup := { profiles := ⟨.ofList [("main", profile)]⟩ }
    let bob := LoginParameters.ofCredentials "main" "bob@staff" ⟨"secret"⟩
    let impostor := LoginParameters.ofCredentials "main" "ann@staff" ⟨"guess"⟩
    let st : Metered Unit := { services := { clock := fun _ => default, outside := () } }
    let invoke : Remote → Record → StateM Unit (Except Fault Record) := fun _ _ => pure (.ok ∅)
    let h := metered PasswordHash.verify invoke
    Directory.ofSettings salt x = .ok d ∧ ∃ answer logged,
      ((login s bob).run (Services.reply invoke) st.services).1 = .ok answer ∧
      ((login s impostor).run (Services.reply invoke) st.services).1 = .ok answer ∧
      Leaves st logged ((login s bob).run h st).2 ∧ Leaves st logged ((login s impostor).run h st).2 := by
  intro ann x salt d profile s bob impostor st invoke h
  have hd : Directory.ofSettings salt x = .ok d := rfl
  have hhash : PasswordHash.ofText? "$argon2id$v=19" = some { algorithm := "argon2id", version := some 19 } := rfl
  -- A hash that was written without bytes fits no password.
  have hverify : ∀ password, PasswordHash.verify password ann.passwordHash = .ok false := by
    intro password
    show PasswordHash.verify password "$argon2id$v=19" = _
    unfold PasswordHash.verify
    rw [hhash]
    rfl
  have hprofile : s.profiles.find? "main" = some profile := rfl
  have hbob : Alone bob "bob@staff" ⟨"secret"⟩ := ⟨rfl, rfl, rfl, rfl⟩
  have himpostor : Alone impostor "ann@staff" ⟨"guess"⟩ := ⟨rfl, rfl, rfl, rfl⟩
  have hdeclared : ∀ u ∈ x.users, Usable PasswordHash.verify u.passwordHash := by
    intro u hu password
    cases List.mem_singleton.1 hu
    exact ⟨false, hverify password⟩
  have hunknown : ∀ u ∈ x.users,
      u.name ≠ strippedBy (some { name := "local", suffix := some "@staff" }) "bob@staff" := by
    intro u hu
    cases List.mem_singleton.1 hu
    decide
  have hwrong : PasswordHash.verify "guess" ann.passwordHash ≠ .ok true := by
    rw [hverify]
    nofun
  obtain ⟨answer, logged, hanswer, hanswer', hleaves, hleaves'⟩ : ∃ answer logged,
      ((login s bob).run h st).1 = .ok answer ∧ ((login s impostor).run h st).1 = .ok answer ∧
      Leaves st logged ((login s bob).run h st).2 ∧ Leaves st logged ((login s impostor).run h st).2 :=
    login_conceals_accounts hd (usable_make (by decide) (by decide)) hdeclared rfl rfl hprofile hprofile
      hbob himpostor hunknown List.mem_cons_self (by decide) hwrong st st
  refine ⟨hd, answer, logged, ?_, ?_, hleaves, hleaves'⟩
  · rw [← (run_metered invoke (login s bob) st).1]
    exact hanswer
  · rw [← (run_metered invoke (login s impostor) st).1]
    exact hanswer'

end Login

end Gatehouse
