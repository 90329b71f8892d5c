import Gatehouse.Proofs.Transcript
/-!
# The courses of a login attempt

Every step of a login attempt comes with a relation that lists how the step can go: what is asked, what
is replied, and what comes of it. `Course` puts the steps together, and `course_of_yields` says that a
login attempt takes no other course. Whatever holds of every attempt is proved by cases over these
relations, without a look at the steps themselves.
-/

namespace Gatehouse.Login

/-! ## Credentials -/

/-- The credentials that a session remembers: both its user and its password, or neither. -/
def recollect (user : Option LocalUser) (password : Option Secret) : Option (String × Secret) :=
  match user, password with
  | some user, some password => if password.isEmpty then none else some (user.loginName, password)
  | _, _ => none

/-- How the credentials to check are chosen. -/
inductive Chooses (p : LoginParameters) (submitted : String × Secret) :
    List Exchange → Except Fault (String × Secret) → Prop
  | submitted (hp : p.credentialSession? = none) : Chooses p submitted [] (.ok submitted)
  | noUser {token e} (hp : p.credentialSession? = some token) :
      Chooses p submitted [⟨.sessions (.user? token), .error e⟩] (.error e)
  | noPassword {token user e} (hp : p.credentialSession? = some token) :
      Chooses p submitted [⟨.sessions (.user? token), .ok user⟩, ⟨.sessions (.password? token), .error e⟩]
        (.error e)
  | recalled {token user password} (hp : p.credentialSession? = some token) :
      Chooses p submitted
        [⟨.sessions (.user? token), .ok user⟩, ⟨.sessions (.password? token), .ok password⟩]
        (.ok ((recollect user password).getD submitted))

theorem chooses_of_yields {p : LoginParameters} {name : String} {password : Secret} {tr : List Exchange}
    {r : Except Fault (String × Secret)} (h : (chooseCredentials p name password).run.Yields tr r) :
    Chooses p (name, password) tr r := by
  unfold chooseCredentials at h
  split at h
  · next token hp =>
    rcases h with _ | ⟨user, h⟩
    rcases user with e | user
    · cases h
      exact .noUser hp
    rcases h with _ | ⟨remembered, h⟩
    rcases remembered with e | remembered
    · cases h
      exact .noPassword hp
    rcases user with _ | user
    · cases h
      exact .recalled hp
    rcases remembered with _ | remembered
    · cases h
      exact .recalled hp
    · cases h
      exact .recalled hp
  · next hp =>
    obtain ⟨rfl, rfl⟩ := talk_pure.1 h
    exact .submitted hp

/-- How the name to send to the authenticator is found. -/
inductive Names (profile : Profile) (name : String) : List Exchange → Except Fault String → Prop
  | same (hm : profile.authenticator.capabilities.acceptsCredentials = false ∨ profile.mapper = none) :
      Names profile name [] (.ok name)
  | failed {m e} (hc : profile.authenticator.capabilities.acceptsCredentials = true)
      (hm : profile.mapper = some m) : Names profile name [⟨.mapUser m { user := name }, .error e⟩] (.error e)
  | mapped {m a} (hc : profile.authenticator.capabilities.acceptsCredentials = true)
      (hm : profile.mapper = some m) :
      Names profile name [⟨.mapUser m { user := name }, .ok a⟩] (.ok (Wire.MappingResponse.userOr a name))

/-- How an authenticator is asked to check credentials. -/
inductive Asks (profile : Profile) (credentials : String × Secret) :
    List Exchange → Except Fault Authentication → Prop
  | unnamed {t e} (hn : Names profile credentials.1 t (.error e)) : Asks profile credentials t (.error e)
  | failed {t user e} (hn : Names profile credentials.1 t (.ok user)) :
      Asks profile credentials
        (t ++ [⟨.authenticate profile.authenticator { user, credentials := credentials.2 }, .error e⟩])
        (.error e)
  | answered {t user response} (hn : Names profile credentials.1 t (.ok user)) :
      Asks profile credentials
        (t ++ [⟨.authenticate profile.authenticator { user, credentials := credentials.2 }, .ok response⟩])
        (.ok { mappedUser := user, response })

theorem asks_of_yields {profile : Profile} {name : String} {password : Secret} {tr : List Exchange}
    {r : Except Fault Authentication} (h : (profile.authenticate name password).run.Yields tr r) :
    Asks profile (name, password) tr r := by
  -- Both ways to a name go on in the same way.
  have asked : ∀ {t u user}, Names profile name t (.ok user) →
      Dialogue.Yields (do
        let response : Wire.AuthnResponse ← (ExceptT.mk (Dialogue.request
          (.authenticate profile.authenticator { user, credentials := password })) : Talk _)
        (pure { mappedUser := user, response } : Talk Authentication)).run u r →
      Asks profile (name, password) (t ++ u) r := by
    intro t u user hn h
    rcases h with _ | ⟨response, h⟩
    rcases response with e | response
    · cases h
      exact .failed hn
    · cases h
      exact .answered hn
  unfold Profile.authenticate at h
  split at h
  · next hc =>
    unfold Profile.mapUser at h
    split at h
    · next hm => exact asked (.same (.inr hm)) h
    · next m hm =>
      rcases h with _ | ⟨answer, h⟩
      rcases answer with e | answer
      · cases h
        exact .unnamed (.failed hc hm)
      · exact asked (.mapped hc hm) h
  · next hc => exact asked (.same (.inl (by simpa using hc))) h

/-! ## Evidence -/

/-- The progress of an attempt that tells the user something more. -/
def Progress.telling (a : Progress) (messages : List UserMessage) : Progress :=
  { a with messages := a.messages ++ messages }

/-- The progress of an attempt that learns of a principal, if there is one. -/
def Progress.naming (a : Progress) (principal : Option String) (profile : Profile) : Progress :=
  match principal with
  | some principal => { a with displayName := LoginParameters.displayName principal (some profile.name) }
  | none => a

/-- Credentials were submitted, and the authenticator takes passwords. -/
structure Submits (profile : Profile) (p : LoginParameters) (credentials : String × Secret) : Prop where
  unsupplied : p.authRecord = none
  name : p.givenName? = some credentials.1
  password : p.givenPassword? = some credentials.2
  accepts : profile.authenticator.capabilities.acceptsPassword = true

/-- What a refusal leaves in the audit trail. -/
def refusalEntry (x : Authentication) : List Exchange :=
  match x.response.result.auditEvent? with
  | some event => if event = .loginFailed then [] else [⟨.audit x.mappedUser event, ()⟩]
  | none => []

/-- How an attempt gets to know who logs in. -/
inductive Proves (profile : Profile) (p : LoginParameters) (a : Progress) :
    List Exchange → Except Exit Evidence → Progress → Prop
  | supplied {record} (hp : p.authRecord = some record) :
      Proves profile p a [] (.ok { record, loginName := none, reason := suppliedReason p.authType }) a
  | noName (hp : p.authRecord = none) (hn : p.givenName? = none) :
      Proves profile p a [] (.error (.failed .missingLoginName)) (a.telling [told .failedToAuthenticate])
  | noPassword {name} (hp : p.authRecord = none) (hn : p.givenName? = some name)
      (hw : p.givenPassword? = none) :
      Proves profile p a [] (.error (.failed .missingPassword)) (a.telling [])
  | unsupported {name password} (hp : p.authRecord = none) (hn : p.givenName? = some name)
      (hw : p.givenPassword? = some password)
      (hc : profile.authenticator.capabilities.acceptsPassword = false) :
      Proves profile p a [] (.error (.failed .unsupportedAuthMethod)) (a.telling [told .failedToAuthenticate])
  | unchosen {submitted t e} (hs : Submits profile p submitted) (hc : Chooses p submitted t (.error e)) :
      Proves profile p a t (.error (exitAt .credentialsSubmitted e)) a
  | unasked {submitted credentials t u e} (hs : Submits profile p submitted)
      (hc : Chooses p submitted t (.ok credentials)) (ha : Asks profile credentials u (.error e)) :
      Proves profile p a (t ++ u) (.error (exitAt .authenticated e)) a
  | refused {submitted credentials t u x} (hs : Submits profile p submitted)
      (hc : Chooses p submitted t (.ok credentials)) (ha : Asks profile credentials u (.ok x))
      (hx : x.response.result.isSuccess = false) :
      Proves profile p a (t ++ (u ++ refusalEntry x)) (.error (.failed x.response.refusal.1))
        ((a.naming x.response.principal profile).telling x.response.refusal.2)
  | recordless {submitted credentials t u x} (hs : Submits profile p submitted)
      (hc : Chooses p submitted t (.ok credentials)) (ha : Asks profile credentials u (.ok x))
      (hx : x.response.result.isSuccess = true) (hr : x.response.authRecord = none) :
      Proves profile p a (t ++ u) (.error (.failed (.unavailable .authenticated)))
        (a.naming x.response.principal profile)
  | proven {submitted credentials t u x record} (hs : Submits profile p submitted)
      (hc : Chooses p submitted t (.ok credentials)) (ha : Asks profile credentials u (.ok x))
      (hx : x.response.result.isSuccess = true) (hr : x.response.authRecord = some record) :
      Proves profile p a (t ++ u)
        (.ok { record, loginName := some credentials.1, reason := .credentialsLogin })
        (a.naming x.response.principal profile)

theorem goes_identify_bind {principal : Option String} {profile : Profile} {f : Unit → Attempt α} {a c : Progress}
    {tr : List Exchange} {r : Except Exit α} :
    Goes (match principal with
      | some principal => do
        let y ← identify principal profile.name
        f y
      | _ => f ()) a tr r c ↔ Goes (f ()) (a.naming principal profile) tr r c := by
  cases principal <;> rfl

theorem goes_refuse_bind {f : LoginFailure} {ms : List UserMessage} {g : α → Attempt β} {a c : Progress}
    {tr : List Exchange} {r : Except Exit β} :
    Goes (refuse f ms >>= g) a tr r c ↔ tr = [] ∧ r = .error (.failed f) ∧ c = a.telling ms := goes_refuse

theorem refuseCredentials_of_goes {x : Authentication} {a b : Progress} {tr : List Exchange}
    {g : α → Attempt β} {r : Except Exit β} (h : Goes (refuseCredentials x >>= g) a tr r b) :
    tr = refusalEntry x ∧ r = .error (.failed x.response.refusal.1) ∧ b = a.telling x.response.refusal.2 := by
  unfold refusalEntry
  unfold refuseCredentials at h
  split
  · next event he =>
    rw [he] at h
    split
    · next hf =>
      rw [hf] at h
      exact goes_refuse.1 h
    · next hf =>
      simp only [if_pos hf] at h
      rcases h with _ | ⟨reply, h⟩
      cases h
      exact ⟨rfl, rfl, rfl⟩
  · next he =>
    rw [he] at h
    exact goes_refuse.1 h

theorem proves_of_goes {profile : Profile} {p : LoginParameters} {a b : Progress} {tr : List Exchange}
    {r : Except Exit Evidence} (h : Goes (obtainEvidence profile p) a tr r b) : Proves profile p a tr r b := by
  unfold obtainEvidence at h
  split at h
  · next record hp =>
    obtain ⟨rfl, rfl, rfl⟩ := goes_pure.1 h
    exact .supplied hp
  next hp =>
  unfold checkCredentials at h
  split at h
  case h_2 hn =>
    obtain ⟨rfl, rfl, rfl⟩ := goes_refuse.1 h
    exact .noName hp (Option.eq_none_iff_forall_ne_some.2 hn)
  next name hn =>
  split at h
  case h_2 hw =>
    obtain ⟨rfl, rfl, rfl⟩ := goes_refuse.1 h
    exact .noPassword hp hn (Option.eq_none_iff_forall_ne_some.2 hw)
  next password hw =>
  split at h
  · next hc =>
    obtain ⟨rfl, rfl, rfl⟩ := goes_refuse_bind.1 h
    exact .unsupported hp hn hw (by simpa using hc)
  next hc =>
  have hs : Submits profile p (name, password) := ⟨hp, hn, hw, by simpa using hc⟩
  rcases goes_step.1 h with ⟨e, ht, rfl, rfl⟩ | ⟨⟨user, sent⟩, t, u, rfl, ht, h⟩
  · exact .unchosen hs (chooses_of_yields ht)
  have hchoose := chooses_of_yields ht
  rcases goes_step.1 h with ⟨e, hu, rfl, rfl⟩ | ⟨x, u, w, rfl, hu, h⟩
  · exact .unasked hs hchoose (asks_of_yields hu)
  have hask := asks_of_yields hu
  replace h := goes_identify_bind.1 h
  cases hx : x.response.result.isSuccess with
  | false =>
    simp only [hx, Bool.not_false, if_true] at h
    obtain ⟨rfl, rfl, rfl⟩ := refuseCredentials_of_goes h
    exact .refused hs hchoose hask hx
  | true =>
    simp only [hx, Bool.not_true, Bool.false_eq_true, if_false] at h
    cases hr : x.response.authRecord with
    | none =>
      rw [hr] at h
      cases h
      rw [List.append_nil]
      exact .recordless hs hchoose hask hx hr
    | some record =>
      rw [hr] at h
      cases h
      rw [List.append_nil]
      exact .proven hs hchoose hask hx hr

/-! ## From the record to the user -/

/-- How the record for the authorizer is found. -/
inductive Maps (profile : Profile) (record : AuthRecord) : List Exchange → Except Fault AuthRecord → Prop
  | same (hm : profile.mapper = none) : Maps profile record [] (.ok record)
  | failed {m e} (hm : profile.mapper = some m) :
      Maps profile record [⟨.mapAuthRecord m { authRecord := record }, .error e⟩] (.error e)
  | mapped {m answer} (hm : profile.mapper = some m) :
      Maps profile record [⟨.mapAuthRecord m { authRecord := record }, .ok answer⟩]
        (.ok (Wire.MappingResponse.authRecordOr answer record))

theorem maps_of_yields {profile : Profile} {record : AuthRecord} {tr : List Exchange}
    {r : Except Fault AuthRecord} (h : (profile.mapAuthRecord record).run.Yields tr r) :
    Maps profile record tr r := by
  unfold Profile.mapAuthRecord at h
  split at h
  · next hm =>
    cases h
    exact .same hm
  · next m hm =>
    rcases h with _ | ⟨answer, h⟩
    rcases answer with e | answer
    · cases h
      exact .failed hm
    · cases h
      exact .mapped hm

/-- The report that an authorizer does not know a principal. -/
def unknownReport (profile : Profile) (record : AuthRecord) (loginName : Option String) : Report where
  reason := .principalNotFound
  authorizer := profile.authorizer.name
  loginName := loginName
  authRecord := record
  principalRecord := none
  message := "Principal record was not found. User name is " ++ loginName.getD ""

/-- How a principal is looked up. -/
inductive Finds (profile : Profile) (record : AuthRecord) (loginName : Option String) (a : Progress) :
    List Exchange → Except Exit PrincipalRecord → Progress → Prop
  | failed {e} :
      Finds profile record loginName a
        [⟨.fetchPrincipal profile.authorizer { authRecord := record }, .error e⟩]
        (.error (exitAt .principalResolved e)) a
  | unknown :
      Finds profile record loginName a
        [⟨.fetchPrincipal profile.authorizer { authRecord := record }, .ok { principalRecord := none }⟩,
          ⟨.report (unknownReport profile record loginName), ()⟩]
        (.error (.failed .principalNotFound)) (a.telling [told .userMustExistInDirectory])
  | found {principal} :
      Finds profile record loginName a
        [⟨.fetchPrincipal profile.authorizer { authRecord := record }, .ok { principalRecord := some principal }⟩]
        (.ok principal) a

theorem finds_of_goes {profile : Profile} {record : AuthRecord} {loginName : Option String} {a b : Progress}
    {tr : List Exchange} {r : Except Exit PrincipalRecord}
    (h : Goes (findPrincipal profile record loginName) a tr r b) :
    Finds profile record loginName a tr r b := by
  rcases h with _ | ⟨answer, h⟩
  rcases answer with e | ⟨_ | principal⟩
  · cases h
    exact .failed
  · rcases h with _ | ⟨reply, h⟩
    cases h
    exact .unknown
  · cases h
    exact .found

/-- How a principal becomes a user of the directory. -/
inductive Syncs (profile : Profile) (principal : PrincipalRecord) :
    List Exchange → Except Fault LocalUser → Prop
  | unkeyed {id e} (hu : LocalUser.ofPrincipal id profile.authorizer.name principal = .error e) :
      Syncs profile principal [⟨.newId, id⟩] (.error e)
  | failed {id user e} (hu : LocalUser.ofPrincipal id profile.authorizer.name principal = .ok user) :
      Syncs profile principal [⟨.newId, id⟩, ⟨.saveUser user, .error e⟩] (.error e)
  | saved {id user row} (hu : LocalUser.ofPrincipal id profile.authorizer.name principal = .ok user) :
      Syncs profile principal [⟨.newId, id⟩, ⟨.saveUser user, .ok row⟩] (.ok row)

theorem syncs_of_yields {profile : Profile} {principal : PrincipalRecord} {tr : List Exchange}
    {r : Except Fault LocalUser} (h : (syncUser profile principal).run.Yields tr r) :
    Syncs profile principal tr r := by
  rcases h with _ | ⟨id, h⟩
  replace h : Dialogue.Yields (do
      let user ← ExceptT.mk (pure (LocalUser.ofPrincipal id profile.authorizer.name principal))
      ExceptT.mk (Dialogue.request (.saveUser user)) : Talk LocalUser).run _ r := h
  cases hu : LocalUser.ofPrincipal id profile.authorizer.name principal with
  | error e =>
    rw [hu] at h
    cases h
    exact .unkeyed hu
  | ok user =>
    rw [hu] at h
    rcases h with _ | ⟨row, h⟩
    rcases row with e | row
    · cases h
      exact .failed hu
    · cases h
      exact .saved hu

/-! ## Permission -/

/-- The report that a user may not log in. -/
def deniedReport (profile : Profile) (record : AuthRecord) (principal : PrincipalRecord) (user : LocalUser) :
    Report where
  reason := .loginNoPermission
  authorizer := profile.authorizer.name
  loginName := some user.loginName
  authRecord := record
  principalRecord := some principal
  message := "The user " ++ user.loginName ++ " is not authorized to perform login"

/-- How it is found out whether a user may log in, and whether the user administers. -/
inductive Permits (profile : Profile) (record : AuthRecord) (principal : PrincipalRecord) (user : LocalUser)
    (a : Progress) : List Exchange → Except Exit LocalUser → Progress → Prop
  | failed {e} :
      Permits profile record principal user a [⟨.checkPermission (.login user), .error e⟩]
        (.error (exitAt .authorized e)) a
  | denied :
      Permits profile record principal user a
        [⟨.checkPermission (.login user), .ok false⟩,
          ⟨.report (deniedReport profile record principal user), ()⟩]
        (.error (.failed .authorizationDenied)) (a.telling [told .notAuthorizedToPerformAction])
  | adminFailed {e} :
      Permits profile record principal user a
        [⟨.checkPermission (.login user), .ok true⟩, ⟨.checkAdmin user, .error e⟩]
        (.error (exitAt .authorized e)) a
  | permitted {admin} :
      Permits profile record principal user a
        [⟨.checkPermission (.login user), .ok true⟩, ⟨.checkAdmin user, .ok admin⟩]
        (.ok { user with admin }) a

theorem permits_of_goes {profile : Profile} {record : AuthRecord} {principal : PrincipalRecord}
    {user : LocalUser} {a b : Progress} {tr : List Exchange} {r : Except Exit LocalUser}
    (h : Goes (permit profile record principal user) a tr r b) :
    Permits profile record principal user a tr r b := by
  rcases h with _ | ⟨permitted, h⟩
  rcases permitted with e | _ | _
  · cases h
    exact .failed
  · rcases h with _ | ⟨reply, h⟩
    cases h
    exact .denied
  · rcases h with _ | ⟨admin, h⟩
    rcases admin with e | admin
    · cases h
      exact .adminFailed
    · cases h
      exact .permitted

/-! ## The session -/

/-- What is written into a session that starts at a time. -/
def Grant.edits (g : Grant) (s : SessionSettings) (now : Instant) : List Session.Edit :=
  [.user g.user, .seen, .profile g.profile, .authRecord g.authRecord, .principalRecord g.principalRecord]
    ++ ((g.password.filter fun _ => s.retainPassword).map .password).toList
    ++ [.hardLimit (Session.hardLimitFrom now s.hardLimitMinutes g.authRecord)]

/-- How a list of edits is written: one after the other, up to the first that fails. -/
inductive Writes (token : String) : List Session.Edit → List Exchange → Except Fault Unit → Prop
  | done : Writes token [] [] (.ok ())
  | failed {e es f} : Writes token (e :: es) [⟨.sessions (.write token e), .error f⟩] (.error f)
  | wrote {e es tr r} (h : Writes token es tr r) :
      Writes token (e :: es) (⟨.sessions (.write token e), .ok ()⟩ :: tr) r

theorem attach_eq (s : SessionSettings) (token : String) (g : Grant) :
    attach s token g = (do
      let now : Instant ← ExceptT.lift (Dialogue.request .now)
      (g.edits s now).forM (writeSession token)) := by
  unfold attach Grant.edits
  cases g.password.filter fun _ => s.retainPassword <;> simp

theorem writes_of_yields {token : String} {es : List Session.Edit} {tr : List Exchange}
    {r : Except Fault Unit} (h : (es.forM (writeSession token)).run.Yields tr r) : Writes token es tr r := by
  induction es generalizing tr with
  | nil =>
    cases h
    exact .done
  | cons e es ih =>
    rcases h with _ | ⟨reply, h⟩
    rcases reply with f | ⟨⟩
    · cases h
      exact .failed
    · exact .wrote (ih h)

/-- How a session is issued. What was written is removed if the session could not be written as a whole. -/
inductive Issues (s : SessionSettings) (g : Grant) : List Exchange → Except Fault String → Prop
  | noToken {e} : Issues s g [⟨.newToken, .error e⟩] (.error e)
  | unwritten {token now tr e removed} (hw : Writes token (g.edits s now) tr (.error e)) :
      Issues s g (⟨.newToken, .ok token⟩ :: ⟨.now, now⟩ :: (tr ++ [⟨.sessions (.remove token), removed⟩]))
        (.error e)
  | issued {token now tr} (hw : Writes token (g.edits s now) tr (.ok ())) :
      Issues s g (⟨.newToken, .ok token⟩ :: ⟨.now, now⟩ :: tr) (.ok token)

theorem issues_of_yields {s : SessionSettings} {g : Grant} {tr : List Exchange} {r : Except Fault String}
    (h : (issue s g).run.Yields tr r) : Issues s g tr r := by
  rcases talk_bind.1 h with ⟨e, hn, rfl⟩ | ⟨token, t, u, rfl, hn, hi⟩
  · cases Dialogue.yields_request.1 hn
    exact .noToken
  cases Dialogue.yields_request.1 hn
  rcases talk_bind.1 hi with ⟨e, hl, rfl⟩ | ⟨written, t, u, rfl, hl, hm⟩
  · obtain ⟨_, _, hl⟩ := talk_lift.1 hl
    cases hl
  obtain ⟨_, hw, hl⟩ := talk_lift.1 hl
  cases hl
  rw [attach_eq] at hw
  rcases hw with _ | ⟨now, hw⟩
  replace hw := writes_of_yields hw
  rcases written with e | ⟨⟩
  · rcases hm with _ | ⟨removed, hm⟩
    cases hm
    exact .unwritten hw
  · cases hm
    rw [List.append_nil]
    exact .issued hw

/-! ## The whole attempt -/

/-- What an attempt has found out once its user may log in. -/
structure Findings where
  profile : Profile
  evidence : Evidence
  /-- The record that the authorizer sees. -/
  record : AuthRecord
  principal : PrincipalRecord
  /-- The user as the directory has it. -/
  row : LocalUser
  /-- The user with its administrator flag as evaluated now. -/
  user : LocalUser

/-- The report that a user logged in. -/
def Findings.report (x : Findings) : Report where
  reason := x.evidence.reason
  authorizer := x.profile.authorizer.name
  loginName := some x.user.loginName
  authRecord := x.record
  principalRecord := some x.principal
  message := "User " ++ x.user.loginName ++ " which has principal name " ++ x.principal.name?.getD ""
    ++ " logged in"

/-- What the session of the attempt is to hold. -/
def Findings.grant (x : Findings) (p : LoginParameters) : Grant where
  profile := x.profile.name
  user := x.user
  authRecord := x.record
  principalRecord := x.principal
  password := p.givenPassword?

/-- How an attempt gets as far as the principal. -/
inductive Locates (s : Setup) (p : LoginParameters) (a : Progress) (profile : Profile) (evidence : Evidence)
    (record : AuthRecord) (principal : PrincipalRecord) : List Exchange → Progress → Prop
  | intro {t u w b c} (hp : s.profiles.find? p.profileName = some profile)
      (hv : Proves profile p a t (.ok evidence) b) (hm : Maps profile evidence.record u (.ok record))
      (hf : Finds profile record evidence.loginName (b.naming evidence.record.principal? profile) w
        (.ok principal) c) :
      Locates s p a profile evidence record principal (t ++ (u ++ w)) c

/-- How an attempt gets as far as a user who may log in. -/
inductive Admits (s : Setup) (p : LoginParameters) (a : Progress) (x : Findings) :
    List Exchange → Progress → Prop
  | intro {t u w b c} (hl : Locates s p a x.profile x.evidence x.record x.principal t b)
      (hs : Syncs x.profile x.principal u (.ok x.row))
      (hp : Permits x.profile x.record x.principal x.row b w (.ok x.user) c) :
      Admits s p a x (t ++ (u ++ w)) c

/-- How an attempt goes on to a session, or ends before. -/
inductive Executes (s : Setup) (p : LoginParameters) (a : Progress) :
    List Exchange → Except Exit (String × LocalUser) → Progress → Prop
  | noProfile (hp : s.profiles.find? p.profileName = none) :
      Executes s p a [] (.error (.failed .profileNotFound)) (a.telling [told .failedToAuthenticate])
  | unproven {profile t x b} (hp : s.profiles.find? p.profileName = some profile)
      (hv : Proves profile p a t (.error x) b) : Executes s p a t (.error x) b
  | unmapped {profile evidence t u e b} (hp : s.profiles.find? p.profileName = some profile)
      (hv : Proves profile p a t (.ok evidence) b) (hm : Maps profile evidence.record u (.error e)) :
      Executes s p a (t ++ u) (.error (exitAt .mapped e)) (b.naming evidence.record.principal? profile)
  | unfound {profile evidence record t u w x b c} (hp : s.profiles.find? p.profileName = some profile)
      (hv : Proves profile p a t (.ok evidence) b) (hm : Maps profile evidence.record u (.ok record))
      (hf : Finds profile record evidence.loginName (b.naming evidence.record.principal? profile) w
        (.error x) c) :
      Executes s p a (t ++ (u ++ w)) (.error x) c
  | unsynced {profile evidence record principal t u e b}
      (hl : Locates s p a profile evidence record principal t b)
      (hs : Syncs profile principal u (.error e)) :
      Executes s p a (t ++ u) (.error (exitAt .directorySynced e)) b
  | unpermitted {profile evidence record principal row t u w x b c}
      (hl : Locates s p a profile evidence record principal t b)
      (hs : Syncs profile principal u (.ok row)) (hp : Permits profile record principal row b w (.error x) c) :
      Executes s p a (t ++ (u ++ w)) (.error x) c
  | unissued {x t u e b} (ha : Admits s p a x t b) (hi : Issues s.session (x.grant p) u (.error e)) :
      Executes s p a (t ++ (⟨.report x.report, ()⟩ :: u)) (.error (exitAt .sessionIssued e)) b
  | granted {x t u token b} (ha : Admits s p a x t b) (hi : Issues s.session (x.grant p) u (.ok token)) :
      Executes s p a (t ++ (⟨.report x.report, ()⟩ :: u)) (.ok (token, x.user)) b

theorem executes_of_goes {s : Setup} {p : LoginParameters} {a b : Progress} {tr : List Exchange}
    {r : Except Exit (String × LocalUser)} (h : Goes (execute s p) a tr r b) : Executes s p a tr r b := by
  unfold execute at h
  split at h
  case h_2 hp =>
    obtain ⟨rfl, rfl, rfl⟩ := goes_refuse.1 h
    exact .noProfile (Option.eq_none_iff_forall_ne_some.2 hp)
  next profile hp =>
  rcases goes_bind.1 h with ⟨x, hv, rfl⟩ | ⟨evidence, b, t, u, rfl, hv, h⟩
  · exact .unproven hp (proves_of_goes hv)
  replace hv := proves_of_goes hv
  replace h := goes_identify_bind.1 h
  rcases goes_step.1 h with ⟨e, hm, rfl, rfl⟩ | ⟨record, u, w, rfl, hm, h⟩
  · exact .unmapped hp hv (maps_of_yields hm)
  replace hm := maps_of_yields hm
  rcases goes_bind.1 h with ⟨x, hf, rfl⟩ | ⟨principal, c, w, z, rfl, hf, h⟩
  · exact .unfound hp hv hm (finds_of_goes hf)
  have hl := Locates.intro hp hv hm (finds_of_goes hf)
  rw [show t ++ (u ++ (w ++ z)) = t ++ (u ++ w) ++ z by simp]
  generalize t ++ (u ++ w) = t at hl
  rcases goes_step.1 h with ⟨e, hs, rfl, rfl⟩ | ⟨row, u, w, rfl, hs, h⟩
  · exact .unsynced hl (syncs_of_yields hs)
  replace hs := syncs_of_yields hs
  rcases goes_bind.1 h with ⟨x, hq, rfl⟩ | ⟨user, d, w, z, rfl, hq, h⟩
  · exact .unpermitted hl hs (permits_of_goes hq)
  let x : Findings := { profile, evidence, record, principal, row, user }
  have ha : Admits s p a x _ d := .intro hl hs (permits_of_goes hq)
  rw [show t ++ (u ++ (w ++ z)) = t ++ (u ++ w) ++ z by simp]
  generalize t ++ (u ++ w) = t at ha
  obtain ⟨_, z, rfl, hg⟩ := goes_ask.1 h
  rcases goes_step.1 hg with ⟨e, hi, rfl, rfl⟩ | ⟨token, w, z, rfl, hi, hr⟩
  · exact .unissued ha (issues_of_yields hi)
  obtain ⟨rfl, rfl, rfl⟩ := goes_pure.1 hr
  rw [List.append_nil]
  exact .granted ha (issues_of_yields hi)

/-- How far an attempt is when it starts. -/
def Progress.start (p : LoginParameters) : Progress where
  displayName := LoginParameters.displayName p.claimant p.profileName

/-- What a session leaves to the background, if there is somebody to do it. -/
inductive Books (s : Setup) (user : LocalUser) : List Exchange → Prop
  | skipped (hb : s.bookkeeping = false) : Books s user []
  | submitted {time accepted} (hb : s.bookkeeping = true) :
      Books s user [⟨.now, time⟩, ⟨.submit { userId := user.id, admin := user.admin, time }, accepted⟩]

theorem books_of_yields {s : Setup} {user : LocalUser} {tr : List Exchange} {r : Unit}
    (h : (submitBookkeeping s user).Yields tr r) : Books s user tr := by
  unfold submitBookkeeping at h
  split at h
  · next hb =>
    rcases h with _ | ⟨time, h⟩
    rcases h with _ | ⟨accepted, h⟩
    cases h
    exact .submitted hb
  · next hb =>
    cases h
    exact .skipped (by simpa using hb)

/-- The course of a login attempt: what is asked and replied, and what the attempt answers. -/
inductive Course (s : Setup) (p : LoginParameters) : List Exchange → Except Fault LoginResult → Prop
  | granted {t u token user b} (he : Executes s p (.start p) t (.ok (token, user)) b) (hb : Books s user u) :
      Course s p (t ++ (⟨.audit b.displayName .login, ()⟩ :: u)) (.ok (.granted token user))
  | refused {t f b} (he : Executes s p (.start p) t (.error (.failed f)) b) :
      Course s p (t ++ [⟨.audit b.displayName .loginFailed, ()⟩])
        (.ok (.refused f (finalMessages f b.messages)))
  | aborted {t e b} (he : Executes s p (.start p) t (.error (.fatal e)) b) : Course s p t (.error e)

/-- A login attempt takes no other course. -/
theorem course_of_yields {s : Setup} {p : LoginParameters} {tr : List Exchange}
    {r : Except Fault LoginResult} (h : (login s p).Yields tr r) : Course s p tr r := by
  obtain ⟨⟨outcome, b⟩, t, u, rfl, he, h⟩ := Dialogue.yields_bind.1 h
  replace he : Executes s p (.start p) t outcome b := executes_of_goes he
  rcases outcome with (f | e) | ⟨token, user⟩
  · rcases h with _ | ⟨_, h⟩
    cases h
    exact .refused he
  · cases h
    rw [List.append_nil]
    exact .aborted he
  · rcases h with _ | ⟨_, h⟩
    replace h : Dialogue.Yields (submitBookkeeping s user >>= fun _ => pure (.ok (.granted token user))) _ r := h
    obtain ⟨_, u, w, rfl, hb, hd⟩ := Dialogue.yields_bind.1 h
    cases hd
    rw [List.append_nil]
    exact .granted he (books_of_yields hb)

end Gatehouse.Login
