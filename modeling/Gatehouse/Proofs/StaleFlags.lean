import Gatehouse.Proofs.Coupling
import Gatehouse.Proofs.Replies
import Gatehouse.Proofs.Retention
/-!
# Flags that were stored before

The directory hands back the administrator flag that it stored when a user logged in before, and the time at
which it was evaluated. Main statement: whatever these were, a login decides the same, and the user that it
answers with and that of the session administer exactly if the permissions say so of what the authorizer said
in this login.
-/

namespace Gatehouse

/-! ## Without what was evaluated -/

namespace LocalUser

/-- A user without the time at which its administrator flag was evaluated. -/
def undated (u : LocalUser) : LocalUser := { u with lastAdminCheck := none }

/-- A user without its administrator flag and the time at which it was evaluated. -/
def unflagged (u : LocalUser) : LocalUser := { u with admin := false, lastAdminCheck := none }

theorem exists_of_undated_eq {u v : LocalUser} (h : u.undated = v.undated) :
    ∃ date, v = { u with lastAdminCheck := date } := by
  cases u
  cases v
  simp_all [undated]

theorem exists_of_unflagged_eq {u v : LocalUser} (h : u.unflagged = v.unflagged) :
    ∃ admin date, v = { u with admin, lastAdminCheck := date } := by
  cases u
  cases v
  simp_all [unflagged]

end LocalUser

/-- The directory without what was evaluated of its users. -/
def UserDirectory.unflagged (d : UserDirectory) : UserDirectory := ⟨d.rows.mapValues LocalUser.unflagged⟩

/-- A result without the time at which the administrator flag of its user was evaluated. -/
def LoginResult.undated (v : LoginResult) : LoginResult := { v with user := v.user.map LocalUser.undated }

def Session.undated (x : Session) : Session := { x with user := x.user.map LocalUser.undated }

def Session.Edit.undated : Session.Edit → Session.Edit
  | .user u => .user u.undated
  | e => e

theorem Session.undated_edit (x : Session) (now : Instant) (e : Edit) :
    (x.edit now e).undated = x.undated.edit now e.undated := by
  cases e <;> rfl

namespace SessionStore

/-- The store without the times at which the users of its sessions were evaluated. -/
def undated (s : SessionStore) : SessionStore := ⟨s.sessions.mapValues Session.undated⟩

section
variable (s : SessionStore) (token : String)

theorem find?_undated : s.undated.find? token = (s.find? token).map Session.undated := Table.find?_mapValues ..

theorem user?_undated : s.undated.user? token = (s.user? token).map LocalUser.undated := by
  unfold user?
  rw [find?_undated]
  cases s.find? token <;> rfl

theorem password?_undated : s.undated.password? token = s.password? token := by
  unfold password?
  rw [find?_undated]
  cases s.find? token <;> rfl

theorem write_undated (now : Instant) (e : Session.Edit) :
    (s.write now token e).undated = s.undated.write now token e.undated := by
  have hx : ((s.find? token).getD (.new now)).undated = (s.undated.find? token).getD (.new now) := by
    rw [find?_undated]
    cases s.find? token <;> rfl
  unfold write undated
  rw [Table.mapValues_insert, Session.undated_edit, hx]
  rfl

theorem remove_undated : (s.remove token).undated = s.undated.remove token :=
  congrArg SessionStore.mk (Table.mapValues_erase ..)

end

end SessionStore

namespace UserDirectory

variable {d d' : UserDirectory} (h : d.unflagged = d'.unflagged) (u : LocalUser)
include h

theorem unflagged_merged : (d.merged u).unflagged = (d'.merged u).unflagged := by
  have hrow : (d.rows.find? u.key).map LocalUser.unflagged = (d'.rows.find? u.key).map LocalUser.unflagged := by
    rw [← Table.find?_mapValues, ← Table.find?_mapValues]
    exact congrArg (fun d => d.rows.find? u.key) h
  unfold merged
  cases hx : d.rows.find? u.key <;> cases hy : d'.rows.find? u.key
  · rfl
  · rw [hx, hy] at hrow
    cases hrow
  · rw [hx, hy] at hrow
    cases hrow
  · rw [hx, hy] at hrow
    obtain ⟨_, _, rfl⟩ := LocalUser.exists_of_unflagged_eq (Option.some.inj hrow)
    rfl

theorem unflagged_save : (d.save u).2.unflagged = (d'.save u).2.unflagged := by
  have hrows : d.rows.mapValues LocalUser.unflagged = d'.rows.mapValues LocalUser.unflagged := congrArg rows h
  unfold save unflagged
  rw [Table.mapValues_insert, Table.mapValues_insert, hrows, unflagged_merged h]

end UserDirectory

namespace Login

/-! ## States apart in flags -/

variable {ρ : Type}

/-- Two states of the collaborators differ in what was evaluated of the users in the directory, and in when this
was for the users of sessions. -/
structure Services.FlagsApart (s s' : Services ρ) : Prop where
  users : s.users.unflagged = s'.users.unflagged
  sessions : s.sessions.undated = s'.sessions.undated
  rest : s' = { s with users := s'.users, sessions := s'.sessions }

theorem Services.FlagsApart.eq_with {s s' : Services ρ} (h : s.FlagsApart s') :
    ∃ (d : UserDirectory) (store : SessionStore), s.users.unflagged = d.unflagged ∧
      s.sessions.undated = store.undated ∧ s' = { s with users := d, sessions := store } :=
  ⟨_, _, h.users, h.sessions, h.rest⟩

/-- Requests that are not replied to with what was evaluated. -/
def Request.isFlagless : Request → Bool
  | .sessions (.password? _) | .sessions (.write ..) | .sessions (.remove _) => true
  | .sessions _ | .saveUser _ => false
  | _ => true

section
variable (invoke : Remote → Record → StateM ρ (Except Fault Record))

/-- Coupled by what the program replies, from states that differ in flags. -/
abbrev FlagsCouple {α β : Type} (P : α → β → Prop) (x : Dialogue α) (y : Dialogue β) : Prop :=
  Couples (Services.reply invoke) Services.FlagsApart P x y

theorem evenly_reply {r : Request} (hr : r.isFlagless = true) :
    Evenly (Services.reply invoke) Services.FlagsApart r := by
  intro s s' hs
  obtain ⟨d, store, hd, hstore, rfl⟩ := hs.eq_with
  cases r with
  | sessions op =>
    cases op with
    | write token e =>
      refine ⟨rfl, hd, ?_, rfl⟩
      show (s.sessions.write _ token e).undated = (store.write _ token e).undated
      rw [SessionStore.write_undated, hstore, SessionStore.write_undated]
    | password? token =>
      refine ⟨?_, hd, hstore, rfl⟩
      show Except.ok (s.sessions.password? token) = Except.ok (store.password? token)
      rw [← SessionStore.password?_undated, hstore, SessionStore.password?_undated]
    | remove token =>
      have hsome : (s.sessions.find? token).isSome = (store.find? token).isSome := by
        rw [← Option.isSome_map (f := Session.undated), ← SessionStore.find?_undated, hstore,
          SessionStore.find?_undated, Option.isSome_map]
      refine ⟨congrArg Except.ok hsome, hd, ?_, rfl⟩
      show (s.sessions.remove token).undated = (store.remove token).undated
      rw [SessionStore.remove_undated, hstore, SessionStore.remove_undated]
    | _ => cases hr
  | saveUser => cases hr
  | authenticate a q | fetchPrincipal a q => cases a <;> exact ⟨rfl, hd, hstore, rfl⟩
  | mapUser m q | mapAuthRecord m q => cases m <;> exact ⟨rfl, hd, hstore, rfl⟩
  | submit c =>
    rcases s with ⟨_, _, _, _, _, _ | runner, _⟩
    · exact ⟨rfl, hd, hstore, rfl⟩
    · exact ⟨rfl, hd, hstore, rfl⟩
  | _ => exact ⟨rfl, hd, hstore, rfl⟩

theorem couples_user? (token : String) :
    FlagsCouple invoke (Outcomes fun u u' : Option LocalUser => u.map LocalUser.undated = u'.map LocalUser.undated)
      (Dialogue.request (.sessions (.user? token))) (Dialogue.request (.sessions (.user? token))) := by
  intro s s' hs
  obtain ⟨d, store, hd, hstore, rfl⟩ := hs.eq_with
  refine ⟨.ok ?_, hd, hstore, rfl⟩
  show (s.sessions.user? token).map LocalUser.undated = (store.user? token).map LocalUser.undated
  rw [← SessionStore.user?_undated, hstore, SessionStore.user?_undated]

theorem couples_saveUser (u : LocalUser) :
    FlagsCouple invoke (Outcomes fun row row' => row.unflagged = row'.unflagged)
      (Dialogue.request (.saveUser u)) (Dialogue.request (.saveUser u)) := by
  intro s s' hs
  obtain ⟨d, store, hd, hstore, rfl⟩ := hs.eq_with
  exact ⟨.ok (UserDirectory.unflagged_merged hd u), UserDirectory.unflagged_save hd u, hstore, rfl⟩

/-- Whether a user administers does not depend on what was evaluated before. -/
theorem couples_checkAdmin {u u' : LocalUser} (hu : u.unflagged = u'.unflagged) :
    FlagsCouple invoke (Outcomes Eq) (Dialogue.request (.checkAdmin u)) (Dialogue.request (.checkAdmin u')) := by
  intro s s' hs
  obtain ⟨_, _, rfl⟩ := LocalUser.exists_of_unflagged_eq hu
  obtain ⟨d, store, hd, hstore, rfl⟩ := hs.eq_with
  exact ⟨.ok rfl, hd, hstore, rfl⟩

theorem couples_writeUser (token : String) {u u' : LocalUser} (hu : u.undated = u'.undated) :
    FlagsCouple invoke (Outcomes Eq) (Dialogue.request (.sessions (.write token (.user u))))
      (Dialogue.request (.sessions (.write token (.user u')))) := by
  intro s s' hs
  obtain ⟨d, store, hd, hstore, rfl⟩ := hs.eq_with
  refine ⟨.ok rfl, hd, ?_, rfl⟩
  show (s.sessions.write _ token (.user u)).undated = (store.write _ token (.user u')).undated
  rw [SessionStore.write_undated, SessionStore.write_undated, hstore]
  simp only [Session.Edit.undated, hu]

/-! ## Credentials -/

abbrev FlagsTalks {α β : Type} (P : α → β → Prop) (x : Talk α) (y : Talk β) : Prop :=
  TalksCouple (Services.reply invoke) Services.FlagsApart P x y

abbrev FlagsAttempts {α β : Type} (P : α → β → Prop) (x : Attempt α) (y : Attempt β) : Prop :=
  AttemptsCouple (Services.reply invoke) Services.FlagsApart P x y

/-- Of the user of a session, only the name is made use of. -/
theorem remembered?_couples (token : String) : FlagsTalks invoke Eq (remembered? token) (remembered? token) := by
  refine TalksCouple.bind (couples_user? invoke token) fun user user' hu => ?_
  have hpassword : Evenly (Services.reply invoke) Services.FlagsApart (.sessions (.password? token)) :=
    evenly_reply invoke rfl
  refine TalksCouple.bind_eq (talksCouple_of_couples hpassword) fun w => ?_
  rcases user with _ | user <;> rcases user' with _ | user'
  · exact talksCouple_pure rfl
  · cases hu
  · cases hu
  · obtain ⟨_, rfl⟩ := LocalUser.exists_of_undated_eq (Option.some.inj hu)
    cases w <;> exact talksCouple_pure rfl

theorem chooseCredentials_couples (p : LoginParameters) (name : String) (password : Secret) :
    FlagsTalks invoke Eq (chooseCredentials p name password) (chooseCredentials p name password) := by
  unfold chooseCredentials
  split
  · exact (remembered?_couples invoke _).bind_eq fun _ => talksCouple_pure rfl
  · exact talksCouple_pure rfl

end

section
variable {profile : Profile} {tr : List Exchange}

theorem Names.isFlagless {name : String} {r : Except Fault String} (h : Names profile name tr r) :
    ∀ e ∈ tr, e.request.isFlagless = true := by
  cases h <;> simp [Request.isFlagless]

theorem Asks.isFlagless {credentials : String × Secret} {r : Except Fault Authentication}
    (h : Asks profile credentials tr r) : ∀ e ∈ tr, e.request.isFlagless = true := by
  cases h with
  | unnamed hn => exact hn.isFlagless
  | failed hn | answered hn =>
    intro e he
    rcases List.mem_append.1 he with he | he
    · exact hn.isFlagless e he
    · cases List.mem_singleton.1 he
      rfl

theorem Maps.isFlagless {record : AuthRecord} {r : Except Fault AuthRecord} (h : Maps profile record tr r) :
    ∀ e ∈ tr, e.request.isFlagless = true := by
  cases h <;> simp [Request.isFlagless]

theorem Finds.isFlagless {record : AuthRecord} {name : Option String} {b c : Progress}
    {r : Except Exit PrincipalRecord} (h : Finds profile record name b tr r c) :
    ∀ e ∈ tr, e.request.isFlagless = true := by
  cases h <;> simp [Request.isFlagless]

theorem Writes.isFlagless {token : String} {es : List Session.Edit} {r : Except Fault Unit}
    (h : Writes token es tr r) : ∀ e ∈ tr, e.request.isFlagless = true := by
  induction h with
  | done => simp
  | failed => simp [Request.isFlagless]
  | wrote _ ih => simpa [Request.isFlagless] using ih

theorem Books.isFlagless {s : Setup} {user : LocalUser} (h : Books s user tr) :
    ∀ e ∈ tr, e.request.isFlagless = true := by
  cases h <;> simp [Request.isFlagless]

end

section
variable (invoke : Remote → Record → StateM ρ (Except Fault Record))

theorem obtainEvidence_couples (profile : Profile) (p : LoginParameters) :
    FlagsAttempts invoke Eq (obtainEvidence profile p) (obtainEvidence profile p) := by
  unfold obtainEvidence
  split
  · exact attemptsCouple_pure rfl
  unfold checkCredentials
  split
  case h_2 => exact attemptsCouple_refuse _ _
  next name _ =>
  split
  case h_2 => exact attemptsCouple_refuse _ _
  next password _ =>
  split
  · exact attemptsCouple_refuse_bind _ _ _ _
  refine (attemptsCouple_reaching _ (chooseCredentials_couples invoke p name password)).bind_eq ?_
  rintro ⟨user, sent⟩
  refine AttemptsCouple.bind_eq (attemptsCouple_reaching _ ?_) fun x => ?_
  · exact talksCouple_of_yields fun tr r h e he => evenly_reply invoke ((asks_of_yields h).isFlagless e he)
  -- From here on no session is asked any more.
  refine attemptsCouple_of_goes fun a tr r b h e he => evenly_reply invoke ?_
  obtain ⟨_, _, hr⟩ := audit_of_goes_settled h he
  rw [hr]
  rfl

/-! ## The user -/

theorem syncUser_couples (profile : Profile) (principal : PrincipalRecord) :
    FlagsTalks invoke (fun row row' => row.unflagged = row'.unflagged) (syncUser profile principal)
      (syncUser profile principal) := by
  unfold syncUser
  refine TalksCouple.bind_eq (talksCouple_lift (couples_request (evenly_reply invoke rfl))) fun id => ?_
  cases LocalUser.ofPrincipal id profile.authorizer.name principal with
  | error e => exact couples_pure (.error e)
  | ok user => exact couples_saveUser invoke user

/-- Who may log in and who administers is evaluated afresh. -/
theorem permit_couples (profile : Profile) (record : AuthRecord) (principal : PrincipalRecord) {row row' : LocalUser}
    (hrow : row.unflagged = row'.unflagged) :
    FlagsAttempts invoke (fun user user' => user.undated = user'.undated) (permit profile record principal row)
      (permit profile record principal row') := by
  have hadmin := couples_checkAdmin invoke hrow
  obtain ⟨_, _, rfl⟩ := LocalUser.exists_of_unflagged_eq hrow
  have hpermission : Evenly (Services.reply invoke) Services.FlagsApart (.checkPermission (.login row)) :=
    evenly_reply invoke rfl
  unfold permit
  refine AttemptsCouple.bind_eq (attemptsCouple_reaching _ (talksCouple_of_couples hpermission)) fun permitted => ?_
  cases permitted with
  | false =>
    have hreport : Evenly (Services.reply invoke) Services.FlagsApart
        (.report (deniedReport profile record principal row)) := evenly_reply invoke rfl
    exact (attemptsCouple_ask hreport).bind_eq fun _ => attemptsCouple_refuse_bind _ _ _ _
  | true => exact AttemptsCouple.bind_eq (attemptsCouple_reaching _ hadmin) fun _ => attemptsCouple_pure rfl

/-! ## The session -/

/-- The user is written first, and whatever else is written does not depend on it. -/
theorem edits_user (g : Grant) (s : SessionSettings) (now : Instant) :
    ∃ es, ∀ user, Grant.edits { g with user } s now = .user user :: es := ⟨(g.edits s now).tail, fun _ => rfl⟩

theorem issue_couples (s : SessionSettings) (g : Grant) {user user' : LocalUser} (hu : user.undated = user'.undated) :
    FlagsTalks invoke Eq (issue s { g with user }) (issue s { g with user := user' }) := by
  have attached : ∀ token, FlagsTalks invoke Eq (attach s token { g with user }) (attach s token { g with user := user' }) := by
    intro token
    rw [attach_eq, attach_eq]
    refine TalksCouple.bind_eq (talksCouple_lift (couples_request (evenly_reply invoke rfl))) fun now => ?_
    obtain ⟨es, he⟩ := edits_user g s now
    rw [he, he]
    refine TalksCouple.bind_eq (couples_writeUser invoke token hu) fun _ => ?_
    exact talksCouple_of_yields fun tr r h e he => evenly_reply invoke ((writes_of_yields h).isFlagless e he)
  have htoken : Evenly (Services.reply invoke) Services.FlagsApart .newToken := evenly_reply invoke rfl
  unfold issue
  refine TalksCouple.bind_eq (talksCouple_of_couples htoken) fun token => ?_
  refine TalksCouple.bind (talksCouple_lift (attached token)) ?_
  rintro r r' hr
  cases hr with
  | ok h => exact talksCouple_pure rfl
  | error e =>
    have hremoved : Evenly (Services.reply invoke) Services.FlagsApart (.sessions (.remove token)) :=
      evenly_reply invoke rfl
    exact (talksCouple_lift (couples_request hremoved)).bind fun _ _ _ => couples_pure (.error e)

/-! ## The whole attempt -/

theorem execute_couples (s : Setup) (p : LoginParameters) :
    FlagsAttempts invoke (fun x x' => x.1 = x'.1 ∧ x.2.undated = x'.2.undated) (execute s p) (execute s p) := by
  unfold execute
  split
  case h_2 => exact attemptsCouple_refuse _ _
  next profile _ =>
  refine (obtainEvidence_couples invoke profile p).bind_eq fun evidence => ?_
  refine attemptsCouple_identify_bind ?_
  refine AttemptsCouple.bind_eq (attemptsCouple_reaching _ ?_) fun record => ?_
  · exact talksCouple_of_yields fun tr r h e he => evenly_reply invoke ((maps_of_yields h).isFlagless e he)
  refine AttemptsCouple.bind_eq (attemptsCouple_of_goes fun a tr r b h e he => ?_) fun principal => ?_
  · exact evenly_reply invoke ((finds_of_goes h).isFlagless e he)
  refine (attemptsCouple_reaching _ (syncUser_couples invoke profile principal)).bind fun row row' hrow => ?_
  refine (permit_couples invoke profile record principal hrow).bind fun user user' huser => ?_
  have hissue := issue_couples invoke s.session {
    profile := profile.name, user, authRecord := record, principalRecord := principal
    password := p.givenPassword? } huser
  obtain ⟨_, rfl⟩ := LocalUser.exists_of_undated_eq huser
  have hreport : Evenly (Services.reply invoke) Services.FlagsApart
      (.report (Findings.report { profile, evidence, record, principal, row, user })) := evenly_reply invoke rfl
  refine (attemptsCouple_ask hreport).bind_eq fun _ => ?_
  exact (attemptsCouple_reaching _ hissue).bind_eq fun _ => attemptsCouple_pure ⟨rfl, rfl⟩

theorem login_couples (s : Setup) (p : LoginParameters) :
    FlagsCouple invoke (fun r r' => r.map LoginResult.undated = r'.map LoginResult.undated) (login s p) (login s p) := by
  have logged : ∀ name event, Evenly (Services.reply invoke) Services.FlagsApart (.audit name event) := fun _ _ =>
    evenly_reply invoke rfl
  unfold login
  refine (execute_couples invoke s p (.start p)).bind ?_
  rintro ⟨outcome, b⟩ ⟨outcome', _⟩ ⟨houtcome, rfl⟩
  cases houtcome with
  | error x =>
    cases x with
    | failed f => exact (couples_request (logged _ _)).bind fun _ _ _ => couples_pure rfl
    | fatal e => exact couples_pure rfl
  | @ok v v' h =>
    obtain ⟨token, user⟩ := v
    obtain ⟨_, user'⟩ := v'
    obtain ⟨rfl, huser⟩ := h
    obtain ⟨_, rfl⟩ := LocalUser.exists_of_undated_eq huser
    refine (couples_request (logged _ _)).bind fun _ _ _ => ?_
    have hbooks : FlagsCouple invoke Eq (submitBookkeeping s user) (submitBookkeeping s user) :=
      couples_of_yields fun tr r h e he => evenly_reply invoke ((books_of_yields h).isFlagless e he)
    exact hbooks.bind fun _ _ _ => couples_pure rfl

/-- Two attempts ended the same and left the same, but for what was evaluated of users before: in the directory, and
in the time of it that the answer and the sessions carry. -/
structure DecidesAlike (left left' : Except Fault LoginResult × Services ρ) : Prop where
  outcome : left.1.map LoginResult.undated = left'.1.map LoginResult.undated
  audit : left.2.audit = left'.2.audit
  accounting : left.2.accounting = left'.2.accounting
  background : left.2.background = left'.2.background
  sessions : left.2.sessions.undated = left'.2.sessions.undated
  sessionUser : ∀ token, (left.2.sessions.user? token).map LocalUser.undated =
    (left'.2.sessions.user? token).map LocalUser.undated
  users : left.2.users.unflagged = left'.2.users.unflagged

/-- An attempt answers with the user of its session, who administers exactly if the permissions say so of the name
and the groups that the authorizer told in this attempt. -/
def EvaluatesAfresh (s : Setup) (p : LoginParameters) (t : PermissionTable) (tr : List Exchange) (v : LoginResult)
    (store : SessionStore) : Prop :=
  ∃ (f : Findings) (id : ObjectId) (fresh user : LocalUser) (token : String),
    Consulted s p tr f ∧ LocalUser.ofPrincipal id f.profile.authorizer.name f.principal = .ok fresh ∧
      v.sessionId = some token ∧ v.user = some user ∧ store.user? token = some user ∧
      user.loginName = fresh.loginName ∧ user.groupIds = fresh.groupIds ∧
      user.admin = t.administers fresh.loginName fresh.groupIds

omit invoke in
theorem Services.FlagsApart.decidesAlike {st st' : Services ρ} {r r' : Except Fault LoginResult}
    (hr : r.map LoginResult.undated = r'.map LoginResult.undated) (hs : st.FlagsApart st') :
    DecidesAlike (r, st) (r', st') := by
  obtain ⟨d, store, hd, hstore, rfl⟩ := hs.eq_with
  refine ⟨hr, rfl, rfl, rfl, hstore, fun token => ?_, hd⟩
  show (st.sessions.user? token).map LocalUser.undated = (store.user? token).map LocalUser.undated
  rw [← SessionStore.user?_undated, hstore, SessionStore.user?_undated]

omit invoke in
theorem merged_eq (d : UserDirectory) (u : LocalUser) :
    (d.merged u).loginName = u.loginName ∧ (d.merged u).groupIds = u.groupIds := by
  unfold UserDirectory.merged
  split <;> exact ⟨rfl, rfl⟩

omit invoke in
/-- The user of an attempt is named and grouped by what the authorizer told, and evaluated by the permissions. -/
theorem Admits.evaluated {s : Setup} {p : LoginParameters} {a b : Progress} {tr : List Exchange} {f : Findings}
    {t : PermissionTable} (h : Admits s p a f tr b) (hl : ∀ x ∈ tr, x.IsLawful t) :
    ∃ id fresh, LocalUser.ofPrincipal id f.profile.authorizer.name f.principal = .ok fresh ∧
      f.user.loginName = fresh.loginName ∧ f.user.groupIds = fresh.groupIds ∧
      f.user.admin = t.administers fresh.loginName fresh.groupIds := by
  obtain ⟨-, hs, hp⟩ := h
  obtain ⟨admin, rfl, hu⟩ := hp.eq
  have hadmin : Except.ok admin = Except.ok (t.isAdmin f.row) := hl ⟨.checkAdmin f.row, .ok admin⟩ (by simp)
  cases hadmin
  generalize f.row = row at hs hl hu
  cases hs with
  | @saved id fresh _ hfresh =>
    obtain ⟨users, hrow⟩ : ∃ users : UserDirectory, Except.ok row = Except.ok (users.merged fresh) :=
      hl ⟨.saveUser fresh, .ok row⟩ (by simp)
    cases hrow
    obtain ⟨hn, hg⟩ := merged_eq users fresh
    refine ⟨id, fresh, hfresh, ?_, ?_, ?_⟩
    · rw [hu]
      exact hn
    · rw [hu]
      exact hg
    · rw [hu, ← hn, ← hg]
      rfl

/-- What was evaluated of users before makes no difference to a login, and whoever logs in administers exactly if
the permissions say so now. -/
theorem login_evaluates_afresh {st st' : Services ρ} (hs : st.FlagsApart st') (s : Setup) (p : LoginParameters) :
    DecidesAlike ((login s p).run (Services.reply invoke) st) ((login s p).run (Services.reply invoke) st') ∧
      ∀ v, ((login s p).run (Services.reply invoke) st).1 = .ok v → v.succeeded = true →
        EvaluatesAfresh s p st.permissions ((login s p).transcript (Services.reply invoke) st) v
          ((login s p).run (Services.reply invoke) st).2.sessions := by
  constructor
  · obtain ⟨hr, hleft⟩ := login_couples invoke s p st st' hs
    exact hleft.decidesAlike hr
  · intro v hv hsucc
    have hc := Dialogue.conducts_transcript (Services.reply invoke) (login s p) st
    have hy : Course s p _ _ := course_of_yields (Dialogue.yields_transcript (Services.reply invoke) (login s p) st)
    rw [hv] at hy
    obtain ⟨f, b, token, now, t, u, x, y, ha, htoken, huser, htr, hfills, hfind⟩ :=
      hy.filled (keepsStore_reply invoke) hc hsucc
    have hmem : ∀ e ∈ t, e ∈ (login s p).transcript (Services.reply invoke) st := by
      intro e he
      rw [htr]
      exact List.mem_append_left _ he
    obtain ⟨id, fresh, hfresh, hn, hg, hadmin⟩ := ha.evaluated fun e he => isLawful_of_conducts hc (hmem e he)
    refine ⟨f, id, fresh, f.user, token, ha.consulted.mono hmem, hfresh, htoken, huser, ?_, hn, hg, hadmin⟩
    unfold SessionStore.user?
    rw [hfind]
    exact hfills.user

end

/-- The directory as it has bob, evaluated before. -/
def evaluated (admin : Bool) (date : Option Instant) : UserDirectory :=
  ⟨.ofList [(("ldap", "bob"), {
    id := default, externalId := "bob", loginName := "bob", domain := "ldap", admin, lastAdminCheck := date })]⟩

/-- Bob is no administrator any more, whatever the directory has stored, and it stores that until it is told. -/
theorem login_evaluates_afresh_stale :
    let invoke : Remote → Record → StateM Unit (Except Fault Record) := fun _ _ => pure (.ok (vouching "bob"))
    let st : Services Unit := {
      users := evaluated true (some ⟨1, 0⟩), permissions := { allowEveryone := true }
      clock := fun _ => ⟨5, 0⟩, tokens := fun _ => .ok "new", outside := () }
    let st' : Services Unit := { st with users := evaluated false none }
    let p := LoginParameters.ofCredentials "main" "bob" ⟨"secret"⟩
    let left := (login ldapSetup p).run (Services.reply invoke) st
    let left' := (login ldapSetup p).run (Services.reply invoke) st'
    st.FlagsApart st' ∧ DecidesAlike left left' ∧
      (∃ v, left.1 = .ok v ∧ v.succeeded = true ∧ EvaluatesAfresh ldapSetup p st.permissions
        ((login ldapSetup p).transcript (Services.reply invoke) st) v left.2.sessions) ∧
      (left.2.sessions.user? "new").map LocalUser.admin = some false ∧
      (left.2.users.findByKey? "ldap" "bob").map LocalUser.admin = some true := by
  intro invoke st st' p left left'
  have hs : st.FlagsApart st' := ⟨rfl, rfl, rfl⟩
  have ho : opened? left.1 = some "new" := by decide +kernel
  have hadmin : (left.2.sessions.user? "new").map LocalUser.admin = some false := by decide +kernel
  have hstored : (left.2.users.findByKey? "ldap" "bob").map LocalUser.admin = some true := by decide +kernel
  obtain ⟨halike, hfresh⟩ := login_evaluates_afresh invoke hs ldapSetup p
  -- From here on the attempt is not to be run again.
  clear_value st p
  obtain ⟨v, hv, hsucc, -⟩ := opened?_eq_some.1 ho
  exact ⟨hs, halike, ⟨v, hv, hsucc, hfresh v hv hsucc⟩, hadmin, hstored⟩

end Login

end Gatehouse
