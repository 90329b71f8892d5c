import Gatehouse.Proofs.Groups
import Gatehouse.Proofs.Replies
/-!
# Attempts by internal extensions

By a profile whose mapper and directories are in the program, an attempt by name and password always comes to
an answer, and the answer hinges on the directories and the permissions alone. Every step is settled on its
own first; a whole attempt is then a case analysis over its courses.
-/

namespace Gatehouse

open Relation

section
variable {ε α β : Type} {x : Except ε α} {f : α → β}

theorem Except.map_eq_ok_iff {b : β} : x.map f = .ok b ↔ ∃ a, x = .ok a ∧ f a = b := by
  cases x <;> simp [Except.map]

theorem Except.map_eq_error_iff {e : ε} : x.map f = .error e ↔ x = .error e := by
  cases x <;> simp [Except.map]

end

/-! ## Users -/

/-- The password is that of the user, and nothing is wrong with the account. -/
structure UserSettings.Accepts (u : UserSettings) (password : String) : Prop where
  verified : PasswordHash.verify password u.passwordHash = .ok true
  enabled : u.disabled = false
  unlocked : u.locked = false
  unexpired : u.passwordExpired = false

/-- A directory takes passwords. -/
theorem Directory.acceptsPassword_capabilities : Directory.capabilities.acceptsPassword = true := by decide

theorem Directory.acceptsCredentials_capabilities : Directory.capabilities.acceptsCredentials = true := by decide

namespace Directory

variable {d : Directory} {now : Instant} {q : Wire.AuthnRequest} {u : UserSettings}

theorem principal?_issueRecord : (d.issueRecord now u).principal? = some u.name := by
  unfold issueRecord AuthRecord.principal?
  cases d.recordTtl with
  | none => rfl
  | some minutes =>
    unfold AuthRecord.withValidTo Record.text? Record.insertText
    rw [Table.find?_insert_of_ne _ _ (by decide)]
    rfl

theorem accept_of_accepts {password : String} (h : u.Accepts password) :
    d.accept now u = .success (d.issueRecord now u) := by
  simp [accept, h.enabled, h.unlocked, h.unexpired]

theorem accept_isSuccess (h : (d.accept now u).result.isSuccess = true) :
    u.disabled = false ∧ u.locked = false ∧ u.passwordExpired = false := by
  unfold accept at h
  cases hd : u.disabled <;> cases hk : u.locked <;> cases he : u.passwordExpired <;>
    simp [hd, hk, he, Wire.AuthnResponse.withPrincipal, Wire.AuthnResponse.failure, Wire.Verdict.isSuccess] at h ⊢

theorem authenticate_of_unknown (hu : d.users.find? q.user = none) :
    d.authenticate now q = (PasswordHash.verify q.credentials.exposed d.dummyHash).map
      fun _ => .failure .credentialsInvalid := by
  unfold authenticate authenticateBy
  rw [hu]
  rfl

theorem authenticate_of_known (hu : d.users.find? q.user = some u) :
    d.authenticate now q = (PasswordHash.verify q.credentials.exposed u.passwordHash).map fun right =>
      if right then d.accept now u
      else (Wire.AuthnResponse.failure .credentialsIncorrect).withPrincipal u.name := by
  unfold authenticate authenticateBy
  rw [hu]
  rfl

theorem authenticate_of_accepts (hu : d.users.find? q.user = some u) (ha : u.Accepts q.credentials.exposed) :
    d.authenticate now q = .ok (.success (d.issueRecord now u)) := by
  rw [authenticate_of_known hu, ha.verified]
  exact congrArg Except.ok (accept_of_accepts ha)

/-- A directory reports success for a user who is accepted, and vouches for that user. -/
theorem accepts_of_authenticate {a : Wire.AuthnResponse} (h : d.authenticate now q = .ok a)
    (ha : a.result.isSuccess = true) :
    ∃ u, d.users.find? q.user = some u ∧ u.Accepts q.credentials.exposed ∧
      a = .success (d.issueRecord now u) := by
  cases hu : d.users.find? q.user with
  | none =>
    rw [authenticate_of_unknown hu] at h
    obtain ⟨right, -, rfl⟩ := Except.map_eq_ok_iff.1 h
    cases ha
  | some u =>
    rw [authenticate_of_known hu] at h
    obtain ⟨right, hv, rfl⟩ := Except.map_eq_ok_iff.1 h
    cases right with
    | false => cases ha
    | true =>
      obtain ⟨hd, hk, he⟩ := accept_isSuccess ha
      have hu : u.Accepts q.credentials.exposed := ⟨hv, hd, hk, he⟩
      exact ⟨u, rfl, hu, accept_of_accepts hu⟩

theorem isFatal_of_authenticate {e : Fault} (h : d.authenticate now q = .error e) : e.isFatal = false := by
  cases hu : d.users.find? q.user with
  | none =>
    rw [authenticate_of_unknown hu] at h
    exact PasswordHash.isFatal_of_verify (Except.map_eq_error_iff.1 h)
  | some u =>
    rw [authenticate_of_known hu] at h
    exact PasswordHash.isFatal_of_verify (Except.map_eq_error_iff.1 h)

theorem text?_principalRecord {key : String} (hf : PrincipalRecord.firstNameKey ≠ key)
    (hl : PrincipalRecord.lastNameKey ≠ key) (he : PrincipalRecord.emailKey ≠ key) :
    (d.principalRecord u).fields.text? key = Record.text? (.ofList [
      (PrincipalRecord.idKey, .text u.name),
      (PrincipalRecord.nameKey, .text u.name),
      (PrincipalRecord.principalKey, .text u.name),
      (PrincipalRecord.realmKey, .text d.name),
      (PrincipalRecord.groupsKey, .list (u.groups.filterMap (groupRecord? d.groups [])))]) key := by
  unfold principalRecord Record.text?
  simp only [Record.find?_insertText?_of_ne _ _ hf, Record.find?_insertText?_of_ne _ _ hl,
    Record.find?_insertText?_of_ne _ _ he]

theorem id?_principalRecord : (d.principalRecord u).id? = some u.name :=
  text?_principalRecord (by decide) (by decide) (by decide)

theorem name?_principalRecord : (d.principalRecord u).name? = some u.name :=
  text?_principalRecord (by decide) (by decide) (by decide)

end Directory

/-! ## Internal extensions -/

/-- A profile of a mapper and directories that are in the program. -/
structure Profile.IsInternal (q : Profile) (m : Option SuffixMapper) (d f : Directory) : Prop where
  mapper : q.mapper = m.map .suffix
  authenticator : q.authenticator = .directory d
  authorizer : q.authorizer = .directory f

/-- The name that is sent to the authenticator. -/
def strippedBy (m : Option SuffixMapper) (name : String) : String :=
  (m.bind SuffixMapper.suffix).elim name fun suffix => stripSuffix suffix name

/-- The name that the authorizer sees. -/
def seenBy (m : Option SuffixMapper) (name : String) : String :=
  if m.any SuffixMapper.lowercase then Lowercase.lower name else name

theorem SuffixMapper.principal?_mapAuthRecord {m : SuffixMapper} {record : AuthRecord} {name : String}
    (h : record.principal? = some name) :
    ((m.mapAuthRecord { authRecord := record }).authRecordOr record).principal? = some (seenBy (some m) name) := by
  unfold mapAuthRecord seenBy
  cases hl : m.lowercase with
  | false => simpa [hl, Wire.MappingResponse.authRecordOr] using h
  | true => simp [h, hl, Wire.MappingResponse.authRecordOr]

/-- The permissions let a user of a directory log in: everyone, or the user, or a group that the user belongs
to in some way. -/
def PermissionTable.Welcomes (t : PermissionTable) (f : Directory) (w : UserSettings) : Prop :=
  t.allowEveryone = true ∨ w.name ∈ t.loginUsers ∨ w.name ∈ t.adminUsers ∨
    ∃ a ∈ w.groups, ∃ g, ReflTransGen (Directory.Joins f.groups) a g ∧ (g ∈ t.loginGroups ∨ g ∈ t.adminGroups)

/-- What the permissions say about a row for a user of a directory is whether they let that user log in. -/
theorem PermissionTable.grantsLogin_iff {t : PermissionTable} {f : Directory} {w : UserSettings} {row : LocalUser}
    (hn : row.loginName = w.name) (hg : row.groupIds = (f.principalRecord w).groupIds) :
    t.grantsLogin (.login row) = true ↔ t.Welcomes f w := by
  have hgroups : ∀ s : NameSet, (∃ g ∈ row.groupIds.toList, g ∈ s) ↔
      ∃ a ∈ w.groups, ∃ g, ReflTransGen (Directory.Joins f.groups) a g ∧ g ∈ s := by
    intro s
    simp only [← NameSet.mem_def, hg, Directory.mem_groupIds_principalRecord]
    grind
  unfold grantsLogin administers PermissionQuery.login Welcomes
  simp only [hn, Bool.and_true, Bool.or_eq_true, decide_eq_true_eq, List.any_eq_true, hgroups]
  grind

namespace Login

/-! ## Outcomes -/

/-- An attempt that goes on with a value has one that is good, and one that fails does so for a reason;
nothing fatal happens. -/
def Settles (good : α → Prop) (bad : Prop) : Except Exit α → Prop
  | .ok v => good v
  | .error (.failed _) => bad
  | .error (.fatal _) => False

theorem Settles.error {good : α → Prop} {good' : β → Prop} {bad bad' : Prop} {x : Exit}
    (h : Settles good bad (.error x)) (hb : bad → bad') : Settles good' bad' (.error x) := by
  cases x with
  | failed f => exact hb h
  | fatal e => exact h

/-- A fault that is not fatal makes the attempt fail. -/
theorem settles_exitAt {good : α → Prop} {bad : Prop} {stage : LoginStage} {e : Fault} (he : e.isFatal = false)
    (hb : bad) : Settles good bad (.error (exitAt stage e)) := by
  unfold exitAt
  rw [if_neg (by simp [he])]
  exact hb

section
variable {k : PermissionTable} {q : Profile} {m : Option SuffixMapper} {d f : Directory} {p : LoginParameters}
  {name : String} {password : Secret} {a b : Progress} {t : List Exchange}

/-! ## Credentials -/

theorem Submits.unique {c c' : String × Secret} (h : Submits q p c) (h' : Submits q p c') : c = c' :=
  Prod.ext (Option.some.inj (h.name.symm.trans h'.name)) (Option.some.inj (h.password.symm.trans h'.password))

/-- Without a session that may remember credentials, those that were submitted are checked. -/
theorem Chooses.eq {submitted : String × Secret} {r : Except Fault (String × Secret)}
    (h : Chooses p submitted t r) (hn : p.credentialSession? = none) : r = .ok submitted := by
  cases h with
  | submitted => rfl
  | noUser hp | noPassword hp | recalled hp =>
    rw [hn] at hp
    cases hp

theorem Names.eq {r : Except Fault String} (h : Names q name t r) (hq : q.IsInternal m d f)
    (hl : ∀ x ∈ t, x.IsLawful k) : r = .ok (strippedBy m name) := by
  cases h with
  | same hm =>
    rcases hm with hc | hm
    · rw [hq.authenticator] at hc
      cases hc.symm.trans Directory.acceptsCredentials_capabilities
    · rw [hq.mapper, Option.map_eq_none_iff] at hm
      rw [hm]
      rfl
  | failed hc hm =>
    rw [hq.mapper, Option.map_eq_some_iff] at hm
    obtain ⟨m, rfl, rfl⟩ := hm
    cases hl _ List.mem_cons_self
  | mapped hc hm =>
    rw [hq.mapper, Option.map_eq_some_iff] at hm
    obtain ⟨m, rfl, rfl⟩ := hm
    cases hl _ List.mem_cons_self
    rfl

/-- The directory's answer is what it says about the stripped name. -/
theorem Asks.eq {r : Except Fault Authentication} (h : Asks q (name, password) t r) (hq : q.IsInternal m d f)
    (hl : ∀ x ∈ t, x.IsLawful k) :
    ∃ now, r.map Authentication.response =
      d.authenticate now { user := strippedBy m name, credentials := password } := by
  cases h with
  | unnamed hn => cases hn.eq hq hl
  | failed hn | answered hn =>
    obtain ⟨ht, hx⟩ := List.forall_mem_append.1 hl
    cases hn.eq hq ht
    have hx := hx _ List.mem_cons_self
    rw [hq.authenticator] at hx
    obtain ⟨now, hx⟩ := hx
    exact ⟨now, hx⟩

/-- An attempt by a name and a password, with a profile of internal extensions and no session to consult. -/
structure ByPassword (q : Profile) (p : LoginParameters) (m : Option SuffixMapper) (d f : Directory) (name : String)
    (password : Secret) : Prop where
  internal : q.IsInternal m d f
  submits : Submits q p (name, password)
  unremembered : p.credentialSession? = none

/-- Whatever comes of asking the authenticator is what the directory says. -/
theorem ByPassword.answer {submitted credentials : String × Secret} {u : List Exchange}
    {r : Except Fault Authentication} (hb : ByPassword q p m d f name password) (hs : Submits q p submitted)
    (hc : Chooses p submitted t (.ok credentials)) (ha : Asks q credentials u r) (hl : ∀ x ∈ u, x.IsLawful k) :
    ∃ now, r.map Authentication.response =
      d.authenticate now { user := strippedBy m name, credentials := password } := by
  cases hc.eq hb.unremembered
  cases hb.submits.unique hs
  exact ha.eq hb.internal hl

/-- The directory knows a user by the stripped name, and accepts the password. -/
structure Accepted (m : Option SuffixMapper) (d : Directory) (name : String) (password : Secret)
    (u : UserSettings) : Prop where
  found : d.users.find? (strippedBy m name) = some u
  accepts : u.Accepts password.exposed

theorem Accepted.unique {u u' : UserSettings} (h : Accepted m d name password u)
    (h' : Accepted m d name password u') : u = u' := Option.some.inj (h.found.symm.trans h'.found)

/-- A login is proven if the directory accepts somebody, and then the evidence names that user. -/
theorem Proves.settles {r : Except Exit Evidence} (h : Proves q p a t r b) (hb : ByPassword q p m d f name password)
    (hl : ∀ x ∈ t, x.IsLawful k) :
    Settles (fun evidence => ∃ u, Accepted m d name password u ∧ evidence.record.principal? = some u.name)
      (∀ u, ¬ Accepted m d name password u) r := by
  cases h with
  | supplied hp => cases hp.symm.trans hb.submits.unsupplied
  | noName _ hp => cases hp.symm.trans hb.submits.name
  | noPassword _ _ hp => cases hp.symm.trans hb.submits.password
  | unsupported _ _ _ hc => cases hc.symm.trans hb.submits.accepts
  | unchosen _ hc => cases hc.eq hb.unremembered
  | unasked hs hc ha =>
    obtain ⟨now, hr⟩ := hb.answer hs hc ha (List.forall_mem_append.1 hl).2
    refine settles_exitAt (Directory.isFatal_of_authenticate hr.symm) fun u hu => ?_
    cases hr.trans (Directory.authenticate_of_accepts hu.found hu.accepts)
  | refused hs hc ha hx =>
    have hl := (List.forall_mem_append.1 hl).2
    obtain ⟨now, hr⟩ := hb.answer hs hc ha (List.forall_mem_append.1 hl).1
    -- The directory would have reported success for a user whom it accepts.
    intro u hu
    rw [Except.ok.inj (hr.trans (Directory.authenticate_of_accepts hu.found hu.accepts))] at hx
    cases hx
  | recordless hs hc ha hx hr =>
    obtain ⟨now, hv⟩ := hb.answer hs hc ha (List.forall_mem_append.1 hl).2
    obtain ⟨u, -, -, he⟩ := Directory.accepts_of_authenticate hv.symm hx
    rw [he] at hr
    cases hr
  | proven hs hc ha hx hr =>
    obtain ⟨now, hv⟩ := hb.answer hs hc ha (List.forall_mem_append.1 hl).2
    obtain ⟨u, hu, hacc, he⟩ := Directory.accepts_of_authenticate hv.symm hx
    rw [he] at hr
    cases hr
    exact ⟨u, ⟨hu, hacc⟩, Directory.principal?_issueRecord⟩

/-! ## From the record to the user -/

/-- A mapper of the program does not fail, and keeps or lowers the name of the principal. -/
theorem Maps.exists_ok {record : AuthRecord} {r : Except Fault AuthRecord} (h : Maps q record t r)
    (hq : q.IsInternal m d f) (hl : ∀ x ∈ t, x.IsLawful k) {principal : String}
    (hp : record.principal? = some principal) :
    ∃ result, r = .ok result ∧ result.principal? = some (seenBy m principal) := by
  cases h with
  | same hm =>
    rw [hq.mapper, Option.map_eq_none_iff] at hm
    rw [hm]
    exact ⟨record, rfl, hp⟩
  | failed hm =>
    rw [hq.mapper, Option.map_eq_some_iff] at hm
    obtain ⟨m, rfl, rfl⟩ := hm
    cases hl _ List.mem_cons_self
  | mapped hm =>
    rw [hq.mapper, Option.map_eq_some_iff] at hm
    obtain ⟨m, rfl, rfl⟩ := hm
    cases hl _ List.mem_cons_self
    exact ⟨_, rfl, SuffixMapper.principal?_mapAuthRecord hp⟩

/-- Behind a proven login the record is mapped, and names the accepted user as the authorizer sees it. -/
theorem Maps.exists_ok_of_proves {evidence : Evidence} {u : List Exchange} {r : Except Fault AuthRecord}
    (h : Maps q evidence.record u r) (hv : Proves q p a t (.ok evidence) b) (hb : ByPassword q p m d f name password)
    (hl : ∀ x ∈ t ++ u, x.IsLawful k) :
    ∃ x result, Accepted m d name password x ∧ r = .ok result ∧ result.principal? = some (seenBy m x.name) := by
  obtain ⟨ht, hu⟩ := List.forall_mem_append.1 hl
  obtain ⟨x, hx, hp⟩ := hv.settles hb ht
  obtain ⟨result, hr, hn⟩ := h.exists_ok hb.internal hu hp
  exact ⟨x, result, hx, hr, hn⟩

theorem Finds.settles {record : AuthRecord} {loginName : Option String} {r : Except Exit PrincipalRecord}
    (h : Finds q record loginName a t r b) (hq : q.IsInternal m d f) (hl : ∀ x ∈ t, x.IsLawful k)
    {principal : String} (hp : record.principal? = some principal) :
    Settles (fun found => ∃ w, f.users.find? principal = some w ∧ found = f.principalRecord w)
      (f.users.find? principal = none) r := by
  have hf : f.fetchPrincipal { authRecord := record } =
      { principalRecord := (f.users.find? principal).map f.principalRecord } := by
    unfold Directory.fetchPrincipal
    rw [hp]
    rfl
  cases h with
  | failed =>
    have hx := hl _ List.mem_cons_self
    rw [hq.authorizer] at hx
    cases hx
  | unknown =>
    have hx := hl _ List.mem_cons_self
    rw [hq.authorizer] at hx
    have hx := congrArg Wire.FetchPrincipalResponse.principalRecord ((Except.ok.inj hx).trans hf)
    exact Option.map_eq_none_iff.1 hx.symm
  | found =>
    have hx := hl _ List.mem_cons_self
    rw [hq.authorizer] at hx
    have hx := congrArg Wire.FetchPrincipalResponse.principalRecord ((Except.ok.inj hx).trans hf)
    obtain ⟨w, hw, hr⟩ := Option.map_eq_some_iff.1 hx.symm
    exact ⟨w, hw, hr.symm⟩

/-- The row of a directory's user has the user's name and groups, whatever row there was before. -/
theorem Syncs.exists_ok {w : UserSettings} {r : Except Fault LocalUser} (h : Syncs q (f.principalRecord w) t r)
    (hl : ∀ x ∈ t, x.IsLawful k) :
    ∃ row, r = .ok row ∧ row.loginName = w.name ∧ row.groupIds = (f.principalRecord w).groupIds := by
  cases h with
  | unkeyed hu =>
    unfold LocalUser.ofPrincipal at hu
    rw [Directory.id?_principalRecord] at hu
    cases hu
  | failed hu =>
    obtain ⟨_, hx⟩ := hl _ (List.mem_cons_of_mem _ List.mem_cons_self)
    cases hx
  | saved hu =>
    obtain ⟨users, hx⟩ := hl _ (List.mem_cons_of_mem _ List.mem_cons_self)
    cases hx
    unfold LocalUser.ofPrincipal at hu
    rw [Directory.id?_principalRecord, Directory.name?_principalRecord] at hu
    cases hu
    refine ⟨_, rfl, ?_, ?_⟩
    · unfold UserDirectory.merged
      split <;> rfl
    · unfold UserDirectory.merged
      split <;> rfl

/-- The permissions are asked about the row, and tell whether the directory's user may log in. -/
theorem Permits.settles {record : AuthRecord} {principal : PrincipalRecord} {w : UserSettings} {row : LocalUser}
    {u : List Exchange} {r : Except Exit LocalUser} (h : Permits q record principal row a u r b)
    (hs : Syncs q (f.principalRecord w) t (.ok row)) (hl : ∀ x ∈ t ++ u, x.IsLawful k) :
    Settles (fun _ => k.Welcomes f w) (¬ k.Welcomes f w) r := by
  obtain ⟨ht, hu⟩ := List.forall_mem_append.1 hl
  obtain ⟨_, hr, hn, hg⟩ := hs.exists_ok ht
  cases hr
  rw [← PermissionTable.grantsLogin_iff hn hg]
  cases h with
  | failed => cases hu _ List.mem_cons_self
  | adminFailed => cases hu _ (List.mem_cons_of_mem _ List.mem_cons_self)
  | denied =>
    have hx := Except.ok.inj (hu _ List.mem_cons_self)
    exact fun hg => Bool.false_ne_true (hx.trans hg)
  | permitted => exact (Except.ok.inj (hu _ List.mem_cons_self)).symm

/-! ## The session -/

theorem Writes.eq {token : String} {es : List Session.Edit} {r : Except Fault Unit} (h : Writes token es t r)
    (hl : ∀ x ∈ t, x.IsLawful k) : r = .ok () := by
  induction h with
  | done => rfl
  | failed =>
    obtain ⟨_, hx⟩ := hl _ List.mem_cons_self
    cases hx
  | wrote _ ih => exact ih fun x hx => hl x (List.mem_cons_of_mem _ hx)

/-- A session is issued if a token can be drawn. -/
theorem Issues.exists_ok {s : SessionSettings} {g : Grant} {r : Except Fault String} (h : Issues s g t r)
    (hl : ∀ x ∈ t, x.IsLawful k) (ht : ∀ e, ⟨.newToken, .error e⟩ ∉ t) : ∃ token, r = .ok token := by
  cases h with
  | noToken => exact absurd List.mem_cons_self (ht _)
  | unwritten hw =>
    have hl := fun x hx => hl x (List.mem_cons_of_mem _ (List.mem_cons_of_mem _ hx))
    cases hw.eq (List.forall_mem_append.1 hl).1
  | issued => exact ⟨_, rfl⟩

/-! ## The whole attempt -/

/-- The directories and the permissions let somebody in by a name and a password. -/
def LetsIn (k : PermissionTable) (m : Option SuffixMapper) (d f : Directory) (name : String) (password : Secret) :
    Prop :=
  ∃ u, Accepted m d name password u ∧ ∃ w, f.users.find? (seenBy m u.name) = some w ∧ k.Welcomes f w

theorem LetsIn.accepted {u : UserSettings} (h : LetsIn k m d f name password)
    (hu : Accepted m d name password u) : ∃ w, f.users.find? (seenBy m u.name) = some w ∧ k.Welcomes f w := by
  obtain ⟨u', hu', hw⟩ := h
  cases hu.unique hu'
  exact hw

/-- What an attempt has found when it gets as far as the principal. -/
theorem Locates.found {s : Setup} {profile : Profile} {evidence : Evidence} {record : AuthRecord}
    {principal : PrincipalRecord} (h : Locates s p a profile evidence record principal t b)
    (hp : s.profiles.find? p.profileName = some q) (hb : ByPassword q p m d f name password)
    (hl : ∀ x ∈ t, x.IsLawful k) :
    ∃ u, Accepted m d name password u ∧
      ∃ w, f.users.find? (seenBy m u.name) = some w ∧ principal = f.principalRecord w := by
  cases h with
  | intro hp' hv hm hf =>
    cases hp.symm.trans hp'
    rw [← List.append_assoc] at hl
    obtain ⟨hlt, hlw⟩ := List.forall_mem_append.1 hl
    obtain ⟨u, _, hu, hr, hn⟩ := hm.exists_ok_of_proves hv hb hlt
    cases hr
    exact ⟨u, hu, hf.settles hb.internal hlw hn⟩

/-- An attempt goes on to a session if the directories and the permissions let it, and fails otherwise. -/
theorem Executes.settles {s : Setup} {r : Except Exit (String × LocalUser)} (h : Executes s p a t r b)
    (hp : s.profiles.find? p.profileName = some q) (hb : ByPassword q p m d f name password)
    (hl : ∀ x ∈ t, x.IsLawful k) (ht : ∀ e, ⟨.newToken, .error e⟩ ∉ t) :
    Settles (fun _ => LetsIn k m d f name password) (¬ LetsIn k m d f name password) r := by
  -- The faults that end an attempt between two of these decisions do not come from collaborators of the program.
  cases h with
  | noProfile hp' => cases hp.symm.trans hp'
  | unproven hp' hv =>
    cases hp.symm.trans hp'
    refine (hv.settles hb hl).error ?_
    rintro hnone ⟨u, hu, -⟩
    exact hnone u hu
  | unmapped hp' hv hm =>
    cases hp.symm.trans hp'
    obtain ⟨_, _, -, hr, -⟩ := hm.exists_ok_of_proves hv hb hl
    cases hr
  | unfound hp' hv hm hf =>
    cases hp.symm.trans hp'
    rw [← List.append_assoc] at hl
    obtain ⟨hlt, hlw⟩ := List.forall_mem_append.1 hl
    obtain ⟨u, _, hu, hr, hn⟩ := hm.exists_ok_of_proves hv hb hlt
    cases hr
    refine (hf.settles hb.internal hlw hn).error ?_
    intro hnone hin
    obtain ⟨w, hw, -⟩ := hin.accepted hu
    cases hw.symm.trans hnone
  | unsynced hlo hsy =>
    obtain ⟨hlt, hlu⟩ := List.forall_mem_append.1 hl
    obtain ⟨-, -, w, -, rfl⟩ := hlo.found hp hb hlt
    obtain ⟨_, hr, -⟩ := hsy.exists_ok hlu
    cases hr
  | unpermitted hlo hsy hpe =>
    obtain ⟨hlt, hlu⟩ := List.forall_mem_append.1 hl
    obtain ⟨u, hu, w, hw, rfl⟩ := hlo.found hp hb hlt
    refine (hpe.settles hsy hlu).error ?_
    intro hdenied hin
    obtain ⟨w', hw', hwel⟩ := hin.accepted hu
    cases hw.symm.trans hw'
    exact hdenied hwel
  | unissued ha hi =>
    obtain ⟨_, hr⟩ := hi.exists_ok
      (fun x hx => hl x (List.mem_append_right _ (List.mem_cons_of_mem _ hx)))
      (fun e he => ht e (List.mem_append_right _ (List.mem_cons_of_mem _ he)))
    cases hr
  | granted ha hi =>
    cases ha with
    | intro hlo hsy hpe =>
      obtain ⟨hlt, hlu⟩ := List.forall_mem_append.1 (List.forall_mem_append.1 hl).1
      obtain ⟨u, hu, w, hw, hpr⟩ := hlo.found hp hb hlt
      rw [hpr] at hsy
      exact ⟨u, hu, w, hw, hpe.settles hsy hlu⟩

/-- An attempt by internal extensions answers, and it succeeds exactly if they let it. -/
theorem Course.succeeded_iff {s : Setup} {r : Except Fault LoginResult} (h : Course s p t r)
    (hp : s.profiles.find? p.profileName = some q) (hb : ByPassword q p m d f name password)
    (hl : ∀ x ∈ t, x.IsLawful k) (ht : ∀ e, ⟨.newToken, .error e⟩ ∉ t) :
    ∃ v, r = .ok v ∧ (v.succeeded = true ↔ LetsIn k m d f name password) := by
  cases h with
  | granted he =>
    have hin := he.settles hp hb (List.forall_mem_append.1 hl).1 fun e h => ht e (List.mem_append_left _ h)
    exact ⟨_, rfl, fun _ => hin, fun _ => rfl⟩
  | refused he =>
    have hout := he.settles hp hb (List.forall_mem_append.1 hl).1 fun e h => ht e (List.mem_append_left _ h)
    exact ⟨_, rfl, nofun, fun hin => absurd hin hout⟩
  | aborted he => exact (he.settles hp hb hl ht).elim

end

end Login

end Gatehouse
