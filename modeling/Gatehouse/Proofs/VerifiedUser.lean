import Gatehouse.Proofs.Decision
import Gatehouse.Proofs.KeptApart
import Gatehouse.Proofs.Recollection
/-!
# For whom a login opens a session

The user whose password a directory verified and the user for whom a session is opened are linked by a name only,
which the mapper of the profile may put into lower case in between. Main statement: where one directory both
authenticates and authorizes, the session is for the user of the name that the mapper makes of the verified user's
name. This is the verified user, unless a mapper lowers the name to that of a namesake.
-/

namespace Gatehouse

open Relation

namespace Login

/-! ## Collaborators -/

/-- An exchange with directories and mappers that are in the program, and with a directory of local users that keeps
who a user is and the groups of the user. -/
def Exchange.IsFaithful : Exchange → Prop
  | ⟨.authenticate (.directory d) q, r⟩ => ∃ now, r = d.authenticate now q
  | ⟨.mapAuthRecord (.suffix m) q, r⟩ => r = .ok (m.mapAuthRecord q)
  | ⟨.fetchPrincipal (.directory d) q, r⟩ => r = .ok (d.fetchPrincipal q)
  | ⟨.saveUser u, r⟩ => ∀ row, r = .ok row → row.externalId = u.externalId ∧ row.groupIds = u.groupIds
  | _ => True

/-- A handler keeps its sessions in a store, and its directories and mappers are those of the program; where it keeps
local users is left open. -/
structure Serves {σ : Type} (h : Dialogue.Handler σ) (store : σ → SessionStore) : Prop extends KeepsStore h store where
  faithful : ∀ r st, (⟨r, (h r st).1⟩ : Exchange).IsFaithful

theorem Exchange.IsLawful.isFaithful {t : PermissionTable} {x : Exchange} (h : x.IsLawful t) : x.IsFaithful := by
  obtain ⟨r, reply⟩ := x
  cases r with
  | authenticate a | mapAuthRecord a | fetchPrincipal a =>
    cases a with
    | remote => trivial
    | _ => exact h
  | saveUser u =>
    obtain ⟨users, hr⟩ := h
    rintro row hrow
    cases hr.symm.trans hrow
    unfold UserDirectory.merged
    split <;> exact ⟨rfl, rfl⟩
  | _ => trivial

/-- The program serves logins, whatever the remote extensions do. -/
theorem serves_reply {ρ : Type} (invoke : Remote → Record → StateM ρ (Except Fault Record)) :
    Serves (Services.reply invoke) Services.sessions where
  toKeepsStore := keepsStore_reply invoke
  faithful r st := (isLawful_reply r st).isFaithful

theorem Serves.isFaithful {σ : Type} {h : Dialogue.Handler σ} {store : σ → SessionStore} (hs : Serves h store)
    {st st' : σ} {tr : List Exchange} (hc : Dialogue.Conducts h st tr st') {x : Exchange} (hx : x ∈ tr) :
    x.IsFaithful := by
  obtain ⟨m, -, hr⟩ := hc.mem (I := fun _ => True) (fun _ _ _ => trivial) trivial hx
  obtain ⟨r, reply⟩ := x
  cases (show reply = (h r m).1 from hr)
  exact hs.faithful r m

/-! ## The verified user -/

/-- In a transcript, a directory was asked about a user and found that the password is the user's. -/
inductive Verifies (tr : List Exchange) (u : UserSettings) : Prop
  | intro {d q r} (hx : ⟨.authenticate (.directory d) q, r⟩ ∈ tr) (hu : d.users.find? q.user = some u)
      (hv : PasswordHash.verify q.credentials.exposed u.passwordHash = .ok true)

section
variable {s : Setup} {profile : Profile} {p : LoginParameters} {tr : List Exchange}

/-- No attempt verifies the passwords of two users. -/
theorem Verifies.unique {u u' : UserSettings} (ho : InOrder s profile p tr) (h : Verifies tr u)
    (h' : Verifies tr u') : u' = u := by
  obtain ⟨hx, hu, -⟩ := h
  obtain ⟨hx', hu', -⟩ := h'
  cases ho.eq_of_call hx hx' rfl rfl
  exact Option.some.inj (hu'.symm.trans hu)

end

/-! ## From the verified user to the user of the session -/

section
variable {s : Setup} {p : LoginParameters} {tr : List Exchange} {x : Findings} {m : Option SuffixMapper}
  {d f : Directory}

/-- Behind the evidence of an attempt with credentials there is a user whose password was verified. -/
theorem Consulted.exists_verified (h : Consulted s p tr x) (hr : p.authRecord = none)
    (hq : x.profile.IsInternal m d f) (hl : ∀ y ∈ tr, y.IsFaithful) :
    ∃ name u, d.users.find? name = some u ∧ Verifies tr u ∧ x.evidence.record.principal? = some u.name := by
  obtain hp | ⟨-, q, response, hx, hok, hrecord⟩ := h.proven
  · exact nomatch hp.symm.trans hr
  rw [hq.authenticator] at hx
  obtain ⟨now, ha⟩ := hl _ hx
  replace ha : d.authenticate now q = .ok response := ha.symm
  obtain ⟨u, hu, hacc, rfl⟩ := Directory.accepts_of_authenticate ha hok
  refine ⟨q.user, u, hu, ⟨hx, hu, hacc.verified⟩, ?_⟩
  rw [← Option.some.inj hrecord]
  exact Directory.principal?_issueRecord

/-- The authorizer sees the name that the mapper makes of the verified one. -/
theorem Consulted.principal?_record (h : Consulted s p tr x) (hq : x.profile.IsInternal m d f)
    (hl : ∀ y ∈ tr, y.IsFaithful) {name : String} (hn : x.evidence.record.principal? = some name) :
    x.record.principal? = some (seenBy m name) := by
  rcases h.mapped with ⟨hm, hr⟩ | ⟨mapper, answer, hm, hx, hr⟩
  · rw [hq.mapper, Option.map_eq_none_iff] at hm
    rw [hm, hr]
    exact hn
  · rw [hq.mapper, Option.map_eq_some_iff] at hm
    obtain ⟨mapper, rfl, rfl⟩ := hm
    cases (show Except.ok answer = .ok (mapper.mapAuthRecord _) from hl _ hx)
    rw [hr]
    exact SuffixMapper.principal?_mapAuthRecord hn

/-- The principal is the directory's record of the user under the name that the authorizer sees. -/
theorem Consulted.exists_principal (h : Consulted s p tr x) (hq : x.profile.IsInternal m d f)
    (hl : ∀ y ∈ tr, y.IsFaithful) {name : String} (hn : x.record.principal? = some name) :
    ∃ w, f.users.find? name = some w ∧ x.principal = f.principalRecord w := by
  have hx := h.found
  rw [hq.authorizer] at hx
  have hfetch : (f.fetchPrincipal { authRecord := x.record }).principalRecord = some x.principal :=
    congrArg Wire.FetchPrincipalResponse.principalRecord (Except.ok.inj (hl _ hx)).symm
  unfold Directory.fetchPrincipal at hfetch
  rw [hn] at hfetch
  obtain ⟨w, hw, hr⟩ := Option.map_eq_some_iff.1 hfetch
  exact ⟨w, hw, hr.symm⟩

/-- The user who is saved has the name and the groups of the directory's user, wherever local users are kept. -/
theorem Admits.user_eq {a b : Progress} (h : Admits s p a x tr b) (hl : ∀ y ∈ tr, y.IsFaithful) {w : UserSettings}
    (hw : x.principal = f.principalRecord w) :
    x.user.externalId = w.name ∧ x.user.groupIds = (f.principalRecord w).groupIds := by
  cases h with
  | intro _ hs hp =>
    obtain ⟨id, user, hu, hx⟩ := hs.exists_saved
    obtain ⟨hid, hgroups⟩ := hl _ (List.mem_append_right _ (List.mem_append_left _ hx)) _ rfl
    obtain ⟨admin, -, huser⟩ := hp.eq
    unfold LocalUser.ofPrincipal at hu
    rw [hw, Directory.id?_principalRecord] at hu
    cases hu
    rw [huser]
    exact ⟨hid, hgroups⟩

end

/-! ## The session -/

/-- A local user stands for a user of a directory with some groups: under the user's name, and in exactly the groups
that the user belongs to in some way. -/
structure StandsFor (user : LocalUser) (groups : List GroupSettings) (w : UserSettings) : Prop where
  externalId : user.externalId = w.name
  groupIds : ∀ g, g ∈ user.groupIds ↔ ∃ a ∈ w.groups, ReflTransGen (MemberOf groups) a g

/-- An attempt verified the password of one user only, and opened a session for a user. -/
structure OpensFor (groups : List GroupSettings) (tr : List Exchange) (v : LoginResult) (store : SessionStore)
    (u w : UserSettings) : Prop where
  verified : Verifies tr u
  only : ∀ u', Verifies tr u' → u' = u
  session : ∃ token y user, v.sessionId = some token ∧ v.user = some user ∧ store.find? token = some y ∧
    y.user = some user ∧ StandsFor user groups w

section
variable {σ : Type} {h : Dialogue.Handler σ} {store : σ → SessionStore} {s : Setup} {p : LoginParameters}
  {tr : List Exchange} {v : LoginResult} {st st' : σ} {q : Profile} {m : Option SuffixMapper} {d f : Directory}
  {x : DirectorySettings}

/-- An attempt with credentials, by a directory that authenticates and authorizes, opens a session for the user whose
name the mapper makes of that of the verified user. -/
theorem Course.opensFor (hs : Serves h store) (hy : Course s p tr (.ok v)) (hd : Dialogue.Conducts h st tr st')
    (hv : v.succeeded = true) (hp : s.profiles.find? p.profileName = some q) (hq : q.IsInternal m d f)
    (hr : p.authRecord = none) (hbd : Directory.Backs x d) (hbf : Directory.Backs x f) :
    ∃ u ∈ x.users, ∃ w ∈ x.users, w.name = seenBy m u.name ∧ (w.name = u.name → w = u) ∧
      OpensFor x.groups tr v (store st') u w := by
  have ho : InOrder s q p tr := hy.inOrder hp
  obtain ⟨a, b, token, now, t, rest, before, y, ha, htoken, huser, rfl, hfill, hfind⟩ :=
    hy.filled hs.toKeepsStore hd hv
  cases ha.profile.symm.trans hp
  have hl : ∀ y ∈ t, y.IsFaithful := fun y hy => hs.isFaithful hd (List.mem_append_left _ hy)
  have hc := ha.consulted
  obtain ⟨name, u, hu, hver, hname⟩ := hc.exists_verified hr hq hl
  obtain ⟨w, hw, hprincipal⟩ := hc.exists_principal hq hl (hc.principal?_record hq hl hname)
  obtain ⟨hid, hgroups⟩ := ha.user_eq hl hprincipal
  obtain ⟨hux, hun⟩ := hbd.find?_users.1 hu
  obtain ⟨hwx, hwn⟩ := hbf.find?_users.1 hw
  have hver : Verifies (t ++ ⟨.report a.report, ()⟩ :: ⟨.newToken, .ok token⟩ :: ⟨.now, now⟩ :: rest) u := by
    obtain ⟨hx, hu, hok⟩ := hver
    exact ⟨List.mem_append_left _ hx, hu, hok⟩
  refine ⟨u, hux, w, hwx, hwn, fun hsame => ?_, hver, fun u' hu' => hver.unique ho hu', token, y, a.user, htoken, huser,
    hfind, hfill.user, hid, fun g => ?_⟩
  · have hwu := hbf.find?_users.2 ⟨hux, rfl⟩
    rw [← hsame, hbf.find?_users.2 ⟨hwx, rfl⟩] at hwu
    exact Option.some.inj hwu
  · rw [hgroups, Directory.mem_groupIds_principalRecord, hbf.joins_eq]

theorem OpensFor.unique {groups : List GroupSettings} {last : SessionStore} {u w u' w' : UserSettings}
    (ho : OpensFor groups tr v last u w) (ho' : OpensFor groups tr v last u' w') : u' = u ∧ w'.name = w.name := by
  obtain ⟨_, _, _, -, huser, -, -, hw⟩ := ho.session
  obtain ⟨_, _, _, -, huser', -, -, hw'⟩ := ho'.session
  cases huser.symm.trans huser'
  exact ⟨ho.only u' ho'.verified, hw'.externalId.symm.trans hw.externalId⟩

/-- A mapper of the program sends names without their suffix. -/
theorem SentAs.eq {k : PermissionTable} {name sent : String} (h : SentAs q tr name sent) (hq : q.IsInternal m d f)
    (hl : ∀ x ∈ tr, x.IsLawful k) : sent = strippedBy m name := by
  cases h with
  | same hm =>
    rcases hm with hc | hm
    · rw [hq.authenticator] at hc
      cases hc.symm.trans Directory.acceptsCredentials_capabilities
    · rw [hq.mapper, Option.map_eq_none_iff] at hm
      rw [hm]
      rfl
  | mapped hm hx =>
    rw [hq.mapper, Option.map_eq_some_iff] at hm
    obtain ⟨m, rfl, rfl⟩ := hm
    cases hl _ hx
    rfl

/-- Where no session is consulted, the verified user is the one whose name was submitted, without the suffix. -/
theorem Course.find?_verified {r : Except Fault LoginResult} {k : PermissionTable} {name : String} {password : Secret}
    {u : UserSettings} (hy : Course s p tr r) (hp : s.profiles.find? p.profileName = some q)
    (hb : ByPassword q p m d f name password) (hl : ∀ x ∈ tr, x.IsLawful k) (hu : Verifies tr u) :
    d.users.find? (strippedBy m name) = some u := by
  obtain ⟨hx, hu, -⟩ := hu
  obtain ⟨submitted, credentials, hasked⟩ := hy.asksAsChosen hp _ _ _ hx
  cases hasked.authenticator.trans hb.internal.authenticator
  obtain ⟨t, w, rfl, hc⟩ := hasked.chosen
  cases hc.eq hb.unremembered
  cases hb.submits.unique hasked.submits
  exact hasked.user.eq hb.internal hl ▸ hu

end

end Login

open Login

/-! ## Cores -/

/-- A profile of one directory is held under its name, with the mapper of its settings. -/
theorem Core.exists_isInternal {salts : Nat → List UInt8} {s : Settings} {c : Core}
    (hc : Core.ofSettings salts s = .ok c) {q : ProfileSettings} (hq : q ∈ s.profiles) {x : DirectorySettings}
    (hx : x ∈ s.extensions.directories) (hn : q.authn = x.authnName) (hz : q.authz = x.authzName)
    {mapper : Option MapperSettings} (hm : q.MapsBy s.extensions mapper) :
    ∃ profile d f, c.setup.profiles.find? (some q.name) = some profile ∧
      profile.IsInternal (mapper.map .ofSettings) d f ∧ Directory.Backs x d ∧ Directory.Backs x f := by
  obtain ⟨-, hprofiles⟩ := Core.lists_profiles hc
  obtain ⟨profile, hfind, hreal⟩ := hprofiles.present q hq
  obtain ⟨m, d, f, hint⟩ := hreal.exists_isInternal
  cases hreal.mapper_eq hint hm
  exact ⟨profile, d, f, hfind, hint, (hreal.authenticator_backs hint).2 x hx hn.symm,
    (hreal.authorizer_backs hint).2 x hx hz.symm⟩

/-- Whatever was done before, and wherever sessions and local users are kept: by a profile that takes its authenticator
and its authorizer from one directory, a successful attempt with credentials has verified the password of one user of
the directory, and opens a session for the user whose name is that user's name, put into lower case if the mapper of
the profile does so. If this leaves the name as it is, the session is for the verified user. -/
theorem Core.login_opens_for_verified {σ : Type} {h : Dialogue.Handler σ} {store : σ → SessionStore}
    (hs : Serves h store) {salts : Nat → List UInt8} {s : Settings} {c : Core}
    (hc : Core.ofSettings salts { s with database := none } = .ok c) {q : ProfileSettings} (hq : q ∈ s.profiles)
    {x : DirectorySettings} (hx : x ∈ s.extensions.directories) (hn : q.authn = x.authnName)
    (hz : q.authz = x.authzName) {mapper : Option MapperSettings} (hm : q.MapsBy s.extensions mapper)
    {p : LoginParameters} (hp : p.profileName = some q.name) (hr : p.authRecord = none) {st : σ} {v : LoginResult}
    (hv : ((login c.setup p).run h st).1 = .ok v) (hok : v.succeeded = true) :
    ∃ u ∈ x.users, ∃ w ∈ x.users,
      w.name = (if mapper.any MapperSettings.lowercase then Lowercase.lower u.name else u.name) ∧
        (w.name = u.name → w = u) ∧
        OpensFor x.groups ((login c.setup p).transcript h st) v (store ((login c.setup p).run h st).2) u w := by
  have hy : Course c.setup p _ _ := course_of_yields (Dialogue.yields_transcript h (login c.setup p) st)
  have hd := Dialogue.conducts_transcript h (login c.setup p) st
  rw [hv] at hy
  obtain ⟨profile, d, f, hfind, hint, hbd, hbf⟩ := Core.exists_isInternal hc hq hx hn hz hm
  rw [← hp] at hfind
  obtain ⟨u, hux, w, hwx, hname, hsame, hopens⟩ := hy.opensFor hs hd hok hfind hint hr hbd hbf
  rw [seenBy_map] at hname
  exact ⟨u, hux, w, hwx, hname, hsame, hopens⟩

/-! An example: two users whose names differ in case only, and a mapper that lowers names. -/

def namesakes : DirectorySettings where
  name := "staff"
  users := [madeUser "Ada" "secret" [], madeUser "ada" "other" ["admins"]]

def loweringMapper : MapperSettings := { name := "lower", lowercase := true }

def loweringProfile : ProfileSettings where
  name := "main"
  authn := "staff-authn"
  authz := "staff-authz"
  mapper := some "lower"

/-- Everyone may log in. -/
def lowering : Settings where
  profiles := [loweringProfile]
  extensions := { directories := [namesakes], mappers := [loweringMapper] }
  permissions := { allowEveryone := true }

theorem mapsBy_lowering : loweringProfile.MapsBy lowering.extensions (some loweringMapper) :=
  ⟨List.mem_cons_self, rfl⟩

theorem entitles_lowering : loweringProfile.Entitles lowering "Ada" "secret" :=
  ⟨some loweringMapper, mapsBy_lowering, "Ada", .inr ⟨nofun, rfl⟩,
    ⟨namesakes, List.mem_cons_self, by decide, _, List.mem_cons_self, rfl, accepts_madeUser ..⟩,
    namesakes, List.mem_cons_self, by decide, _, List.mem_cons_of_mem _ List.mem_cons_self, by decide, .inl rfl⟩

/-- Ada logs in with her password. -/
def adaLogin : LoginParameters :=
  { LoginParameters.ofCredentials "main" "Ada" ⟨"secret"⟩ with authType := none }

/-- The program, with remote extensions that say nothing. -/
def alone : Dialogue.Handler (Services Unit) := Services.reply fun _ _ => pure (.ok ∅)

def Core.start (c : Core) : Services Unit := c.services (fun _ => ⟨0, 0⟩) ()

theorem succeeds_lowering : ∃ c v, Core.ofSettings (fun _ => []) lowering = .ok c ∧
    ((login c.setup adaLogin).run alone c.start).1 = .ok v ∧ v.succeeded = true := by
  obtain ⟨c, hc⟩ : ∃ c, Core.ofSettings (fun _ => []) lowering = .ok c := ⟨_, rfl⟩
  have hr : c.Reachable (fun _ _ => pure (.ok ∅)) c.start :=
    .start (fun _ => ⟨0, 0⟩) () ObjectId.nth fun n => .ok (Token.nth n)
  have hname : "Ada" ≠ "" := by decide
  have hpassword : "secret" ≠ "" := by decide
  obtain ⟨v, hv, hiff⟩ := Core.succeeded_iff_entitles hc hr rfl (q := loweringProfile) List.mem_cons_self hname
    hpassword none
  exact ⟨c, v, hc, hv, hiff.2 entitles_lowering⟩

/-- The session that Ada opens is for a user of her name in lower case. -/
theorem Core.login_opens_for_verified_ada : ∃ c v, Core.ofSettings (fun _ => []) lowering = .ok c ∧
    ((login c.setup adaLogin).run alone c.start).1 = .ok v ∧ v.succeeded = true ∧
      ∃ u ∈ namesakes.users, ∃ w ∈ namesakes.users, w.name = Lowercase.lower u.name ∧
        OpensFor namesakes.groups ((login c.setup adaLogin).transcript alone c.start) v
          ((login c.setup adaLogin).run alone c.start).2.sessions u w := by
  obtain ⟨c, v, hc, hv, hok⟩ := succeeds_lowering
  refine ⟨c, v, hc, hv, hok, ?_⟩
  obtain ⟨u, hu, w, hw, hname, -, hopens⟩ := Core.login_opens_for_verified (serves_reply fun _ _ => pure (.ok ∅))
    (s := lowering) hc (q := loweringProfile) List.mem_cons_self (x := namesakes) List.mem_cons_self (by decide)
    (by decide) mapsBy_lowering (p := adaLogin) rfl rfl hv hok
  exact ⟨u, hu, w, hw, hname, hopens⟩

/-- Ada's password is verified, but her session is not for her: it is for the namesake, who is in another group. -/
theorem Core.login_opens_for_namesake : ∃ c v, Core.ofSettings (fun _ => []) lowering = .ok c ∧
    loweringProfile.authn = namesakes.authnName ∧ loweringProfile.authz = namesakes.authzName ∧
    loweringProfile.MapsBy lowering.extensions (some loweringMapper) ∧ adaLogin.authRecord = none ∧
    ((login c.setup adaLogin).run alone c.start).1 = .ok v ∧ v.succeeded = true ∧
      ¬ ∃ u ∈ namesakes.users, OpensFor namesakes.groups ((login c.setup adaLogin).transcript alone c.start) v
        ((login c.setup adaLogin).run alone c.start).2.sessions u u := by
  obtain ⟨c, v, hc, hv, hok⟩ := succeeds_lowering
  refine ⟨c, v, hc, by decide, by decide, mapsBy_lowering, rfl, hv, hok, ?_⟩
  rintro ⟨u, -, hopens⟩
  have hy : Course c.setup adaLogin _ _ := course_of_yields (Dialogue.yields_transcript alone _ c.start)
  have hd := Dialogue.conducts_transcript alone (login c.setup adaLogin) c.start
  rw [hv] at hy
  obtain ⟨profile, d, f, hfind, hint, hbd, hbf⟩ := Core.exists_isInternal hc (q := loweringProfile)
    List.mem_cons_self (x := namesakes) List.mem_cons_self (by decide) (by decide) mapsBy_lowering
  obtain ⟨u', -, w, -, hname, -, hopens'⟩ := hy.opensFor (serves_reply fun _ _ => pure (.ok ∅)) hd hok hfind hint rfl
    hbd hbf
  obtain ⟨rfl, hw⟩ := hopens.unique hopens'
  have hb : ByPassword profile adaLogin _ d f "Ada" ⟨"secret"⟩ := byPassword_ofCredentials hint (by decide) (by decide)
  have hada : u'.name = "Ada" :=
    (hbd.find?_users.1 (hy.find?_verified hfind hb (fun _ => isLawful_of_conducts hd) hopens.verified)).2
  rw [hw, seenBy_map, hada] at hname
  revert hname
  decide

end Gatehouse
