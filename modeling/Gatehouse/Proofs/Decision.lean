import Gatehouse.Proofs.Assembly
import Gatehouse.Proofs.Internal
import Gatehouse.Proofs.MadeHashes
/-!
# Who may log in

The decision of an assembled core, in terms of its settings alone: an attempt by name and password succeeds
exactly if the settings entitle the name to it, whatever was done before.
-/

namespace Gatehouse

open Relation

/-! ## Entitlement -/

/-- The mapper of a profile, if it has one. -/
def ProfileSettings.MapsBy (e : ExtensionSettings) (p : ProfileSettings) : Option MapperSettings → Prop
  | none => p.mapper = none
  | some m => m ∈ e.mappers ∧ p.mapper = some m.name

/-- A name without a suffix that is not empty, if it ends with one. -/
def Stripped (suffix : Option String) (name stripped : String) : Prop :=
  (∃ ending, suffix = some ending ∧ ending ≠ "" ∧ name = stripped ++ ending) ∨
    (∀ ending rest, suffix = some ending → ending ≠ "" → name ≠ rest ++ ending) ∧ stripped = name

/-- Everyone may log in, or the user, or a group that the user belongs to in some way. -/
def PermissionSettings.Allows (t : PermissionSettings) (groups : List GroupSettings) (u : UserSettings) : Prop :=
  t.allowEveryone = true ∨ u.name ∈ t.loginUsers ∨ u.name ∈ t.adminUsers ∨
    ∃ a ∈ u.groups, ∃ g, ReflTransGen (MemberOf groups) a g ∧ (g ∈ t.loginGroups ∨ g ∈ t.adminGroups)

/-- A profile lets somebody log in with a name and a password: the authenticating directory accepts the
stripped name, and the authorizing directory knows it, perhaps in lower case, as a user who may log in. -/
def ProfileSettings.Entitles (p : ProfileSettings) (s : Settings) (name password : String) : Prop :=
  ∃ mapper, p.MapsBy s.extensions mapper ∧
    ∃ stripped, Stripped (mapper.bind MapperSettings.stripSuffix) name stripped ∧
      (∃ d ∈ s.extensions.directories, d.authnName = p.authn ∧
        ∃ u ∈ d.users, u.name = stripped ∧ u.Accepts password) ∧
      ∃ d ∈ s.extensions.directories, d.authzName = p.authz ∧
        ∃ u ∈ d.users,
          u.name = (if mapper.any MapperSettings.lowercase then Lowercase.lower stripped else stripped) ∧
          s.permissions.Allows d.groups u

/-- The settings have a profile of a name that lets somebody log in. -/
def Settings.Entitles (s : Settings) (profile name password : String) : Prop :=
  ∃ p ∈ s.profiles, p.name = profile ∧ p.Entitles s name password

/-! ## Suffixes -/

theorem stripped_some_iff {ending name stripped : String} (he : ending ≠ "") :
    Stripped (some ending) name stripped ↔ stripped = stripSuffix ending name := by
  constructor
  · rintro (⟨_, h, -, rfl⟩ | ⟨h, rfl⟩)
    · cases h
      exact (stripSuffix_append ..).symm
    · exact (stripSuffix_of_ne fun rest => h ending rest rfl he).symm
  · rintro rfl
    by_cases hx : ∃ rest, name = rest ++ ending
    · obtain ⟨rest, rfl⟩ := hx
      exact .inl ⟨ending, rfl, he, by rw [stripSuffix_append]⟩
    · have hne : ∀ rest, name ≠ rest ++ ending := fun rest h => hx ⟨rest, h⟩
      refine .inr ⟨?_, stripSuffix_of_ne hne⟩
      rintro _ rest h -
      cases h
      exact hne rest

theorem stripped_none_iff {suffix : Option String} {name stripped : String}
    (hs : ∀ ending ∈ suffix, ending = "") : Stripped suffix name stripped ↔ stripped = name := by
  constructor
  · rintro (⟨ending, rfl, he, -⟩ | ⟨-, h⟩)
    · exact absurd (hs ending rfl) he
    · exact h
  · intro h
    exact .inr ⟨fun ending _ he hne => absurd (hs ending he) hne, h⟩

/-- A mapper that was made from settings strips as they say. -/
theorem stripped_iff {mapper : Option MapperSettings} {name stripped : String} :
    Stripped (mapper.bind MapperSettings.stripSuffix) name stripped ↔
      stripped = strippedBy (mapper.map SuffixMapper.ofSettings) name := by
  have hs : (mapper.map SuffixMapper.ofSettings).bind SuffixMapper.suffix =
      (mapper.bind MapperSettings.stripSuffix).filter fun ending => !ending.isEmpty := by
    cases mapper <;> rfl
  unfold strippedBy
  rw [hs]
  cases mapper.bind MapperSettings.stripSuffix with
  | none => exact stripped_none_iff nofun
  | some ending =>
    by_cases he : ending = ""
    · subst he
      exact stripped_none_iff fun _ h => (Option.some.inj h).symm
    · rw [stripped_some_iff he, Option.filter_some, if_pos (by simpa using he)]
      rfl

theorem seenBy_map (mapper : Option MapperSettings) (name : String) :
    seenBy (mapper.map SuffixMapper.ofSettings) name =
      if mapper.any MapperSettings.lowercase then Lowercase.lower name else name := by
  cases mapper <;> rfl

/-! ## From the settings to the extensions -/

/-- The permissions let a user log in whom the settings allow to. -/
theorem welcomes_iff {t : PermissionSettings} {x : DirectorySettings} {f : Directory} (hb : Directory.Backs x f)
    {w : UserSettings} : (PermissionTable.ofSettings t).Welcomes f w ↔ t.Allows x.groups w := by
  unfold PermissionTable.Welcomes PermissionSettings.Allows PermissionTable.ofSettings
  simp [hb.joins_eq]

section
variable {e : ExtensionSettings} {p : ProfileSettings} {q : Profile} {m : Option SuffixMapper} {d f : Directory}

/-- Profiles of settings are of extensions that are in the program. -/
theorem Profile.Realizes.exists_isInternal (h : q.Realizes e p) : ∃ m d f, q.IsInternal m d f := by
  obtain ⟨d, hd, -⟩ := h.authenticator
  obtain ⟨f, hf, -⟩ := h.authorizer
  cases hm : p.mapper with
  | none => exact ⟨none, d, f, h.unmapped hm, hd, hf⟩
  | some name =>
    obtain ⟨⟨x, hx, hn⟩, hall⟩ := h.mapped name hm
    exact ⟨some (.ofSettings x), d, f, hall x hx hn, hd, hf⟩

theorem Profile.Realizes.exists_mapsBy (h : q.Realizes e p) : ∃ mapper, p.MapsBy e mapper := by
  cases hm : p.mapper with
  | none => exact ⟨none, hm⟩
  | some name =>
    obtain ⟨⟨x, hx, rfl⟩, -⟩ := h.mapped name hm
    exact ⟨some x, hx, hm⟩

theorem Profile.Realizes.mapper_eq (h : q.Realizes e p) (hq : q.IsInternal m d f) {mapper : Option MapperSettings}
    (hm : p.MapsBy e mapper) : m = mapper.map .ofSettings := by
  have hinj : Function.Injective (Option.map Mapper.suffix) :=
    Option.map_injective fun _ _ h => Mapper.suffix.inj h
  refine hinj (hq.mapper.symm.trans ?_)
  cases mapper with
  | none => exact h.unmapped hm
  | some x =>
    obtain ⟨hx, hn⟩ := hm
    exact (h.mapped x.name hn).2 x hx rfl

theorem Profile.Realizes.authenticator_backs (h : q.Realizes e p) (hq : q.IsInternal m d f) :
    (∃ x ∈ e.directories, x.authnName = p.authn) ∧
      ∀ x ∈ e.directories, x.authnName = p.authn → Directory.Backs x d := by
  obtain ⟨d', hd, hx⟩ := h.authenticator
  cases hd.symm.trans hq.authenticator
  exact hx

theorem Profile.Realizes.authorizer_backs (h : q.Realizes e p) (hq : q.IsInternal m d f) :
    (∃ x ∈ e.directories, x.authzName = p.authz) ∧
      ∀ x ∈ e.directories, x.authzName = p.authz → Directory.Backs x f := by
  obtain ⟨f', hf, hx⟩ := h.authorizer
  cases hf.symm.trans hq.authorizer
  exact hx

end

/-- The directories and the permissions of a core let somebody in whom the settings of the profile entitle. -/
theorem Profile.Realizes.letsIn_iff {s : Settings} {p : ProfileSettings} {q : Profile} {m : Option SuffixMapper}
    {d f : Directory} {name password : String} (h : q.Realizes s.extensions p) (hq : q.IsInternal m d f) :
    Login.LetsIn (.ofSettings s.permissions) m d f name ⟨password⟩ ↔ p.Entitles s name password := by
  obtain ⟨⟨x, hx, hxn⟩, hbx⟩ := h.authenticator_backs hq
  obtain ⟨⟨y, hy, hyn⟩, hby⟩ := h.authorizer_backs hq
  constructor
  · rintro ⟨u, hu, w, hw, hwel⟩
    obtain ⟨mapper, hm⟩ := h.exists_mapsBy
    cases h.mapper_eq hq hm
    obtain ⟨hux, hun⟩ := (hbx x hx hxn).find?_users.1 hu.found
    obtain ⟨hwy, hwn⟩ := (hby y hy hyn).find?_users.1 hw
    rw [seenBy_map] at hwn
    exact ⟨mapper, hm, u.name, stripped_iff.2 hun, ⟨x, hx, hxn, u, hux, rfl, hu.accepts⟩,
      y, hy, hyn, w, hwy, hwn, (welcomes_iff (hby y hy hyn)).1 hwel⟩
  · rintro ⟨mapper, hm, stripped, hs, ⟨x, hx, hxn, u, hux, hun, hacc⟩, y, hy, hyn, w, hwy, hwn, hall⟩
    cases h.mapper_eq hq hm
    have hu := (hbx x hx hxn).find?_users.2 ⟨hux, hun.trans (stripped_iff.1 hs)⟩
    have hw := (hby y hy hyn).find?_users.2 ⟨hwy, hwn⟩
    rw [← seenBy_map, ← hun] at hw
    exact ⟨u, ⟨hu, hacc⟩, w, hw, (welcomes_iff (hby y hy hyn)).2 hall⟩

/-! ## Whole attempts -/

namespace Login

section
variable {ρ : Type} {invoke : Remote → Record → StateM ρ (Except Fault Record)} {s : Setup}
  {p : LoginParameters} {st st' : Services ρ} {tr : List Exchange}

/-- The only token that an attempt draws is the next one of the supply. -/
theorem InOrder.token_eq {profile : Profile} {token : Except Fault String} (h : InOrder s profile p tr)
    (hc : Dialogue.Conducts (Services.reply invoke) st tr st') (hx : ⟨.newToken, token⟩ ∈ tr) :
    token = st.tokens st.tokensDrawn := by
  obtain ⟨t, u, rfl⟩ := List.append_of_mem hx
  -- No call is made twice, so no token was drawn before this one.
  refine drawn_of_conducts hc fun y hy hr => h.call?_ne rfl (.inl hy) ?_
  rw [hr]
  rfl

theorem Course.refused_of_idle {r : Except Fault LoginResult} (h : Course s p tr r) (hi : Idle s p) :
    ∃ v, r = .ok v ∧ v.succeeded = false := by
  cases h with
  | refused => exact ⟨_, rfl, rfl⟩
  | granted he | aborted he =>
    obtain ⟨-, _, hr⟩ := he.of_idle hi
    cases hr

theorem byPassword_ofCredentials {q : Profile} {m : Option SuffixMapper} {d f : Directory}
    {profile name password : String} {authType : Option AuthType} (hq : q.IsInternal m d f) (hn : name ≠ "")
    (hw : password ≠ "") :
    ByPassword q { LoginParameters.ofCredentials profile name ⟨password⟩ with authType } m d f name ⟨password⟩ where
  internal := hq
  submits := {
    unsupplied := rfl
    name := by simp [LoginParameters.ofCredentials, LoginParameters.givenName?, LoginParameters.nonEmpty?, hn]
    password := by simp [LoginParameters.ofCredentials, LoginParameters.givenPassword?, Secret.isEmpty, hw]
    accepts := by
      rw [hq.authenticator]
      exact Directory.acceptsPassword_capabilities }
  unremembered := rfl

end

end Login

open Login

/-- By a profile of the settings an attempt answers, and it succeeds exactly if the profile lets the name log in. -/
theorem Core.succeeded_iff_entitles {ρ : Type} {invoke : Remote → Record → StateM ρ (Except Fault Record)}
    {salts : Nat → List UInt8} {s : Settings} {c : Core} (hc : Core.ofSettings salts s = .ok c) {st : Services ρ}
    (hr : c.Reachable invoke st) {token : String} (ht : st.tokens st.tokensDrawn = .ok token)
    {q : ProfileSettings} (hq : q ∈ s.profiles) {name password : String} (hn : name ≠ "") (hw : password ≠ "")
    (authType : Option AuthType) :
    let p := { LoginParameters.ofCredentials q.name name ⟨password⟩ with authType }
    ∃ v, ((login c.setup p).run (Services.reply invoke) st).1 = .ok v ∧
      (v.succeeded = true ↔ q.Entitles s name password) := by
  intro p
  obtain ⟨rfl, hp⟩ := Core.lists_profiles hc
  have hy : Course c.setup p _ _ := course_of_yields (Dialogue.yields_transcript (Services.reply invoke) _ st)
  have hd := Dialogue.conducts_transcript (Services.reply invoke) (login c.setup p) st
  generalize (login c.setup p).transcript (Services.reply invoke) st = tr at hy hd
  obtain ⟨profile, hfind, hreal⟩ := hp.present q hq
  obtain ⟨m, d, f, hint⟩ := hreal.exists_isInternal
  have hfound : c.setup.profiles.find? p.profileName = some profile := hfind
  have hlawful : ∀ x ∈ tr, x.IsLawful (.ofSettings c.settings.permissions) := fun x hx =>
    hr.permissions_eq ▸ isLawful_of_conducts hd hx
  have htoken : ∀ e, ⟨.newToken, .error e⟩ ∉ tr := fun e he =>
    nomatch ((hy.inOrder hfound).token_eq hd he).trans ht
  obtain ⟨v, hv, hiff⟩ := hy.succeeded_iff hfound (byPassword_ofCredentials hint hn hw) hlawful htoken
  exact ⟨v, hv, hiff.trans (hreal.letsIn_iff hint)⟩

/-- Whatever a core was asked to do before, an attempt by name and password answers, and it succeeds exactly if
the settings entitle the name to log in by the profile, as long as a token can be drawn. -/
theorem Core.login_succeeds_iff {ρ : Type} {invoke : Remote → Record → StateM ρ (Except Fault Record)}
    {salts : Nat → List UInt8} {s : Settings} {c : Core} (hc : Core.ofSettings salts s = .ok c) {st : Services ρ}
    (hr : c.Reachable invoke st) {token : String} (ht : st.tokens st.tokensDrawn = .ok token)
    (profile : String) {name password : String} (hn : name ≠ "") (hw : password ≠ "") (authType : Option AuthType) :
    let p := { LoginParameters.ofCredentials profile name ⟨password⟩ with authType }
    ∃ v, ((login c.setup p).run (Services.reply invoke) st).1 = .ok v ∧
      (v.succeeded = true ↔ s.Entitles profile name password) := by
  intro p
  obtain ⟨rfl, hp⟩ := Core.lists_profiles hc
  cases hq : c.profiles.byName.find? profile with
  | none =>
    have hy : Course c.setup p _ _ := course_of_yields (Dialogue.yields_transcript (Services.reply invoke) _ st)
    obtain ⟨v, hv, hno⟩ := hy.refused_of_idle (.noProfile hq)
    refine ⟨v, hv, ?_⟩
    rw [hno]
    refine ⟨nofun, ?_⟩
    rintro ⟨ps, hps, rfl, -⟩
    obtain ⟨q, hf, -⟩ := hp.present ps hps
    cases hf.symm.trans hq
  | some q =>
    obtain ⟨ps, hps, rfl, -⟩ := hp.declared hq
    obtain ⟨v, hv, hiff⟩ := Core.succeeded_iff_entitles hc hr ht hps hn hw authType
    refine ⟨v, hv, fun hok => ⟨ps, hps, rfl, hiff.1 hok⟩, ?_⟩
    -- Whatever settings of the name entitle, the attempt is the same one.
    rintro ⟨ps', hps', hname, hent⟩
    obtain ⟨v', hv', hiff'⟩ := Core.succeeded_iff_entitles hc hr ht hps' hn hw authType
    rw [hname] at hv'
    cases hv.symm.trans hv'
    exact hiff'.2 hent

/-! An example: the sailors among the crew may log in, by names that a mapper strips and lowers. -/

/-- A user with a password of which the hash was made. -/
def madeUser (name password : String) (groups : List String) : UserSettings where
  name := name
  passwordHash := PasswordHash.make password (List.replicate 16 7)
  groups := groups

theorem accepts_madeUser (name password : String) (groups : List String) :
    (madeUser name password groups).Accepts password where
  verified := by
    show PasswordHash.verify password (PasswordHash.make password (List.replicate 16 7)) = .ok true
    rw [PasswordHash.verify_make password password (by decide) (by decide), beq_self_eq_true]
  enabled := rfl
  unlocked := rfl
  unexpired := rfl

def corpMapper : MapperSettings := { name := "corp", stripSuffix := some "@corp", lowercase := true }

def crew : Settings where
  profiles := [{ name := "main", authn := "staff-authn", authz := "staff-authz", mapper := some "corp" }]
  extensions := {
    directories := [{ name := "staff", users := [madeUser "ada" "secret" ["sailors"], madeUser "bob" "secret" []] }]
    mappers := [corpMapper] }
  permissions := { loginGroups := ["sailors"] }

theorem entitles_crew : crew.Entitles "main" "ada@corp" "secret" :=
  ⟨_, List.mem_cons_self, rfl, some corpMapper, ⟨List.mem_cons_self, rfl⟩, "ada",
    .inl ⟨"@corp", rfl, by decide, by decide⟩,
    ⟨_, List.mem_cons_self, by decide, _, List.mem_cons_self, rfl, accepts_madeUser ..⟩,
    _, List.mem_cons_self, by decide, _, List.mem_cons_self, by decide,
    .inr (.inr (.inr ⟨"sailors", List.mem_cons_self, "sailors", .refl, .inl List.mem_cons_self⟩))⟩

/-- Bob is no sailor. -/
theorem not_entitles_crew : ¬ crew.Entitles "main" "bob@corp" "secret" := by
  rintro ⟨q, hq, -, mapper, hm, stripped, hs, -, d, hd, -, u, hu, hname, hallows⟩
  cases List.mem_singleton.1 hq
  cases List.mem_singleton.1 hd
  cases mapper with
  | none => cases hm
  | some m =>
    cases List.mem_singleton.1 hm.1
    have hbob : stripped = "bob" := ((stripped_some_iff (by decide)).1 hs).trans (by decide)
    subst hbob
    have hgroups : ∀ u ∈ [madeUser "ada" "secret" ["sailors"], madeUser "bob" "secret" []],
        u.name = Lowercase.lower "bob" → u.groups = [] := by decide
    rcases hallows with h | h | h | ⟨a, ha, -⟩
    · cases h
    · cases h
    · cases h
    · rw [hgroups u hu hname] at ha
      cases ha

/-- Ada logs in, and Bob does not, although his password is right. -/
theorem Core.login_succeeds_iff_staff :
    let invoke : Remote → Record → StateM Unit (Except Fault Record) := fun _ _ => pure (.ok ∅)
    let p (name : String) := { LoginParameters.ofCredentials "main" name ⟨"secret"⟩ with authType := none }
    ∃ c, Core.ofSettings (fun _ => []) crew = .ok c ∧ ∃ st : Services Unit, c.Reachable invoke st ∧
      (∃ v, ((login c.setup (p "ada@corp")).run (Services.reply invoke) st).1 = .ok v ∧ v.succeeded = true) ∧
      ∃ v, ((login c.setup (p "bob@corp")).run (Services.reply invoke) st).1 = .ok v ∧ v.succeeded = false := by
  intro invoke p
  obtain ⟨c, hc⟩ : ∃ c, Core.ofSettings (fun _ => []) crew = .ok c := ⟨_, rfl⟩
  have hr : c.Reachable invoke { c.services (fun _ => default) () with tokens := fun n => .ok (Token.nth n) } :=
    .start (fun _ => default) () ObjectId.nth fun n => .ok (Token.nth n)
  have hpassword : "secret" ≠ "" := by decide
  have hada : "ada@corp" ≠ "" := by decide
  have hbob : "bob@corp" ≠ "" := by decide
  obtain ⟨v, hv, hiff⟩ := Core.login_succeeds_iff hc hr rfl "main" hada hpassword none
  obtain ⟨w, hw, hiff'⟩ := Core.login_succeeds_iff hc hr rfl "main" hbob hpassword none
  refine ⟨c, hc, _, hr, ⟨v, hv, hiff.2 entitles_crew⟩, w, hw, ?_⟩
  rw [← Bool.not_eq_true, hiff']
  exact not_entitles_crew

end Gatehouse
