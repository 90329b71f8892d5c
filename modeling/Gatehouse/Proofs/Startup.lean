import Gatehouse.Proofs.Assembly
/-!
# Which settings a core is assembled from

Main statement: a core is assembled from exactly the settings that are consistent. From others nothing is assembled,
and the fault is that of the first violation: first the directories are gone through, then the mappers, then what the
profiles refer to, and at last the names of the profiles.
-/

namespace Gatehouse

/-! ## Violations -/

/-- What can be wrong with settings. -/
inductive Violation where
  | repeatedUser (directory user : String)
  | repeatedDirectory (name : String)
  | repeatedMapper (name : String)
  | unknownExtension (profile role name : String)
  | repeatedProfile (name : String)
deriving DecidableEq, Repr

namespace Violation

def fault : Violation → Fault
  | repeatedUser directory user =>
    .configuration ("Duplicate user '" ++ user ++ "' in internal directory '" ++ directory ++ "'")
  | repeatedDirectory name => Registry.alreadyRegistered .authenticator (name ++ "-authn")
  | repeatedMapper name => Registry.alreadyRegistered .mapper name
  | unknownExtension profile role name => Profile.unknownExtension profile role name
  | repeatedProfile name => .configuration ("Duplicate authentication profile '" ++ name ++ "'")

/-- What is registered twice is in conflict, and all else is a matter of the configuration. -/
def kind : Violation → FaultKind
  | repeatedDirectory _ | repeatedMapper _ => .conflict
  | repeatedUser .. | unknownExtension .. | repeatedProfile _ => .configuration

theorem kind_fault (v : Violation) : v.fault.kind = v.kind := by
  cases v <;> rfl

end Violation

/-- The names of a list that were seen before or stand earlier in it. -/
def repeats (seen : List String) : List String → List String
  | [] => []
  | x :: names => (if x ∈ seen then [x] else []) ++ repeats (x :: seen) names

theorem repeats_eq_nil_iff {seen names : List String} :
    repeats seen names = [] ↔ names.Nodup ∧ ∀ x ∈ names, x ∉ seen := by
  induction names generalizing seen with
  | nil => simp [repeats]
  | cons x names ih =>
    simp only [repeats, List.append_eq_nil_iff, ih, List.nodup_cons, List.mem_cons, not_or]
    grind

theorem repeats_nil_eq_nil_iff {names : List String} : repeats [] names = [] ↔ names.Nodup := by
  simp [repeats_eq_nil_iff]

/-- The violations of directories that come after others of some names. -/
def directoryViolations (seen : List String) : List DirectorySettings → List Violation
  | [] => []
  | d :: ds =>
    (repeats [] (d.users.map UserSettings.name)).map (.repeatedUser d.name)
      ++ (if d.name ∈ seen then [.repeatedDirectory d.name] else [])
      ++ directoryViolations (d.name :: seen) ds

/-- The violation of a profile that refers to what is not among the names that there are. -/
def unknownReference (profile role : String) (names : List String) (name : String) : List Violation :=
  if name ∈ names then [] else [.unknownExtension profile role name]

/-- The violations of a profile. -/
def ProfileSettings.violations (e : ExtensionSettings) (p : ProfileSettings) : List Violation :=
  unknownReference p.name "authenticator" (e.directories.map DirectorySettings.authnName) p.authn
    ++ unknownReference p.name "authorizer" (e.directories.map DirectorySettings.authzName) p.authz
    ++ p.mapper.toList.flatMap (unknownReference p.name "mapper" (e.mappers.map MapperSettings.name))

/-- All violations of settings, in the order in which they are looked for. -/
def Settings.violations (s : Settings) : List Violation :=
  directoryViolations [] s.extensions.directories
    ++ (repeats [] (s.extensions.mappers.map MapperSettings.name)).map .repeatedMapper
    ++ s.profiles.flatMap (ProfileSettings.violations s.extensions)
    ++ (repeats [] (s.profiles.map ProfileSettings.name)).map .repeatedProfile

/-- Settings are consistent: no name stands twice, and profiles refer to what there is. -/
structure Settings.Consistent (s : Settings) : Prop where
  users : ∀ d ∈ s.extensions.directories, (d.users.map UserSettings.name).Nodup
  directories : (s.extensions.directories.map DirectorySettings.name).Nodup
  mappers : (s.extensions.mappers.map MapperSettings.name).Nodup
  profiles : (s.profiles.map ProfileSettings.name).Nodup
  authn : ∀ p ∈ s.profiles, ∃ d ∈ s.extensions.directories, p.authn = d.name ++ "-authn"
  authz : ∀ p ∈ s.profiles, ∃ d ∈ s.extensions.directories, p.authz = d.name ++ "-authz"
  mapper : ∀ p ∈ s.profiles, ∀ name, p.mapper = some name → ∃ m ∈ s.extensions.mappers, m.name = name

theorem directoryViolations_eq_nil_iff {seen : List String} {ds : List DirectorySettings} :
    directoryViolations seen ds = [] ↔ (∀ d ∈ ds, (d.users.map UserSettings.name).Nodup) ∧
      repeats seen (ds.map DirectorySettings.name) = [] := by
  induction ds generalizing seen with
  | nil => simp [directoryViolations, repeats]
  | cons d ds ih =>
    simp only [directoryViolations, repeats, List.map_cons, List.append_eq_nil_iff, List.map_eq_nil_iff,
      repeats_nil_eq_nil_iff, ih, List.forall_mem_cons, ite_eq_right_iff, reduceCtorEq, imp_false]
    tauto

theorem unknownReference_eq_nil_iff {profile role name : String} {names : List String} :
    unknownReference profile role names name = [] ↔ name ∈ names := by
  unfold unknownReference
  split <;> simp_all

theorem ProfileSettings.violations_eq_nil_iff {e : ExtensionSettings} {p : ProfileSettings} :
    p.violations e = [] ↔ (∃ d ∈ e.directories, p.authn = d.name ++ "-authn") ∧
      (∃ d ∈ e.directories, p.authz = d.name ++ "-authz") ∧
      ∀ name, p.mapper = some name → ∃ m ∈ e.mappers, m.name = name := by
  simp only [violations, List.append_eq_nil_iff, unknownReference_eq_nil_iff, List.flatMap_eq_nil_iff,
    Option.mem_toList, List.mem_map, and_assoc, DirectorySettings.authnName, DirectorySettings.authzName,
    eq_comm (a := p.authn), eq_comm (a := p.authz)]

/-- Settings without violations are those that are consistent. -/
theorem Settings.violations_eq_nil_iff {s : Settings} : s.violations = [] ↔ s.Consistent := by
  simp only [violations, List.append_eq_nil_iff, directoryViolations_eq_nil_iff, List.map_eq_nil_iff,
    repeats_nil_eq_nil_iff, List.flatMap_eq_nil_iff, ProfileSettings.violations_eq_nil_iff]
  constructor
  · rintro ⟨⟨⟨⟨hu, hd⟩, hm⟩, hp⟩, hn⟩
    exact ⟨hu, hd, hm, hn, fun p h => (hp p h).1, fun p h => (hp p h).2.1, fun p h => (hp p h).2.2⟩
  · rintro ⟨hu, hd, hm, hn, ha, hz, hmap⟩
    exact ⟨⟨⟨⟨hu, hd⟩, hm⟩, fun p h => ⟨ha p h, hz p h, hmap p h⟩⟩, hn⟩

-- The directories are looked at before the profiles.
example : (Settings.violations {
    profiles := [{ name := "main", authn := "crew-authn", authz := "staff-authz" }]
    extensions := { directories := [{ name := "staff" }, { name := "staff" }] } }) =
    [.repeatedDirectory "staff", .unknownExtension "main" "authenticator" "crew-authn"] := by
  decide

/-! ## Results that answer to violations -/

/-- A result is fine if there is no violation, and else it is the fault of the first one. -/
inductive Meets {α : Type} : Except Fault α → List Violation → Prop
  | fine (a : α) : Meets (.ok a) []
  | faulty (v : Violation) (vs : List Violation) : Meets (.error v.fault) (v :: vs)

namespace Meets

variable {α β : Type} {x : Except Fault α} {vs ws : List Violation}

theorem ok_iff (h : Meets x vs) : (∃ a, x = .ok a) ↔ vs = [] := by
  cases h with
  | fine a => simp
  | faulty v vs => simp

theorem error_iff (h : Meets x vs) {e : Fault} : x = .error e ↔ ∃ v, vs.head? = some v ∧ e = v.fault := by
  cases h with
  | fine a => simp
  | faulty v vs => simp [eq_comm]

theorem bind {f : α → Except Fault β} (h : Meets x vs) (hf : ∀ a, x = .ok a → Meets (f a) ws) :
    Meets (x >>= f) (vs ++ ws) := by
  cases h with
  | fine a => exact hf a rfl
  | faulty v vs => exact .faulty v (vs ++ ws)

theorem bind_fine {f : α → β} (h : Meets x vs) : Meets (x >>= fun a => pure (f a)) vs := by
  cases h with
  | fine a => exact .fine (f a)
  | faulty v vs => exact .faulty v vs

/-- Results that are gone through answer to all their violations. -/
theorem mapM {f : α → Except Fault β} {violations : α → List Violation} (h : ∀ a, Meets (f a) (violations a))
    (as : List α) : Meets (as.mapM f) (as.flatMap violations) := by
  induction as with
  | nil => exact .fine []
  | cons a as ih =>
    rw [List.mapM_cons, List.flatMap_cons]
    exact (h a).bind fun b _ => ih.bind_fine

end Meets

/-! ## Names that must not stand twice -/

theorem Table.contains_insert_iff {α : Type} {t : Table String α} {seen : List String} {name : String} {a : α}
    (ht : ∀ k, t.contains k = true ↔ k ∈ seen) (k : String) :
    (t.insert name a).contains k = true ↔ k ∈ name :: seen := by
  have hk := ht k
  unfold Table.contains at hk ⊢
  rw [Table.find?_insert, List.mem_cons]
  split
  · next hn => simp [hn]
  · next hn => simp [hk, Ne.symm hn]

theorem Directory.meets_usersByName {directory : String} (us : List UserSettings) {t : Table String UserSettings}
    {seen : List String} (ht : ∀ k, t.contains k = true ↔ k ∈ seen) :
    Meets (usersByName directory us t) ((repeats seen (us.map UserSettings.name)).map (.repeatedUser directory)) := by
  induction us generalizing t seen with
  | nil => exact .fine t
  | cons u us ih =>
    unfold usersByName
    rw [List.map_cons, repeats, List.map_append]
    by_cases hu : u.name ∈ seen
    · rw [if_pos ((ht _).2 hu), if_pos hu]
      exact .faulty (.repeatedUser directory u.name) _
    · rw [if_neg (mt (ht _).1 hu), if_neg hu]
      exact ih (Table.contains_insert_iff ht)

theorem Profiles.meets_addAll (ps : List Profile) {t : Profiles} {seen : List String}
    (ht : ∀ k, t.byName.contains k = true ↔ k ∈ seen) :
    Meets (addAll ps t) ((repeats seen (ps.map Profile.name)).map .repeatedProfile) := by
  induction ps generalizing t seen with
  | nil => exact .fine t
  | cons p ps ih =>
    unfold addAll
    rw [List.map_cons, repeats, List.map_append]
    by_cases hp : p.name ∈ seen
    · rw [if_pos ((ht _).2 hp), if_pos hp]
      exact .faulty (.repeatedProfile p.name) _
    · rw [if_neg (mt (ht _).1 hp), if_neg hp]
      exact ih (Table.contains_insert_iff ht)

/-! ## Registration -/

namespace Registry

variable {g : Registry} {salts : Nat → List UInt8} {ds : List (DirectorySettings × Nat)} {ms : List MapperSettings}
  {vs ws : List Violation}

theorem meets_register_bind {α : Type} {x : ExceptT Fault (StateM Registry) α} {y : α → Registration}
    (hx : Meets (x.run.run g).1 vs) (hy : ∀ a m, x.run.run g = (.ok a, m) → Meets (m.register (y a)).1 ws) :
    Meets (g.register (x >>= y)).1 (vs ++ ws) := by
  unfold register at hy ⊢
  rw [ExceptT.run_bind, StateT.run_bind]
  rcases h : x.run.run g with ⟨r, m⟩
  rw [h] at hx
  cases hx with
  | fine a => exact hy a m h
  | faulty v vs => exact .faulty v (vs ++ ws)

/-- An extension is registered unless its name is taken. -/
theorem meets_ite {taken : Bool} {v : Violation} {c : Prop} [Decidable c] (ht : taken = true ↔ c) (g' : Registry) :
    Meets (if taken then (.error v.fault, g) else (.ok (), g') : Except Fault Unit × Registry).1
      (if c then [v] else []) := by
  by_cases hc : c
  · rw [if_pos (ht.2 hc), if_pos hc]
    exact .faulty v []
  · rw [if_neg (mt ht.1 hc), if_neg hc]
    exact .fine ()

theorem meets_ofSettings (salt : List UInt8) (d : DirectorySettings) :
    Meets (Directory.ofSettings salt d) ((repeats [] (d.users.map UserSettings.name)).map (.repeatedUser d.name)) := by
  exact (Directory.meets_usersByName d.users (by simp [Table.contains])).bind_fine

theorem mem_map_append_iff {names : List String} {name suffix : String} :
    name ++ suffix ∈ names.map (· ++ suffix) ↔ name ∈ names :=
  List.mem_map_of_injective fun _ _ => (String.append_left_inj suffix).1

theorem Bears.contains_authenticators (hg : g.Bears salts ds ms) {name : String} :
    g.authenticators.contains (name ++ "-authn") = true ↔ name ∈ ds.map fun x => x.1.name := by
  have hnames : ds.map (fun x => x.1.authnName) = (ds.map fun x => x.1.name).map (· ++ "-authn") := by
    simp [DirectorySettings.authnName]
  rw [hg.authenticators.contains_iff, hnames, mem_map_append_iff]

theorem Bears.contains_authorizers (hg : g.Bears salts ds ms) {name : String} :
    g.authorizers.contains (name ++ "-authz") = true ↔ name ∈ ds.map fun x => x.1.name := by
  have hnames : ds.map (fun x => x.1.authzName) = (ds.map fun x => x.1.name).map (· ++ "-authz") := by
    simp [DirectorySettings.authzName]
  rw [hg.authorizers.contains_iff, hnames, mem_map_append_iff]

theorem Bears.meets_addAuthenticator (hg : g.Bears salts ds ms) {s : DirectorySettings} {d : Directory}
    (hd : Directory.Backs s d) :
    Meets (g.register (addAuthenticator (.directory d))).1
      (if s.name ∈ ds.map (fun x => x.1.name) then [.repeatedDirectory s.name] else []) := by
  have hfault : alreadyRegistered .authenticator d.authnName = (Violation.repeatedDirectory s.name).fault := by
    rw [hd.authnName]
    rfl
  rw [register_addAuthenticator, Authenticator.name, hfault]
  refine meets_ite ?_ _
  rw [hd.authnName]
  exact hg.contains_authenticators

/-- A directory whose name is free as that of an authenticator is registered as an authorizer as well. -/
theorem Bears.meets_addAuthorizer (hg : g.Bears salts ds ms) {s : DirectorySettings} {d : Directory}
    (hd : Directory.Backs s d) {g' : Registry} (h : g.register (addAuthenticator (.directory d)) = (.ok (), g')) :
    Meets (g'.register (addAuthorizer (.directory d))).1 [] := by
  obtain ⟨hn, rfl⟩ := addAuthenticator_inv h
  replace hn : g.authenticators.find? d.authnName = none := hn
  have hfree : g.authorizers.contains d.authzName = false := by
    rw [← Bool.not_eq_true, hd.authzName, DirectorySettings.authzName, hg.contains_authorizers,
      ← hg.contains_authenticators, ← DirectorySettings.authnName, ← hd.authnName]
    simp [Table.contains, hn]
  rw [register_addAuthorizer, Authorizer.name, hfree]
  exact .fine ()

/-- A directory is registered if no name stands twice among its users and no directory before has its name. -/
theorem Bears.meets_addDirectory (hg : g.Bears salts ds ms) (x : DirectorySettings × Nat) :
    Meets (g.register (Registry.addDirectory (salts x.2) x.1)).1
      ((repeats [] (x.1.users.map UserSettings.name)).map (.repeatedUser x.1.name)
        ++ if x.1.name ∈ ds.map (fun y => y.1.name) then [.repeatedDirectory x.1.name] else []) := by
  refine meets_register_bind (x := addDirectory.liftExcept (Directory.ofSettings (salts x.2) x.1))
    (meets_ofSettings (salts x.2) x.1) ?_
  intro d m h
  have hd : Directory.Backs x.1 d := Directory.backs_of_ofSettings (congrArg Prod.fst h)
  have hm : g = m := congrArg Prod.snd h
  subst hm
  have hroles := meets_register_bind (hg.meets_addAuthenticator hd) fun _ _ hr => hg.meets_addAuthorizer hd hr
  rwa [List.append_nil] at hroles

theorem Bears.meets_addDirectories (hg : g.Bears salts ds ms) (l : List (DirectorySettings × Nat)) :
    Meets (g.register (l.forM fun x => Registry.addDirectory (salts x.2) x.1)).1
      (directoryViolations (ds.map fun x => x.1.name) (l.map Prod.fst)) := by
  induction l generalizing g ds with
  | nil => exact .fine ()
  | cons x l ih => exact meets_register_bind (hg.meets_addDirectory x) fun _ _ hr => ih (hg.addDirectory hr)

theorem Bears.meets_addMapper (hg : g.Bears salts ds ms) (s : MapperSettings) :
    Meets (g.register (Registry.addMapper (.suffix (.ofSettings s)))).1
      (if s.name ∈ ms.map MapperSettings.name then [.repeatedMapper s.name] else []) := by
  rw [register_addMapper]
  exact meets_ite (v := .repeatedMapper s.name) (hg.mappers.contains_iff (k := s.name)) _

theorem Bears.meets_addMappers (hg : g.Bears salts ds ms) (l : List MapperSettings) :
    Meets (g.register (l.forM fun s => Registry.addMapper (.suffix (.ofSettings s)))).1
      ((repeats (ms.map MapperSettings.name) (l.map MapperSettings.name)).map .repeatedMapper) := by
  induction l generalizing g ms with
  | nil => exact .fine ()
  | cons s l ih =>
    rw [List.map_cons, repeats, List.map_append]
    refine meets_register_bind ?_ fun _ _ hr => ih (hg.addMapper hr)
    rw [apply_ite (List.map Violation.repeatedMapper)]
    exact hg.meets_addMapper s

theorem meets_addBuiltins (salts : Nat → List UInt8) (s : ExtensionSettings) :
    Meets (Registry.register {} (addBuiltins salts s)).1
      (directoryViolations [] s.directories
        ++ (repeats [] (s.mappers.map MapperSettings.name)).map .repeatedMapper) := by
  refine meets_register_bind ?_ fun _ g hr => ?_
  · have h : Meets (register {} (s.directories.zipIdx.forM fun x => addDirectory (salts x.2) x.1)).1 _ :=
      bears_empty.meets_addDirectories s.directories.zipIdx
    rwa [List.zipIdx_map_fst] at h
  · exact (bears_empty.addDirectories hr).meets_addMappers s.mappers

end Registry

/-! ## Profiles -/

namespace Profile

section
variable {α : Type} {profile role : String} {t : Table String α} {names : List String}

theorem meets_resolve (ht : ∀ k, t.contains k = true ↔ k ∈ names) (name : String) :
    Meets (resolve profile role t name) (unknownReference profile role names name) := by
  have hk := ht name
  unfold resolve unknownReference
  cases hf : t.find? name with
  | none =>
    have hn : name ∉ names := by simpa [Table.contains, hf] using hk
    rw [if_neg hn]
    exact .faulty (.unknownExtension profile role name) []
  | some a =>
    have hn : name ∈ names := by simpa [Table.contains, hf] using hk
    rw [if_pos hn]
    exact .fine a

theorem meets_resolve_option (ht : ∀ k, t.contains k = true ↔ k ∈ names) (name : Option String) :
    Meets (name.mapM (resolve profile role t)) (name.toList.flatMap (unknownReference profile role names)) := by
  cases name with
  | none => exact .fine none
  | some name =>
    rw [Option.toList_some, List.flatMap_singleton]
    show Meets (some <$> resolve profile role t name) _
    rw [map_eq_pure_bind]
    exact (meets_resolve ht name).bind_fine

end

variable {g : Registry} {salts : Nat → List UInt8} {e : ExtensionSettings}
  (hg : g.Bears salts e.directories.zipIdx e.mappers)
include hg

theorem meets_ofSettings (p : ProfileSettings) : Meets (ofSettings g p) (p.violations e) := by
  have ha : ∀ k, g.authenticators.contains k = true ↔ k ∈ e.directories.map DirectorySettings.authnName := by
    intro k
    rw [hg.holds.authenticators.contains_iff, List.zipIdx_map_fst]
  have hz : ∀ k, g.authorizers.contains k = true ↔ k ∈ e.directories.map DirectorySettings.authzName := by
    intro k
    rw [hg.holds.authorizers.contains_iff, List.zipIdx_map_fst]
  have hm : ∀ k, g.mappers.contains k = true ↔ k ∈ e.mappers.map MapperSettings.name := fun _ => hg.mappers.contains_iff
  unfold ofSettings ProfileSettings.violations
  rw [List.append_assoc]
  refine (meets_resolve ha p.authn).bind fun a _ => (meets_resolve hz p.authz).bind fun z _ => ?_
  exact (meets_resolve_option hm p.mapper).bind_fine

end Profile

/-- A profile is bound to what the settings of the extensions that it names come to. -/
structure Profile.BoundTo (salts : Nat → List UInt8) (e : ExtensionSettings) (s : ProfileSettings) (p : Profile) :
    Prop where
  name : p.name = s.name
  authenticator : ∃ n x d, e.directories[n]? = some x ∧ x.authnName = s.authn ∧
    Directory.ofSettings (salts n) x = .ok d ∧ p.authenticator = .directory d
  authorizer : ∃ n x d, e.directories[n]? = some x ∧ x.authzName = s.authz ∧
    Directory.ofSettings (salts n) x = .ok d ∧ p.authorizer = .directory d
  unmapped : s.mapper = none → p.mapper = none
  mapped : ∀ name, s.mapper = some name → ∃ m ∈ e.mappers, m.name = name ∧ p.mapper = some (.suffix (.ofSettings m))

section
variable {g : Registry} {salts : Nat → List UInt8} {e : ExtensionSettings}
  (hg : g.Bears salts e.directories.zipIdx e.mappers)
include hg

theorem Profile.boundTo_of_ofSettings {s : ProfileSettings} {p : Profile} (h : Profile.ofSettings g s = .ok p) :
    p.BoundTo salts e s := by
  obtain ⟨a, ha, h⟩ := Except.bind_eq_ok_iff.1 h
  obtain ⟨z, hz, h⟩ := Except.bind_eq_ok_iff.1 h
  obtain ⟨m, hm, h⟩ := Except.bind_eq_ok_iff.1 h
  cases h
  obtain ⟨⟨x, n⟩, hx, hxn, d, hd, rfl⟩ := hg.authenticators.declared (resolve_eq_ok ha)
  obtain ⟨⟨y, k⟩, hy, hyn, f, hf, rfl⟩ := hg.authorizers.declared (resolve_eq_ok hz)
  refine ⟨rfl, ⟨n, x, d, List.mk_mem_zipIdx_iff_getElem?.1 hx, hxn, hd, rfl⟩,
    ⟨k, y, f, List.mk_mem_zipIdx_iff_getElem?.1 hy, hyn, hf, rfl⟩, ?_, ?_⟩
  · intro hn
    rw [hn] at hm
    cases hm
    rfl
  · intro name hn
    rw [hn] at hm
    obtain ⟨m, hr, hm⟩ := Except.bind_eq_ok_iff.1 hm
    cases hm
    obtain ⟨x, hx, hxn, rfl⟩ := hg.mappers.declared (resolve_eq_ok hr)
    exact ⟨x, hx, hxn, rfl⟩

theorem Profiles.meets_ofSettings (ss : List ProfileSettings) :
    Meets (Profiles.ofSettings g ss) (ss.flatMap (ProfileSettings.violations e)
      ++ (repeats [] (ss.map ProfileSettings.name)).map .repeatedProfile) := by
  refine (Meets.mapM (Profile.meets_ofSettings hg) ss).bind fun ps hps => ?_
  have hnames : ps.map Profile.name = ss.map ProfileSettings.name := by
    have hs := (Except.forall₂_of_mapM_eq_ok hps).imp fun _ _ h => (Profile.boundTo_of_ofSettings hg h).name
    exact (List.forall₂_eq_eq_eq ▸ List.forall₂_map_left_iff.2 (List.forall₂_map_right_iff.2 hs.flip))
  rw [← hnames]
  exact Profiles.meets_addAll ps (by simp [Table.contains])

end

/-! ## The core -/

namespace Core

variable {salts : Nat → List UInt8} {s : Settings} {c : Core}

theorem meets_ofSettings (salts : Nat → List UInt8) (hdb : s.database = none) :
    Meets (Core.ofSettings salts s) s.violations := by
  have hr := Registry.meets_addBuiltins salts s.extensions
  unfold Core.ofSettings
  rcases h : Registry.register {} (Registry.addBuiltins salts s.extensions) with ⟨r, g⟩
  rw [h] at hr
  unfold Settings.violations
  rw [List.append_assoc]
  refine hr.bind fun ⟨⟩ hok => ?_
  subst hok
  rw [hdb]
  exact (Profiles.meets_ofSettings (Registry.bears_of_addBuiltins h) s.profiles).bind_fine

theorem lists_bound (h : Core.ofSettings salts s = .ok c) :
    c.profiles.byName.Lists ProfileSettings.name (fun q p => p.BoundTo salts s.extensions q) s.profiles := by
  obtain ⟨-, hr, hp⟩ := Core.eq_of_ofSettings h
  have hg := Registry.bears_of_addBuiltins hr
  exact Profiles.lists_ofSettings Profile.BoundTo.name (fun _ _ => Profile.boundTo_of_ofSettings hg) hp

/-- Without a database to connect to, a core is assembled from exactly the settings that are consistent. The fault with
others is that of their first violation. The profiles of the core are those of the settings, each under its name and
bound to the extensions that it names. -/
theorem assembled_iff_consistent (salts : Nat → List UInt8) (hdb : s.database = none) :
    ((∃ c, Core.ofSettings salts s = .ok c) ↔ s.Consistent) ∧
      (∀ e, Core.ofSettings salts s = .error e ↔
        ∃ v, s.violations.head? = some v ∧ e = v.fault ∧ e.kind = v.kind) ∧
      ∀ c, Core.ofSettings salts s = .ok c → c.profiles.find? none = none ∧
        (∀ name, (c.profiles.find? (some name)).isSome ↔ name ∈ s.profiles.map ProfileSettings.name) ∧
        ∀ q ∈ s.profiles, ∃ p, c.profiles.find? (some q.name) = some p ∧ p.BoundTo salts s.extensions q := by
  have h := meets_ofSettings salts hdb
  refine ⟨h.ok_iff.trans Settings.violations_eq_nil_iff, ?_, ?_⟩
  · intro e
    rw [h.error_iff]
    constructor
    · rintro ⟨v, hv, rfl⟩
      exact ⟨v, hv, rfl, v.kind_fault⟩
    · rintro ⟨v, hv, he, -⟩
      exact ⟨v, hv, he⟩
  · intro c hc
    have hl := lists_bound hc
    exact ⟨rfl, fun name => hl.contains_iff, hl.present⟩

/-- A directory, a mapper and a profile that names them. -/
theorem assembled_iff_consistent_staff :
    let q : ProfileSettings := { name := "main", authn := "staff-authn", authz := "staff-authz", mapper := some "strip" }
    let s : Settings := {
      profiles := [q]
      extensions := {
        directories := [{ name := "staff", users := [{ name := "ada", passwordHash := "" }] }]
        mappers := [{ name := "strip", stripSuffix := some "@example" }] } }
    s.database = none ∧ ∃ c p, Core.ofSettings (fun _ => []) s = .ok c ∧ c.profiles.find? (some "main") = some p ∧
      p.BoundTo (fun _ => []) s.extensions q := by
  intro q s
  obtain ⟨hiff, -, hbound⟩ := assembled_iff_consistent (s := s) (fun _ => []) rfl
  have hs : s.Consistent := Settings.violations_eq_nil_iff.1 (by decide)
  obtain ⟨c, hc⟩ := hiff.2 hs
  obtain ⟨-, -, hprofiles⟩ := hbound c hc
  obtain ⟨p, hp, hb⟩ := hprofiles q List.mem_cons_self
  exact ⟨rfl, c, p, hc, hp, hb⟩

end Core

end Gatehouse
