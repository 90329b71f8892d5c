import Gatehouse.Core
import Gatehouse.Proofs.Groups
import Mathlib.Data.List.Forall2
/-!
# What the settings come to

A core that is assembled from settings has exactly the extensions and profiles that the settings declare,
each under its name, since a name that stands twice is refused. Of two groups of one name in a directory
the later one counts.
-/

namespace Gatehouse

theorem Except.bind_eq_ok_iff {ε α β : Type} {x : Except ε α} {f : α → Except ε β} {b : β} :
    x >>= f = .ok b ↔ ∃ a, x = .ok a ∧ f a = .ok b := by
  rcases x with e | a
  · exact ⟨nofun, fun ⟨_, h, _⟩ => nomatch h⟩
  · exact ⟨fun h => ⟨a, rfl, h⟩, fun ⟨_, h, hf⟩ => by cases h; exact hf⟩

theorem Except.forall₂_of_mapM_eq_ok {ε α β : Type} {f : α → Except ε β} {as : List α} {bs : List β}
    (h : as.mapM f = .ok bs) : List.Forall₂ (fun a b => f a = .ok b) as bs := by
  induction as generalizing bs with
  | nil =>
    cases h
    exact .nil
  | cons a as ih =>
    rw [List.mapM_cons] at h
    obtain ⟨b, hb, h⟩ := Except.bind_eq_ok_iff.1 h
    obtain ⟨bs, hbs, h⟩ := Except.bind_eq_ok_iff.1 h
    cases h
    exact .cons hb (ih hbs)

/-! ## Declarations by name -/

namespace Table

variable {α β : Type}

/-- A table holds what declarations come to, each under its name, and nothing else. -/
structure Lists (t : Table String α) (name : β → String) (R : β → α → Prop) (bs : List β) : Prop where
  declared : ∀ {k a}, t.find? k = some a → ∃ b ∈ bs, name b = k ∧ R b a
  present : ∀ b ∈ bs, ∃ a, t.find? (name b) = some a ∧ R b a

section
variable {t : Table String α} {name : β → String} {R : β → α → Prop} {bs cs : List β} {b : β} {a : α}

theorem lists_empty : Lists (∅ : Table String α) name R [] := ⟨nofun, nofun⟩

theorem Lists.insert (h : t.Lists name R bs) (hn : t.find? (name b) = none) (hr : R b a) :
    (t.insert (name b) a).Lists name R (b :: bs) where
  declared hf := by
    rw [find?_insert] at hf
    split at hf
    · next hk =>
      cases hf
      exact ⟨b, List.mem_cons_self, hk, hr⟩
    · obtain ⟨c, hc, hx⟩ := h.declared hf
      exact ⟨c, List.mem_cons_of_mem _ hc, hx⟩
  present c hc := by
    rcases List.mem_cons.1 hc with rfl | hc
    · exact ⟨a, find?_insert_self .., hr⟩
    · obtain ⟨x, hf, hx⟩ := h.present c hc
      have hne : name b ≠ name c := by
        intro he
        rw [he, hf] at hn
        cases hn
      exact ⟨x, (find?_insert_of_ne _ _ hne).trans hf, hx⟩

theorem Lists.congr (h : t.Lists name R bs) (hm : ∀ b, b ∈ bs ↔ b ∈ cs) : t.Lists name R cs where
  declared hf := by
    obtain ⟨b, hb, hx⟩ := h.declared hf
    exact ⟨b, (hm b).1 hb, hx⟩
  present b hb := h.present b ((hm b).2 hb)

/-- What stands under the name of a declaration is what the declaration comes to. -/
theorem Lists.of_mem (h : t.Lists name R bs) (hb : b ∈ bs) (hf : t.find? (name b) = some a) : R b a := by
  obtain ⟨x, hx, hr⟩ := h.present b hb
  cases hx.symm.trans hf
  exact hr

theorem Lists.contains_iff (h : t.Lists name R bs) {k : String} : t.contains k = true ↔ k ∈ bs.map name := by
  unfold contains
  rw [Option.isSome_iff_exists, List.mem_map]
  constructor
  · rintro ⟨a, ha⟩
    obtain ⟨b, hb, hk, -⟩ := h.declared ha
    exact ⟨b, hb, hk⟩
  · rintro ⟨b, hb, rfl⟩
    obtain ⟨a, ha, -⟩ := h.present b hb
    exact ⟨a, ha⟩

/-- What is held for declarations that are made from others is held for these as well. -/
theorem Lists.map {γ : Type} {f : γ → β} {S : γ → α → Prop} {cs : List γ} (h : t.Lists (fun c => name (f c)) S cs)
    (hr : ∀ c a, S c a → R (f c) a) : t.Lists name R (cs.map f) where
  declared hf := by
    obtain ⟨c, hc, hk, hs⟩ := h.declared hf
    exact ⟨f c, List.mem_map_of_mem hc, hk, hr c _ hs⟩
  present b hb := by
    obtain ⟨c, hc, rfl⟩ := List.mem_map.1 hb
    obtain ⟨a, ha, hs⟩ := h.present c hc
    exact ⟨a, ha, hr c a hs⟩

end

end Table

/-! ## Directories -/

/-- A group belongs to another one by the settings, where the last group of a name counts. -/
def MemberOf (groups : List GroupSettings) (a b : String) : Prop :=
  ∃ g, groups.findRev? (fun g => g.name = a) = some g ∧ b ∈ g.memberOf

namespace Directory

theorem lists_usersByName {directory : String} {us done : List UserSettings} {t t' : Table String UserSettings}
    (ht : t.Lists UserSettings.name Eq done) (h : usersByName directory us t = .ok t') :
    t'.Lists UserSettings.name Eq (us.reverse ++ done) := by
  induction us generalizing t done with
  | nil =>
    cases h
    exact ht
  | cons u us ih =>
    unfold usersByName at h
    split at h
    · cases h
    · next hc =>
      rw [List.reverse_cons, List.append_assoc]
      exact ih (ht.insert (by simpa [Table.contains] using hc) rfl) h

theorem find?_foldl_groups {gs : List GroupSettings} {t : Table String GroupSettings} {a : String} :
    ((gs.map fun g => (g.name, g)).foldl (fun t b => t.insert b.1 b.2) t).find? a =
      (gs.findRev? fun g => g.name = a).or (t.find? a) := by
  -- The table is any, since every group is written over those before it.
  induction gs generalizing t with
  | nil => rfl
  | cons g gs ih =>
    simp only [List.findRev?_eq_find?_reverse] at ih ⊢
    simp only [List.map_cons, List.foldl_cons, ih, Table.find?_insert, List.reverse_cons, List.find?_append,
      List.find?_singleton]
    by_cases hn : g.name = a <;> cases gs.reverse.find? (fun g => decide (g.name = a)) <;> simp [hn]

/-- A directory has the name, the users and the groups of its settings. -/
structure Backs (s : DirectorySettings) (d : Directory) : Prop where
  authnName : d.authnName = s.authnName
  authzName : d.authzName = s.authzName
  users : d.users.Lists UserSettings.name Eq s.users
  joins : ∀ {a b}, Joins d.groups a b ↔ MemberOf s.groups a b

theorem backs_of_ofSettings {salt : List UInt8} {s : DirectorySettings} {d : Directory}
    (h : Directory.ofSettings salt s = .ok d) : Backs s d := by
  obtain ⟨users, hu, hd⟩ := Except.bind_eq_ok_iff.1 h
  cases hd
  refine ⟨rfl, rfl, (lists_usersByName Table.lists_empty hu).congr (by simp), ?_⟩
  unfold Joins MemberOf Table.ofList
  simp [find?_foldl_groups]

/-- The users of a directory are those of its settings. -/
theorem Backs.find?_users {s : DirectorySettings} {d : Directory} (h : Backs s d) {name : String}
    {u : UserSettings} : d.users.find? name = some u ↔ u ∈ s.users ∧ u.name = name := by
  constructor
  · intro hf
    obtain ⟨_, hu, hn, rfl⟩ := h.users.declared hf
    exact ⟨hu, hn⟩
  · rintro ⟨hu, rfl⟩
    obtain ⟨_, hf, rfl⟩ := h.users.present u hu
    exact hf

theorem Backs.joins_eq {s : DirectorySettings} {d : Directory} (h : Backs s d) :
    Joins d.groups = MemberOf s.groups := by
  funext a b
  exact propext h.joins

end Directory

/-! ## The registry -/

namespace Registry

/-- A registry that holds directories and mappers of settings, and nothing else. -/
structure Holds (g : Registry) (ds : List DirectorySettings) (ms : List MapperSettings) : Prop where
  authenticators : g.authenticators.Lists DirectorySettings.authnName
    (fun s a => ∃ d, a = .directory d ∧ Directory.Backs s d) ds
  authorizers : g.authorizers.Lists DirectorySettings.authzName
    (fun s a => ∃ d, a = .directory d ∧ Directory.Backs s d) ds
  mappers : g.mappers.Lists MapperSettings.name (fun s m => m = .suffix (.ofSettings s)) ms

/-- A registry that holds what settings come to, and nothing else: directories, each with the salt of its number, and
mappers. -/
structure Bears (g : Registry) (salts : Nat → List UInt8) (ds : List (DirectorySettings × Nat))
    (ms : List MapperSettings) : Prop where
  authenticators : g.authenticators.Lists (fun x : DirectorySettings × Nat => x.1.authnName)
    (fun x a => ∃ d, Directory.ofSettings (salts x.2) x.1 = .ok d ∧ a = .directory d) ds
  authorizers : g.authorizers.Lists (fun x : DirectorySettings × Nat => x.1.authzName)
    (fun x a => ∃ d, Directory.ofSettings (salts x.2) x.1 = .ok d ∧ a = .directory d) ds
  mappers : g.mappers.Lists MapperSettings.name (fun s m => m = .suffix (.ofSettings s)) ms

variable {salts : Nat → List UInt8}

theorem bears_empty : Bears {} salts [] [] := ⟨Table.lists_empty, Table.lists_empty, Table.lists_empty⟩

theorem Bears.holds {g : Registry} {ds : List (DirectorySettings × Nat)} {ms : List MapperSettings}
    (hg : g.Bears salts ds ms) : g.Holds (ds.map Prod.fst) ms where
  authenticators := hg.authenticators.map fun _ _ ⟨d, hd, ha⟩ => ⟨d, ha, Directory.backs_of_ofSettings hd⟩
  authorizers := hg.authorizers.map fun _ _ ⟨d, hd, ha⟩ => ⟨d, ha, Directory.backs_of_ofSettings hd⟩
  mappers := hg.mappers

section
variable {g g' : Registry} {ds : List (DirectorySettings × Nat)} {ms : List MapperSettings}

theorem register_bind {x : Registration} {y : Unit → Registration} :
    g.register (x >>= y) = (.ok (), g') ↔
      ∃ m, g.register x = (.ok (), m) ∧ m.register (y ()) = (.ok (), g') := by
  unfold register
  rw [ExceptT.run_bind, StateT.run_bind]
  rcases h : x.run.run g with ⟨e | ⟨⟩, m⟩
  · constructor
    · intro hr
      cases hr
    · rintro ⟨_, hr, -⟩
      cases hr
  · constructor
    · intro hr
      exact ⟨m, rfl, hr⟩
    · rintro ⟨_, hr, hy⟩
      cases hr
      exact hy

theorem eq_of_ite {c : Bool} {e : Fault} {x : Registry}
    (h : (if c then (.error e, g) else (.ok (), x) : Except Fault Unit × Registry) = (.ok (), g')) :
    c = false ∧ g' = x := by
  cases c with
  | true => cases h
  | false =>
    cases h
    exact ⟨rfl, rfl⟩

theorem addAuthenticator_inv {a : Authenticator} (h : g.register (addAuthenticator a) = (.ok (), g')) :
    g.authenticators.find? a.name = none ∧
      g' = { g with authenticators := g.authenticators.insert a.name a } := by
  rw [register_addAuthenticator] at h
  obtain ⟨hc, hg⟩ := eq_of_ite h
  exact ⟨by simpa [Table.contains] using hc, hg⟩

theorem addAuthorizer_inv {a : Authorizer} (h : g.register (addAuthorizer a) = (.ok (), g')) :
    g.authorizers.find? a.name = none ∧ g' = { g with authorizers := g.authorizers.insert a.name a } := by
  rw [register_addAuthorizer] at h
  obtain ⟨hc, hg⟩ := eq_of_ite h
  exact ⟨by simpa [Table.contains] using hc, hg⟩

theorem addMapper_inv {m : Mapper} (h : g.register (addMapper m) = (.ok (), g')) :
    g.mappers.find? m.name = none ∧ g' = { g with mappers := g.mappers.insert m.name m } := by
  rw [register_addMapper] at h
  obtain ⟨hc, hg⟩ := eq_of_ite h
  exact ⟨by simpa [Table.contains] using hc, hg⟩

theorem Bears.addDirectory (hg : g.Bears salts ds ms) {x : DirectorySettings × Nat}
    (h : g.register (Registry.addDirectory (salts x.2) x.1) = (.ok (), g')) : g'.Bears salts (x :: ds) ms := by
  cases hd : Directory.ofSettings (salts x.2) x.1 with
  | error e =>
    unfold Registry.addDirectory at h
    rw [hd] at h
    cases h
  | ok d =>
    unfold Registry.addDirectory at h
    rw [hd] at h
    have hb := Directory.backs_of_ofSettings hd
    replace h : g.register (addAuthenticator (.directory d) >>= fun _ => addAuthorizer (.directory d)) =
      (.ok (), g') := h
    obtain ⟨m, ha, hz⟩ := register_bind.1 h
    obtain ⟨hna, rfl⟩ := addAuthenticator_inv ha
    obtain ⟨hnz, rfl⟩ := addAuthorizer_inv hz
    simp only [Authenticator.name, Authorizer.name, hb.authnName, hb.authzName] at hna hnz ⊢
    exact ⟨hg.authenticators.insert (b := x) hna ⟨d, hd, rfl⟩, hg.authorizers.insert (b := x) hnz ⟨d, hd, rfl⟩,
      hg.mappers⟩

theorem Bears.addDirectories (hg : g.Bears salts ds ms) {l : List (DirectorySettings × Nat)}
    (h : g.register (l.forM fun x => Registry.addDirectory (salts x.2) x.1) = (.ok (), g')) :
    g'.Bears salts (l.reverse ++ ds) ms := by
  induction l generalizing g ds with
  | nil =>
    cases h
    exact hg
  | cons x l ih =>
    obtain ⟨m, hx, hl⟩ := register_bind.1 h
    rw [List.reverse_cons, List.append_assoc]
    exact ih (hg.addDirectory hx) hl

theorem Bears.addMapper (hg : g.Bears salts ds ms) {s : MapperSettings}
    (h : g.register (Registry.addMapper (.suffix (.ofSettings s))) = (.ok (), g')) :
    g'.Bears salts ds (s :: ms) := by
  obtain ⟨hn, rfl⟩ := addMapper_inv h
  exact ⟨hg.authenticators, hg.authorizers, hg.mappers.insert hn rfl⟩

theorem Bears.addMappers (hg : g.Bears salts ds ms) {l : List MapperSettings}
    (h : g.register (l.forM fun s => Registry.addMapper (.suffix (.ofSettings s))) = (.ok (), g')) :
    g'.Bears salts ds (l.reverse ++ ms) := by
  induction l generalizing g ms with
  | nil =>
    cases h
    exact hg
  | cons s l ih =>
    obtain ⟨m, hx, hl⟩ := register_bind.1 h
    rw [List.reverse_cons, List.append_assoc]
    exact ih (hg.addMapper hx) hl

theorem bears_of_addBuiltins {s : ExtensionSettings}
    (h : Registry.register {} (addBuiltins salts s) = (.ok (), g')) :
    g'.Bears salts s.directories.zipIdx s.mappers := by
  obtain ⟨m, hd, hm⟩ := register_bind.1 h
  have hg := (bears_empty.addDirectories hd).addMappers hm
  exact ⟨hg.authenticators.congr (by simp), hg.authorizers.congr (by simp), hg.mappers.congr (by simp)⟩

/-- What is registered for settings is what they declare. -/
theorem holds_of_addBuiltins {s : ExtensionSettings}
    (h : Registry.register {} (addBuiltins salts s) = (.ok (), g')) : g'.Holds s.directories s.mappers := by
  have hg := (bears_of_addBuiltins h).holds
  rwa [List.zipIdx_map_fst] at hg

end

end Registry

/-! ## Profiles -/

/-- A profile goes through the extensions that its settings name. -/
structure Profile.Realizes (e : ExtensionSettings) (s : ProfileSettings) (p : Profile) : Prop where
  name : p.name = s.name
  authenticator : ∃ d, p.authenticator = .directory d ∧ (∃ x ∈ e.directories, x.authnName = s.authn) ∧
    ∀ x ∈ e.directories, x.authnName = s.authn → Directory.Backs x d
  authorizer : ∃ d, p.authorizer = .directory d ∧ (∃ x ∈ e.directories, x.authzName = s.authz) ∧
    ∀ x ∈ e.directories, x.authzName = s.authz → Directory.Backs x d
  unmapped : s.mapper = none → p.mapper = none
  mapped : ∀ name, s.mapper = some name → (∃ m ∈ e.mappers, m.name = name) ∧
    ∀ m ∈ e.mappers, m.name = name → p.mapper = some (.suffix (.ofSettings m))

section
variable {g : Registry} {e : ExtensionSettings}

theorem Profile.resolve_eq_ok {α : Type} {profile role name : String} {table : Table String α} {x : α}
    (h : Profile.resolve profile role table name = .ok x) : table.find? name = some x := by
  unfold Profile.resolve at h
  split at h
  · next hf =>
    cases h
    exact hf
  · cases h

theorem Profile.realizes_of_ofSettings {s : ProfileSettings} {p : Profile} (hg : g.Holds e.directories e.mappers)
    (h : Profile.ofSettings g s = .ok p) : p.Realizes e s := by
  obtain ⟨a, ha, h⟩ := Except.bind_eq_ok_iff.1 h
  obtain ⟨z, hz, h⟩ := Except.bind_eq_ok_iff.1 h
  obtain ⟨m, hm, h⟩ := Except.bind_eq_ok_iff.1 h
  cases h
  replace ha := resolve_eq_ok ha
  replace hz := resolve_eq_ok hz
  obtain ⟨x, hx, hxn, d, rfl, -⟩ := hg.authenticators.declared ha
  obtain ⟨y, hy, hyn, f, rfl, -⟩ := hg.authorizers.declared hz
  refine ⟨rfl, ⟨d, rfl, ⟨x, hx, hxn⟩, ?_⟩, ⟨f, rfl, ⟨y, hy, hyn⟩, ?_⟩, ?_, ?_⟩
  · intro x hx hn
    obtain ⟨_, hd, hb⟩ := hg.authenticators.of_mem hx (hn ▸ ha)
    cases hd
    exact hb
  · intro y hy hn
    obtain ⟨_, hd, hb⟩ := hg.authorizers.of_mem hy (hn ▸ hz)
    cases hd
    exact hb
  · intro hn
    rw [hn] at hm
    cases hm
    rfl
  · intro name hn
    rw [hn] at hm
    obtain ⟨m, hr, hm⟩ := Except.bind_eq_ok_iff.1 hm
    cases hm
    replace hr := resolve_eq_ok hr
    obtain ⟨x, hx, hxn, -⟩ := hg.mappers.declared hr
    exact ⟨⟨x, hx, hxn⟩, fun y hy hyn => congrArg some (hg.mappers.of_mem hy (hyn ▸ hr))⟩

theorem Profiles.lists_addAll {R : ProfileSettings → Profile → Prop} (hR : ∀ {s p}, R s p → p.name = s.name)
    {ss done : List ProfileSettings} {ps : List Profile} {t t' : Profiles} (hs : List.Forall₂ R ss ps)
    (ht : t.byName.Lists ProfileSettings.name R done) (h : addAll ps t = .ok t') :
    t'.byName.Lists ProfileSettings.name R (ss.reverse ++ done) := by
  induction hs generalizing t done with
  | nil =>
    cases h
    exact ht
  | @cons s p ss ps hp _ ih =>
    unfold addAll at h
    split at h
    · cases h
    · next hc =>
      rw [List.reverse_cons, List.append_assoc]
      rw [hR hp] at hc h
      exact ih (ht.insert (by simpa [Table.contains] using hc) hp) h

theorem Profiles.lists_ofSettings {R : ProfileSettings → Profile → Prop} (hR : ∀ {s p}, R s p → p.name = s.name)
    (hg : ∀ s p, Profile.ofSettings g s = .ok p → R s p) {ss : List ProfileSettings} {t : Profiles}
    (h : Profiles.ofSettings g ss = .ok t) : t.byName.Lists ProfileSettings.name R ss := by
  obtain ⟨ps, hp, h⟩ := Except.bind_eq_ok_iff.1 h
  have hs : List.Forall₂ R ss ps := (Except.forall₂_of_mapM_eq_ok hp).imp hg
  exact (Profiles.lists_addAll hR hs Table.lists_empty h).congr (by simp)

end

/-- How a core came to be. -/
theorem Core.eq_of_ofSettings {salts : Nat → List UInt8} {s : Settings} {c : Core}
    (h : Core.ofSettings salts s = .ok c) : c.settings = s ∧
      Registry.register {} (Registry.addBuiltins salts s.extensions) = (.ok (), c.registry) ∧
      Profiles.ofSettings c.registry s.profiles = .ok c.profiles := by
  unfold Core.ofSettings at h
  rcases hr : Registry.register {} (Registry.addBuiltins salts s.extensions) with ⟨e | ⟨⟩, g⟩
  · rw [hr] at h
    cases h
  · rw [hr] at h
    obtain ⟨_, -, h⟩ := Except.bind_eq_ok_iff.1 h
    obtain ⟨ps, hp, h⟩ := Except.bind_eq_ok_iff.1 h
    split at h
    · cases h
    cases h
    exact ⟨rfl, rfl, hp⟩

/-- The profiles of a core are those of its settings. -/
theorem Core.lists_profiles {salts : Nat → List UInt8} {s : Settings} {c : Core}
    (h : Core.ofSettings salts s = .ok c) : c.settings = s ∧
      c.profiles.byName.Lists ProfileSettings.name (fun p q => q.Realizes s.extensions p) s.profiles := by
  obtain ⟨hs, hr, hp⟩ := Core.eq_of_ofSettings h
  have hg := Registry.holds_of_addBuiltins hr
  exact ⟨hs, Profiles.lists_ofSettings Profile.Realizes.name (fun _ _ => Profile.realizes_of_ofSettings hg) hp⟩

end Gatehouse
