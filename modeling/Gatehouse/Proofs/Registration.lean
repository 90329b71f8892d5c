import Gatehouse.Extension.Registry
import Mathlib.Data.List.Nodup
/-!
# Which registrations stay

A remote extension is registered for one role after the other, and nothing takes a registration back. Main statement:
registering stops at the first role in which the name of the extension is taken, with the roles before it registered
and nothing else changed; so the registry is as it was only if this role is the first of the list.
-/

namespace Gatehouse

/-! ## The tables by role -/

/-- What is registered for a role. -/
def ExtensionRole.Extension : ExtensionRole → Type
  | authenticator => Authenticator
  | mapper => Mapper
  | authorizer => Authorizer

/-- A remote extension in a role. -/
def Remote.inRole (r : Remote) : (role : ExtensionRole) → role.Extension
  | .authenticator => Authenticator.remote r
  | .mapper => Mapper.remote r
  | .authorizer => Authorizer.remote r

namespace Registry

/-- What is registered for a role under a name. -/
def find? (g : Registry) (role : ExtensionRole) (name : String) : Option role.Extension :=
  match role with
  | .authenticator => g.authenticators.find? name
  | .mapper => g.mappers.find? name
  | .authorizer => g.authorizers.find? name

/-- Registers a remote extension for a role. -/
def addFor (r : Remote) : ExtensionRole → Registration
  | .authenticator => addAuthenticator (.remote r)
  | .mapper => addMapper (.remote r)
  | .authorizer => addAuthorizer (.remote r)

/-- The registry in which a remote extension stands for one more role. -/
def withRemote (g : Registry) (r : Remote) : ExtensionRole → Registry
  | .authenticator => { g with authenticators := g.authenticators.insert r.name (.remote r) }
  | .mapper => { g with mappers := g.mappers.insert r.name (.remote r) }
  | .authorizer => { g with authorizers := g.authorizers.insert r.name (.remote r) }

section
variable {g g' : Registry} {r : Remote} {role role' : ExtensionRole} {roles : List ExtensionRole}

theorem find?_withRemote (name : String) : (g.withRemote r role).find? role' name =
    if role' = role ∧ name = r.name then some (r.inRole role') else g.find? role' name := by
  by_cases hn : name = r.name
  · subst hn
    cases role <;> cases role' <;> simp [withRemote, find?, Remote.inRole] <;> rfl
  · cases role <;> cases role' <;> simp [withRemote, find?, Table.find?_insert, hn, Ne.symm hn] <;> rfl

theorem count_withRemote (h : g.find? role r.name = none) : (g.withRemote r role).count = g.count + 1 := by
  cases role <;> simp only [count, withRemote, Table.size_insert_of_find?_eq_none h] <;> omega

/-- An extension is registered for a role unless its name is taken there. -/
theorem register_addFor (g : Registry) (r : Remote) (role : ExtensionRole) : g.register (addFor r role) =
    if (g.find? role r.name).isSome then (.error (alreadyRegistered role r.name), g)
    else (.ok (), g.withRemote r role) := by
  cases role with
  | authenticator => exact g.register_addAuthenticator (.remote r)
  | mapper => exact g.register_addMapper (.remote r)
  | authorizer => exact g.register_addAuthorizer (.remote r)

theorem register_addRemote_cons : g.register (addRemote r (role :: roles)) =
    if (g.find? role r.name).isSome then (.error (alreadyRegistered role r.name), g)
    else (g.withRemote r role).register (addRemote r roles) := by
  have hcons : addRemote r (role :: roles) = addFor r role >>= fun _ => addRemote r roles := by
    cases role <;> rfl
  have hrole := register_addFor g r role
  rw [hcons]
  unfold register at hrole ⊢
  rw [ExceptT.run_bind, StateT.run_bind, hrole]
  split <;> rfl

/-! ## From role to role -/

/-- An extension gained roles in which its name was free, and nothing else changed. -/
structure Gains (g : Registry) (r : Remote) (roles : List ExtensionRole) (g' : Registry) : Prop where
  distinct : roles.Nodup
  free : ∀ role ∈ roles, g.find? role r.name = none
  find?_eq : ∀ role name, g'.find? role name =
    if role ∈ roles ∧ name = r.name then some (r.inRole role) else g.find? role name
  count_eq : g'.count = g.count + roles.length

theorem gains_nil (g : Registry) (r : Remote) : g.Gains r [] g := ⟨.nil, nofun, fun _ _ => by simp, rfl⟩

theorem Gains.cons (hn : g.find? role r.name = none) (h : (g.withRemote r role).Gains r roles g') :
    g.Gains r (role :: roles) g' := by
  have hheld : (g.withRemote r role).find? role r.name = some (r.inRole role) := by
    rw [find?_withRemote, if_pos ⟨rfl, rfl⟩]
  have hnew : role ∉ roles := by
    intro hm
    cases hheld.symm.trans (h.free role hm)
  refine ⟨List.nodup_cons.2 ⟨hnew, h.distinct⟩, ?_, ?_, ?_⟩
  · intro role' hm
    rcases List.mem_cons.1 hm with rfl | hm
    · exact hn
    · have hfree := h.free role' hm
      rw [find?_withRemote] at hfree
      split at hfree
      · cases hfree
      · exact hfree
  · intro role' name
    rw [h.find?_eq, find?_withRemote]
    by_cases hname : name = r.name <;> by_cases hm : role' ∈ roles <;> simp [hname, hm]
  · rw [h.count_eq, count_withRemote hn, List.length_cons]
    omega

/-- What was registered stays registered. -/
theorem Gains.keeps (h : g.Gains r roles g') {name : String} {x : role.Extension} (hx : g.find? role name = some x) :
    g'.find? role name = some x := by
  rw [h.find?_eq, if_neg]
  · exact hx
  · rintro ⟨hm, rfl⟩
    cases hx.symm.trans (h.free role hm)

/-- Without a role gained nothing has changed, and otherwise the count tells. -/
theorem Gains.unchanged_iff (h : g.Gains r roles g') :
    ((∀ role name, g'.find? role name = g.find? role name) ∧ g'.count = g.count) ↔ roles = [] := by
  constructor
  · rintro ⟨-, hcount⟩
    have hlength := h.count_eq
    rw [hcount] at hlength
    exact List.length_eq_zero_iff.1 (by omega)
  · rintro rfl
    exact ⟨fun role name => by simp [h.find?_eq], h.count_eq⟩

/-- Registering ends well, or it stops at a role in which the name is taken. -/
theorem register_addRemote_cases (g : Registry) (r : Remote) (roles : List ExtensionRole) :
    (∃ g', g.register (addRemote r roles) = (.ok (), g') ∧ g.Gains r roles g') ∨
      ∃ done role rest g', roles = done ++ role :: rest ∧
        g.register (addRemote r roles) = (.error (alreadyRegistered role r.name), g') ∧ g.Gains r done g' ∧
        (role ∈ done ∨ (g.find? role r.name).isSome) := by
  induction roles generalizing g with
  | nil => exact .inl ⟨g, rfl, gains_nil g r⟩
  | cons role roles ih =>
    rw [register_addRemote_cons]
    by_cases htaken : (g.find? role r.name).isSome
    · rw [if_pos htaken]
      exact .inr ⟨[], role, roles, g, rfl, rfl, gains_nil g r, .inr htaken⟩
    · have hn : g.find? role r.name = none := by simpa using htaken
      rw [if_neg htaken]
      rcases ih (g.withRemote r role) with ⟨g', hr, hg⟩ | ⟨done, role', rest, g', rfl, hr, hg, hc⟩
      · exact .inl ⟨g', hr, hg.cons hn⟩
      · refine .inr ⟨role :: done, role', rest, g', rfl, hr, hg.cons hn, ?_⟩
        -- A name that is taken by now was taken before, or the role just gained has it.
        by_cases heq : role' = role
        · exact .inl (heq ▸ List.mem_cons_self)
        · rw [find?_withRemote, if_neg (fun h => heq h.1)] at hc
          exact hc.imp_left (List.mem_cons_of_mem role)

end

/-- A remote extension is registered for a list of roles exactly if no role stands in it twice and the name is free in
all of them. Otherwise the fault is the conflict in the first role in which the name is taken, or that stands earlier in
the list; the roles before it are gained, and stay so. Nothing else changes in either case, and nothing is replaced. -/
theorem registers_up_to_conflict (g : Registry) (r : Remote) (roles : List ExtensionRole) :
    let answer := (g.register (addRemote r roles)).1
    let g' := (g.register (addRemote r roles)).2
    (answer = .ok () ↔ roles.Nodup ∧ ∀ role ∈ roles, g.find? role r.name = none) ∧
      (answer = .ok () → g.Gains r roles g') ∧
      (∀ e, answer = .error e → ∃ done role rest, roles = done ++ role :: rest ∧
        (role ∈ done ∨ (g.find? role r.name).isSome) ∧ e = alreadyRegistered role r.name ∧ g.Gains r done g' ∧
        (((∀ role name, g'.find? role name = g.find? role name) ∧ g'.count = g.count) ↔ done = [])) ∧
      ∀ role name x, g.find? role name = some x → g'.find? role name = some x := by
  intro answer g'
  rcases register_addRemote_cases g r roles with ⟨m, hr, hg⟩ | ⟨done, role, rest, m, rfl, hr, hg, hc⟩
  · have hanswer : answer = .ok () := congrArg Prod.fst hr
    have hstate : g' = m := congrArg Prod.snd hr
    subst hstate
    refine ⟨iff_of_true hanswer ⟨hg.distinct, hg.free⟩, fun _ => hg, ?_, fun _ _ _ => hg.keeps⟩
    intro e he
    cases hanswer.symm.trans he
  · have hanswer : answer = .error (alreadyRegistered role r.name) := congrArg Prod.fst hr
    have hstate : g' = m := congrArg Prod.snd hr
    subst hstate
    have hrefused : answer ≠ .ok () := by
      rw [hanswer]
      exact nofun
    refine ⟨iff_of_false hrefused ?_, fun h => absurd h hrefused, ?_, fun _ _ _ => hg.keeps⟩
    · rintro ⟨hdistinct, hfree⟩
      rcases hc with hm | htaken
      · exact (List.nodup_append.1 hdistinct).2.2 role hm role List.mem_cons_self rfl
      · rw [hfree role (by simp)] at htaken
        cases htaken
    · intro e he
      cases hanswer.symm.trans he
      exact ⟨done, role, rest, rfl, hc, rfl, hg, hg.unchanged_iff⟩

/-- A registration for two roles, one of them named twice, is refused, and the extension has both roles. -/
theorem registration_refused_halfway :
    let r : Remote := { number := 0, name := "echo" }
    let g : Registry := {}
    let answer := (g.register (addRemote r [.authenticator, .mapper, .mapper])).1
    let g' := (g.register (addRemote r [.authenticator, .mapper, .mapper])).2
    answer = .error (alreadyRegistered .mapper "echo") ∧
      g.find? .authenticator "echo" = none ∧ g'.find? .authenticator "echo" = some (r.inRole .authenticator) ∧
      g.count = 0 ∧ g'.count = 2 :=
  ⟨rfl, rfl, rfl, rfl, rfl⟩

end Registry

end Gatehouse
