import Gatehouse.Proofs.Assembly
/-!
# Membership as reachability

The settings of a directory may say of groups that they belong to each other in a circle, that a group
belongs to itself, or to one that is not declared. Main statements: the record of a group goes no deeper
than there are declared groups off the path to it, and the identifiers collected from the record that is
fetched for a declared user are the groups that can be reached from its own.
-/

namespace Gatehouse

open Relation

/-! ## How deep records go -/

namespace PrincipalRecord

/-- There are groups within groups in a record, a number of times over. -/
inductive Deep : Nat → Record → Prop
  | flat {r : Record} : Deep 0 r
  | nested {n : Nat} {r r' : Record} (h : r' ∈ groupsOf r) (hd : Deep n r') : Deep (n + 1) r

end PrincipalRecord

namespace Directory

open PrincipalRecord (Deep groupsOf)

theorem depth_le_unvisited {groups : Table String GroupSettings} {path : List String} {a : String} {r : Record}
    {n : Nat} (h : groupRecord? groups path a = some (.record r)) (hd : Deep n r) :
    n ≤ (unvisited groups path).length := by
  -- A group inside another one is looked up with one more declared group on the path.
  induction hd generalizing path a with
  | flat => exact Nat.zero_le _
  | nested hm _ ih =>
    have ha := not_mem_of_groupRecord? h
    obtain ⟨_, hr, -, hg⟩ := groupRecord?_of_not_mem groups ha
    cases hr.symm.trans h
    obtain ⟨b, ⟨g, hf, -⟩, hb⟩ := (hg _).1 hm
    have hle := ih hb
    have hlt := length_unvisited_lt hf ha
    exact Nat.succ_le_of_lt (Nat.lt_of_le_of_lt hle hlt)

theorem depth_principalRecord_le {d : Directory} {u : UserSettings} {n : Nat}
    (hd : Deep n (d.principalRecord u).fields) : n ≤ d.groups.keys.length + 1 := by
  cases hd with
  | flat => exact Nat.zero_le _
  | @nested n _ r hm hd =>
    have hr : r ∈ (d.principalRecord u).groups := hm
    rw [groups_principalRecord] at hr
    obtain ⟨v, hv, hr⟩ := List.mem_filterMap.1 hr
    obtain ⟨a, -, ha⟩ := List.mem_filterMap.1 hv
    cases v with
    | record r' =>
      cases hr
      have hle := depth_le_unvisited ha hd
      rw [show unvisited d.groups [] = d.groups.keys by simp [unvisited]] at hle
      exact Nat.succ_le_succ hle
    | _ => cases hr

/-! ## The directory of some settings -/

theorem length_keys_foldl_le (gs : List GroupSettings) (t : Table String GroupSettings) :
    ((gs.map fun g => (g.name, g)).foldl (fun t b => t.insert b.1 b.2) t).keys.length ≤
      t.keys.length + gs.length := by
  induction gs generalizing t with
  | nil => exact Nat.le_refl _
  | cons g gs ih =>
    have hk : (t.insert g.name g).keys.length ≤ t.keys.length + 1 := by
      rw [Table.keys_insert]
      split
      · exact Nat.le_succ _
      · simp
    have hle := ih (t.insert g.name g)
    simp only [List.map_cons, List.foldl_cons, List.length_cons]
    omega

theorem length_keys_groups_le {salt : List UInt8} {s : DirectorySettings} {d : Directory}
    (h : Directory.ofSettings salt s = .ok d) : d.groups.keys.length ≤ s.groups.length := by
  obtain ⟨users, -, hd⟩ := Except.bind_eq_ok_iff.1 h
  cases hd
  have hle := length_keys_foldl_le s.groups ∅
  rwa [show (∅ : Table String GroupSettings).keys.length = 0 from rfl, Nat.zero_add] at hle

theorem usersByName_eq_ok_iff {directory : String} {us : List UserSettings} {t : Table String UserSettings} :
    (∃ t', usersByName directory us t = .ok t') ↔
      (us.map UserSettings.name).Nodup ∧ ∀ u ∈ us, t.find? u.name = none := by
  induction us generalizing t with
  | nil => simp [usersByName]
  | cons u us ih =>
    unfold usersByName
    split
    · next hc =>
      simp only [reduceCtorEq, exists_false, false_iff]
      rintro ⟨-, hn⟩
      simp [Table.contains, hn u List.mem_cons_self] at hc
    · next hc =>
      have hu : t.find? u.name = none := by simpa [Table.contains] using hc
      have hi : ∀ v, (t.insert u.name u).find? v = none ↔ u.name ≠ v ∧ t.find? v = none := by
        intro v
        rw [Table.find?_insert]
        split <;> simp_all
      rw [ih]
      simp only [hi, List.map_cons, List.nodup_cons, List.mem_map, List.forall_mem_cons, hu]
      grind

/-- Settings describe a directory unless they declare two users of one name. -/
theorem ofSettings_eq_ok_iff {salt : List UInt8} {s : DirectorySettings} :
    (∃ d, Directory.ofSettings salt s = .ok d) ↔ (s.users.map UserSettings.name).Nodup := by
  have hu : (∃ t, usersByName s.name s.users ∅ = .ok t) ↔ (s.users.map UserSettings.name).Nodup := by
    rw [usersByName_eq_ok_iff]
    simp only [Table.find?_empty, implies_true, and_true]
  rw [← hu]
  constructor
  · rintro ⟨d, hd⟩
    obtain ⟨t, ht, -⟩ := Except.bind_eq_ok_iff.1 hd
    exact ⟨t, ht⟩
  · rintro ⟨t, ht⟩
    exact ⟨_, Except.bind_eq_ok_iff.2 ⟨t, ht, rfl⟩⟩

end Directory

/-- A user of a directory belongs to the groups that can be reached from its own ones, and to no others. Only
settings that declare a user twice describe no directory. -/
theorem Directory.fetched_groups_reachable (salt : List UInt8) (s : DirectorySettings) :
    ((∃ d, Directory.ofSettings salt s = .ok d) ↔ (s.users.map UserSettings.name).Nodup) ∧
      ∀ d, Directory.ofSettings salt s = .ok d →
        ∀ u ∈ s.users, ∀ q : Wire.FetchPrincipalRequest, q.authRecord.principal? = some u.name →
          ∃ r, (d.fetchPrincipal q).principalRecord = some r ∧
            (∀ n, PrincipalRecord.Deep n r.fields → n ≤ s.groups.length + 1) ∧
            ∀ g, g ∈ r.groupIds ↔ ∃ a ∈ u.groups, ReflTransGen (MemberOf s.groups) a g := by
  refine ⟨ofSettings_eq_ok_iff, fun d hd u hu q hq => ⟨d.principalRecord u, ?_, ?_, ?_⟩⟩
  · have hf : d.users.find? u.name = some u := (backs_of_ofSettings hd).find?_users.2 ⟨hu, rfl⟩
    simp [fetchPrincipal, hq, hf]
  · intro n hn
    have hle := depth_principalRecord_le hn
    have hk := length_keys_groups_le hd
    omega
  · intro g
    have hj : Joins d.groups = MemberOf s.groups := by
      funext a b
      exact propext (backs_of_ofSettings hd).joins
    rw [mem_groupIds_principalRecord, hj]

/-- Groups that belong to each other and to themselves. The second declaration of `ops` counts, and `root`
is not declared. -/
def circularGroups : List GroupSettings := [
  { name := "dev", memberOf := ["ops", "dev", "ops"] },
  { name := "ops", memberOf := ["audit"] },
  { name := "ops", memberOf := ["dev", "root"] }]

def circularSettings : DirectorySettings :=
  { name := "main", users := [{ name := "ada", passwordHash := "", groups := ["dev"] }], groups := circularGroups }

theorem memberOf_circularGroups {a b : String} (h : MemberOf circularGroups a b) : b ∈ ["dev", "ops", "root"] := by
  obtain ⟨g, hg, hb⟩ := h
  simp only [List.findRev?_eq_find?_reverse, circularGroups, List.reverse_cons, List.reverse_nil, List.nil_append,
    List.cons_append, List.find?_cons] at hg
  grind

/-- Through groups in a circle a user belongs to each of them and to what they lead to, and not to what a
declaration says that another one replaces. -/
theorem Directory.circular_groups_reachable :
    ∃ d r, Directory.ofSettings [] circularSettings = .ok d ∧
      (d.fetchPrincipal ⟨AuthRecord.new "ada"⟩).principalRecord = some r ∧
      "dev" ∈ r.groupIds ∧ "ops" ∈ r.groupIds ∧ "root" ∈ r.groupIds ∧ "audit" ∉ r.groupIds := by
  have h := Directory.fetched_groups_reachable [] circularSettings
  obtain ⟨d, hd⟩ := h.1.2 (by decide)
  obtain ⟨r, hr, -, hg⟩ := h.2 d hd _ List.mem_cons_self ⟨AuthRecord.new "ada"⟩ (by decide)
  have hdev : MemberOf circularGroups "dev" "ops" := ⟨_, rfl, by decide⟩
  have hops : MemberOf circularGroups "ops" "root" := ⟨_, rfl, by decide⟩
  refine ⟨d, r, hd, hr, (hg _).2 ⟨"dev", by decide, .refl⟩, (hg _).2 ⟨"dev", by decide, .single hdev⟩,
    (hg _).2 ⟨"dev", by decide, .tail (.single hdev) hops⟩, fun ha => ?_⟩
  obtain ⟨a, ha, hw⟩ := (hg _).1 ha
  cases List.mem_singleton.1 ha
  rcases hw.cases_tail with he | ⟨_, -, hm⟩
  · exact absurd he (by decide)
  · exact absurd (memberOf_circularGroups hm) (by decide)

end Gatehouse
