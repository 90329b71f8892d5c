import Gatehouse.Extension.Directory
import Mathlib.Logic.Relation
/-!
# The groups of a principal

A directory writes the groups of a user as records within records, and leaves out a group that is on the
path to it already. Main statement: the identifiers that are collected from them are the groups that can be
reached from those of the user, however the groups belong to each other.
-/

namespace Gatehouse

/-! ## Collecting identifiers -/

namespace PrincipalRecord

/-- An identifier stands in a group's record, or in that of a group inside it. -/
inductive Within (id : String) : Record → Prop
  | here {r : Record} (h : r.text? idKey = some id) : Within id r
  | inside {r r' : Record} (h : r' ∈ groupsOf r) (hw : Within id r') : Within id r

theorem within_iff {id : String} {r : Record} :
    Within id r ↔ r.text? idKey = some id ∨ ∃ r' ∈ groupsOf r, Within id r' := by
  constructor
  · rintro (h | ⟨h, hw⟩)
    · exact .inl h
    · exact .inr ⟨_, h, hw⟩
  · rintro (h | ⟨r', h, hw⟩)
    · exact .here h
    · exact .inside h hw

/-- What is collected is what was found before and what stands in the pending groups. -/
theorem mem_collectIds {id : String} {found : NameSet} {pending : List Record} :
    id ∈ collectIds found pending ↔ id ∈ found ∨ ∃ r ∈ pending, Within id r := by
  induction found, pending using collectIds.induct with
  | case1 found => simp [collectIds]
  | case2 found group pending found' ih =>
    have hf : id ∈ found' ↔ group.text? idKey = some id ∨ id ∈ found := by
      cases hg : group.text? idKey with
      | none => simp [found', hg]
      | some name => simp [found', hg, eq_comm]
    rw [collectIds, ih, hf]
    simp only [List.mem_append, List.mem_cons, exists_eq_or_imp, within_iff (r := group)]
    grind

theorem mem_groupIds {id : String} {r : PrincipalRecord} : id ∈ r.groupIds ↔ ∃ g ∈ r.groups, Within id g := by
  simp [groupIds, mem_collectIds]

end PrincipalRecord

namespace Directory

open Relation

/-! ## Walks -/

/-- A group belongs to another one directly. -/
def Joins (groups : Table String GroupSettings) (a b : String) : Prop :=
  ∃ g, groups.find? a = some g ∧ b ∈ g.memberOf

/-- A way up from one group to another that keeps off a path. -/
inductive Avoids (groups : Table String GroupSettings) (path : List String) : String → String → Prop
  | refl {a} (ha : a ∉ path) : Avoids groups path a a
  | step {a b c} (ha : a ∉ path) (hj : Joins groups a b) (h : Avoids groups path b c) :
      Avoids groups path a c

/-- A way up from one group to another that comes by no group twice. -/
inductive Climbs (groups : Table String GroupSettings) : List String → String → String → Prop
  | refl {path a} (ha : a ∉ path) : Climbs groups path a a
  | step {path a b c} (ha : a ∉ path) (hj : Joins groups a b) (h : Climbs groups (a :: path) b c) :
      Climbs groups path a c

section
variable {groups : Table String GroupSettings} {path : List String} {a b c : String}

theorem Climbs.avoids (h : Climbs groups path a c) : Avoids groups [] a c := by
  induction h with
  | refl => exact .refl List.not_mem_nil
  | step _ hj _ ih => exact .step List.not_mem_nil hj ih

/-- A way can be cut short behind the last time that it comes by a group. -/
theorem Avoids.cut (h : Avoids groups path b c) (a : String) :
    Avoids groups (a :: path) b c ∨ a = c ∨ ∃ b', Joins groups a b' ∧ Avoids groups (a :: path) b' c := by
  induction h with
  | @refl b hb =>
    by_cases hab : a = b
    · exact .inr (.inl hab)
    · exact .inl (.refl (by simp [hb, Ne.symm hab]))
  | @step b b' c hb hj _ ih =>
    rcases ih with ih | ih
    · by_cases hab : a = b
      · exact .inr (.inr ⟨b', hab ▸ hj, ih⟩)
      · exact .inl (.step (by simp [hb, Ne.symm hab]) hj ih)
    · exact .inr ih

/-- Where there is a way there is one that comes by no group twice. -/
theorem Avoids.climbs (h : Avoids groups path a c) : Climbs groups path a c := by
  -- With every group on the path there are fewer groups left to come by.
  induction hn : (unvisited groups path).length using Nat.strongRecOn generalizing path a with
  | ind n ih =>
    cases h with
    | refl ha => exact .refl ha
    | @step _ b _ ha hj h =>
      obtain ⟨g, hg, -⟩ := id hj
      have hlt := length_unvisited_lt hg ha
      rcases h.cut a with h | rfl | ⟨b', hj', h⟩
      · exact .step ha hj (ih _ (hn ▸ hlt) h rfl)
      · exact .refl ha
      · exact .step ha hj' (ih _ (hn ▸ hlt) h rfl)

theorem climbs_iff : Climbs groups [] a c ↔ ReflTransGen (Joins groups) a c := by
  constructor
  · intro h
    replace h := h.avoids
    induction h with
    | refl => exact .refl
    | step _ hj _ ih => exact .head hj ih
  · intro h
    refine Avoids.climbs ?_
    induction h using ReflTransGen.head_induction_on with
    | refl => exact .refl List.not_mem_nil
    | head hj _ ih => exact .step List.not_mem_nil hj ih

end

/-! ## Group records -/

section
variable {groups : Table String GroupSettings} {path : List String} {a b c : String}

/-- The record of a group that is not on the path holds those of the groups it belongs to. -/
theorem groupRecord?_of_not_mem (groups : Table String GroupSettings) (ha : a ∉ path) :
    ∃ r : Record, groupRecord? groups path a = some (.record r) ∧ r.text? PrincipalRecord.idKey = some a ∧
      ∀ r', r' ∈ PrincipalRecord.groupsOf r ↔
        ∃ b, Joins groups a b ∧ groupRecord? groups (a :: path) b = some (.record r') := by
  rw [groupRecord?, dif_neg ha]
  refine ⟨_, rfl, rfl, fun r' => ?_⟩
  show r' ∈ List.filterMap Value.record? _ ↔ _
  split
  · next g hg =>
    simp only [List.mem_filterMap, Joins, hg, Option.some.injEq]
    constructor
    · rintro ⟨v, ⟨b, hb, hv⟩, hr⟩
      cases v with
      | record r =>
        cases hr
        exact ⟨b, ⟨g, rfl, hb⟩, hv⟩
      | _ => cases hr
    · rintro ⟨b, ⟨_, rfl, hb⟩, hv⟩
      exact ⟨_, ⟨b, hb, hv⟩, rfl⟩
  · next hg =>
    simp [Joins, hg]

theorem not_mem_of_groupRecord? {v : Value} (h : groupRecord? groups path a = some v) : a ∉ path := by
  intro ha
  rw [groupRecord?, dif_pos ha] at h
  cases h

theorem climbs_of_within {r : Record} (h : groupRecord? groups path a = some (.record r))
    (hw : PrincipalRecord.Within c r) : Climbs groups path a c := by
  induction hw generalizing path a with
  | here hc =>
    have ha := not_mem_of_groupRecord? h
    obtain ⟨r', hr, hid, -⟩ := groupRecord?_of_not_mem groups ha
    cases hr.symm.trans h
    cases hid.symm.trans hc
    exact .refl ha
  | inside hm _ ih =>
    have ha := not_mem_of_groupRecord? h
    obtain ⟨r', hr, -, hg⟩ := groupRecord?_of_not_mem groups ha
    cases hr.symm.trans h
    obtain ⟨b, hj, hb⟩ := (hg _).1 hm
    exact .step ha hj (ih hb)

theorem Climbs.within (h : Climbs groups path a c) :
    ∃ r, groupRecord? groups path a = some (.record r) ∧ PrincipalRecord.Within c r := by
  induction h with
  | refl ha =>
    obtain ⟨r, hr, hid, -⟩ := groupRecord?_of_not_mem groups ha
    exact ⟨r, hr, .here hid⟩
  | step ha hj _ ih =>
    obtain ⟨r, hr, -, hg⟩ := groupRecord?_of_not_mem groups ha
    obtain ⟨r', hr', hw⟩ := ih
    exact ⟨r, hr, .inside ((hg r').2 ⟨_, hj, hr'⟩) hw⟩

end

theorem groups_principalRecord (d : Directory) (u : UserSettings) :
    (d.principalRecord u).groups = (u.groups.filterMap (groupRecord? d.groups [])).filterMap Value.record? := by
  have hf : ∀ (r : Record) k s, k ≠ PrincipalRecord.groupsKey →
      PrincipalRecord.groupsOf (r.insertText? k s) = PrincipalRecord.groupsOf r := by
    intro r k s hk
    simp only [PrincipalRecord.groupsOf, Record.records, Record.find?_insertText?_of_ne _ _ hk]
  show PrincipalRecord.groupsOf (Record.insertText? _ _ _) = _
  rw [hf _ _ _ (by decide), hf _ _ _ (by decide), hf _ _ _ (by decide)]
  rfl

/-- The groups of a user are those that can be reached from the ones it is declared with. -/
theorem mem_groupIds_principalRecord {d : Directory} {u : UserSettings} {g : String} :
    g ∈ (d.principalRecord u).groupIds ↔ ∃ a ∈ u.groups, ReflTransGen (Joins d.groups) a g := by
  rw [PrincipalRecord.mem_groupIds, groups_principalRecord]
  constructor
  · rintro ⟨r, hr, hw⟩
    obtain ⟨v, hv, hr⟩ := List.mem_filterMap.1 hr
    obtain ⟨a, ha, hg⟩ := List.mem_filterMap.1 hv
    cases v with
    | record r' =>
      cases hr
      exact ⟨a, ha, climbs_iff.1 (climbs_of_within hg hw)⟩
    | _ => cases hr
  · rintro ⟨a, ha, hw⟩
    obtain ⟨r, hr, hw⟩ := (climbs_iff.2 hw).within
    exact ⟨r, List.mem_filterMap.2 ⟨_, List.mem_filterMap.2 ⟨a, ha, hr⟩, rfl⟩, hw⟩

end Directory

end Gatehouse
