import Gatehouse.Proofs.Groups
/-!
# The groups of a record, flattened

A principal's record may hold any values under the key of its groups, to any depth, and one group in several
places. Main statements: however the pending groups are taken up, the search through them ends with the
identifiers of all groups that can be reached, which a recursion over the record gives as well; and no array
of groups needs to be in order.
-/

namespace Gatehouse

/-- The names of either set. -/
def NameSet.union (s t : NameSet) : NameSet := t.toList.foldl NameSet.insert s

@[simp] theorem NameSet.mem_union {x : String} {s t : NameSet} : x ∈ s.union t ↔ x ∈ s ∨ x ∈ t :=
  NameSet.mem_foldl_insert

namespace PrincipalRecord

open Relation

/-! ## Reachable groups -/

/-- An object stands in the array under the key of the groups. -/
def HoldsGroup (r g : Record) : Prop := ∃ items, r.find? groupsKey = some (.list items) ∧ .record g ∈ items

theorem mem_filterMap_record? {items : List Value} {g : Record} :
    g ∈ items.filterMap Value.record? ↔ .record g ∈ items := by
  rw [List.mem_filterMap]
  constructor
  · rintro ⟨v, hv, hg⟩
    cases v with
    | record r =>
      cases hg
      exact hv
    | _ => cases hg
  · intro hg
    exact ⟨_, hg, rfl⟩

theorem mem_groupsOf {r g : Record} : g ∈ groupsOf r ↔ HoldsGroup r g := by
  unfold groupsOf Record.records HoldsGroup
  split
  · next items h =>
    rw [mem_filterMap_record?, h]
    constructor
    · intro hg
      exact ⟨items, rfl, hg⟩
    · rintro ⟨_, ⟨⟩, hg⟩
      exact hg
  · next h =>
    simp only [List.not_mem_nil, false_iff]
    rintro ⟨items, hi, -⟩
    exact h items hi

/-- Identifiers stand in groups that can be reached, at whatever depth. -/
theorem within_iff_reachable {id : String} {r : Record} :
    Within id r ↔ ∃ g, ReflTransGen HoldsGroup r g ∧ g.text? idKey = some id := by
  constructor
  · intro h
    induction h with
    | here h => exact ⟨_, .refl, h⟩
    | inside h _ ih =>
      obtain ⟨g, hg, hid⟩ := ih
      exact ⟨g, .head (mem_groupsOf.1 h) hg, hid⟩
  · rintro ⟨g, hg, hid⟩
    induction hg using ReflTransGen.head_induction_on with
    | refl => exact .here hid
    | head h _ ih => exact .inside (mem_groupsOf.2 h) ih

theorem mem_groupIds_iff_reachable {id : String} {r : PrincipalRecord} :
    id ∈ r.groupIds ↔ ∃ g, TransGen HoldsGroup r.fields g ∧ g.text? idKey = some id := by
  rw [mem_groupIds]
  simp only [within_iff_reachable, TransGen.head'_iff]
  constructor
  · rintro ⟨g, hg, g', hr, hid⟩
    exact ⟨g', ⟨g, mem_groupsOf.1 hg, hr⟩, hid⟩
  · rintro ⟨g', ⟨g, hg, hr⟩, hid⟩
    exact ⟨g, mem_groupsOf.2 hg, g', hr, hid⟩

/-! ## The recursion -/

/-- The identifier of a group, if it is a text. -/
def ownId (g : Record) : NameSet := (g.text? idKey).elim ∅ (NameSet.insert ∅)

@[simp] theorem mem_ownId {id : String} {g : Record} : id ∈ ownId g ↔ g.text? idKey = some id := by
  unfold ownId
  cases g.text? idKey <;> simp [eq_comm]

theorem sizeOf_le_weight {g : Record} {gs : List Record} (h : g ∈ gs) : sizeOf g ≤ weight gs := by
  induction gs with
  | nil => cases h
  | cons g' gs ih =>
    simp only [weight]
    rcases List.mem_cons.1 h with rfl | h
    · exact Nat.le_add_right ..
    · exact Nat.le_trans (ih h) (Nat.le_add_left ..)

/-- The identifier of a group, and those of every group in it. -/
def idsOf (g : Record) : NameSet :=
  (groupsOf g).attach.foldl (fun ids g' => ids.union (idsOf g'.1)) (ownId g)
termination_by sizeOf g
decreasing_by exact Nat.lt_of_le_of_lt (sizeOf_le_weight g'.2) (weight_groupsOf_lt g)

/-- The identifiers of some groups. -/
def idsOfAll (gs : List Record) (ids : NameSet) : NameSet := gs.foldl (fun ids g => ids.union (idsOf g)) ids

theorem idsOf_eq (g : Record) : idsOf g = idsOfAll (groupsOf g) (ownId g) := by
  rw [idsOf]
  exact List.foldl_attach (f := fun (ids : NameSet) g' => ids.union (idsOf g'))

theorem mem_idsOfAll {id : String} {gs : List Record} {ids : NameSet} :
    id ∈ idsOfAll gs ids ↔ id ∈ ids ∨ ∃ g ∈ gs, id ∈ idsOf g := by
  unfold idsOfAll
  induction gs generalizing ids with
  | nil => simp
  | cons g gs ih => simp [ih, or_assoc]

theorem mem_idsOf {id : String} {g : Record} : id ∈ idsOf g ↔ Within id g := by
  induction hn : sizeOf g using Nat.strongRecOn generalizing g with
  | ind n ih =>
    rw [idsOf_eq, mem_idsOfAll, mem_ownId, within_iff]
    refine or_congr_right (exists_congr fun g' => and_congr_right fun hg => ih _ ?_ rfl)
    exact hn ▸ Nat.lt_of_le_of_lt (sizeOf_le_weight hg) (weight_groupsOf_lt g)

/-! ## Searching in any order -/

/-- A search through groups: the identifiers found so far, and the groups that are still to be visited. -/
structure Search where
  found : NameSet
  pending : List Record

namespace Search

/-- Some pending group is visited: its identifier is found, and the groups in it are pending in its place. -/
inductive Visit : Search → Search → Prop
  | intro {found found' : NameSet} {pending others pending' : List Record} {group : Record}
      (ht : pending.Perm (group :: others)) (hf : found' = found.union (ownId group))
      (hn : pending'.Perm (groupsOf group ++ others)) : Visit ⟨found, pending⟩ ⟨found', pending'⟩

/-- An identifier was found, or stands in a pending group. -/
def Covers (s : Search) (id : String) : Prop := id ∈ s.found ∨ ∃ g ∈ s.pending, Within id g

variable {s s' : Search}

theorem Visit.covers (h : Visit s s') (id : String) : s'.Covers id ↔ s.Covers id := by
  cases h with
  | @intro _ _ _ others _ group ht hf hn =>
    subst hf
    simp only [Covers, NameSet.mem_union, mem_ownId, ht.mem_iff, hn.mem_iff, List.mem_append, List.mem_cons,
      exists_eq_or_imp, within_iff (r := group)]
    grind

theorem covers_of_visits (h : ReflTransGen Visit s s') (id : String) : s'.Covers id ↔ s.Covers id := by
  induction h with
  | refl => exact Iff.rfl
  | tail _ hv ih => exact (hv.covers id).trans ih

theorem weight_perm {gs gs' : List Record} (h : gs.Perm gs') : weight gs = weight gs' := by
  induction h with
  | nil => rfl
  | cons g _ ih => simp only [weight, ih]
  | swap g g' gs => simp only [weight, Nat.add_left_comm]
  | trans _ _ ih ih' => exact ih.trans ih'

/-- What is pending gets less with every visit. -/
theorem Visit.weight_lt (h : Visit s s') : weight s'.pending < weight s.pending := by
  cases h with
  | @intro _ _ _ others _ group ht _ hn =>
    have := weight_groupsOf_lt group
    simp only [weight_perm ht, weight_perm hn, weight, weight_append]
    omega

theorem wellFounded_visit : WellFounded fun s' s => Visit s s' :=
  Subrelation.wf (fun h => Visit.weight_lt h) (measure fun s : Search => weight s.pending).wf

/-- A search comes to its end only when nothing is pending. -/
theorem pending_eq_nil (h : ∀ s', ¬ Visit s s') : s.pending = [] := by
  obtain ⟨found, pending⟩ := s
  cases pending with
  | nil => rfl
  | cons group others => exact absurd (.intro (.refl _) rfl (.refl _)) (h ⟨_, groupsOf group ++ others⟩)

theorem visits_collectIds (found : NameSet) (pending : List Record) :
    ReflTransGen Visit ⟨found, pending⟩ ⟨collectIds found pending, []⟩ := by
  induction found, pending using collectIds.induct with
  | case1 found =>
    rw [collectIds]
  | case2 found group pending found' ih =>
    rw [collectIds]
    refine .head (.intro (.refl _) ?_ (.refl _)) ih
    refine NameSet.ext fun id => ?_
    cases hg : group.text? idKey <;> simp [found', hg, eq_comm, or_comm]

/-- Whichever groups are visited first, the identifiers at the end are those that the record's groups hold. -/
theorem found_eq_groupIds {r : PrincipalRecord} (h : ReflTransGen Visit ⟨∅, r.groups⟩ s)
    (hend : ∀ s', ¬ Visit s s') : s.found = r.groupIds := by
  refine NameSet.ext fun id => ?_
  have hc := covers_of_visits h id
  simpa [Covers, pending_eq_nil hend, mem_groupIds] using hc

end Search

theorem groupIds_eq_idsOfAll (r : PrincipalRecord) : r.groupIds = idsOfAll r.groups ∅ :=
  NameSet.ext fun id => by simp [mem_groupIds, mem_idsOfAll, mem_idsOf]

/-! ## Arrays in another order -/

/-- An array under the key of the groups is put in another order, somewhere in a value. -/
inductive Reorders : Value → Value → Prop
  | groups {r : Record} {items items' : List Value} (h : r.find? groupsKey = some (.list items))
      (hp : items.Perm items') : Reorders (.record r) (.record (r.insert groupsKey (.list items')))
  | field {r : Record} {k : String} {v v' : Value} (h : r.find? k = some v) (hv : Reorders v v') :
      Reorders (.record r) (.record (r.insert k v'))
  | item {before after : List Value} {v v' : Value} (hv : Reorders v v') :
      Reorders (.list (before ++ v :: after)) (.list (before ++ v' :: after))

/-- An identifier stands in an item of an array. -/
def WithinItems (id : String) (items : List Value) : Prop := ∃ g, .record g ∈ items ∧ Within id g

/-- An identifier stands in a group that a record holds. -/
def WithinGroups (id : String) (r : Record) : Prop :=
  ∃ items, r.find? groupsKey = some (.list items) ∧ WithinItems id items

theorem exists_groupsOf_iff {id : String} {r : Record} : (∃ g ∈ groupsOf r, Within id g) ↔ WithinGroups id r := by
  simp only [mem_groupsOf, HoldsGroup, WithinGroups, WithinItems]
  constructor
  · rintro ⟨g, ⟨items, hi, hg⟩, hw⟩
    exact ⟨items, hi, g, hg, hw⟩
  · rintro ⟨items, hi, g, hg, hw⟩
    exact ⟨g, ⟨items, hi, hg⟩, hw⟩

theorem within_iff_groups {id : String} {r : Record} :
    Within id r ↔ r.text? idKey = some id ∨ WithinGroups id r := by
  rw [within_iff, exists_groupsOf_iff]

/-- Values of one kind in which the same identifiers stand. -/
inductive SameIds : Value → Value → Prop
  | record {r r' : Record} (hid : r'.text? idKey = r.text? idKey)
      (hg : ∀ id, WithinGroups id r' ↔ WithinGroups id r) : SameIds (.record r) (.record r')
  | list {items items' : List Value} (h : ∀ id, WithinItems id items' ↔ WithinItems id items) :
      SameIds (.list items) (.list items')

theorem text?_insert_of_ne {r : Record} {k : String} {v : Value} (h : k ≠ idKey) :
    Record.text? (r.insert k v) idKey = r.text? idKey := by
  unfold Record.text?
  rw [Table.find?_insert_of_ne r v h]

theorem withinGroups_insert {id : String} {r : Record} {items items' : List Value}
    (h : r.find? groupsKey = some (.list items)) (hi : WithinItems id items' ↔ WithinItems id items) :
    WithinGroups id (r.insert groupsKey (.list items')) ↔ WithinGroups id r := by
  simp [WithinGroups, h, hi]

theorem withinGroups_insert_of_ne {id k : String} {r : Record} {v : Value} (h : k ≠ groupsKey) :
    WithinGroups id (r.insert k v) ↔ WithinGroups id r := by
  unfold WithinGroups
  rw [Table.find?_insert_of_ne r v h]

theorem text?_insert_of_not_text {r : Record} {v : Value} (h : ∀ s, v ≠ .text s) :
    Record.text? (r.insert idKey v) idKey = none := by
  unfold Record.text?
  rw [Table.find?_insert_self]
  cases v with
  | text s => exact absurd rfl (h s)
  | _ => rfl

theorem text?_eq_none {r : Record} {v : Value} {k : String} (hf : r.find? k = some v) (h : ∀ s, v ≠ .text s) :
    r.text? k = none := by
  unfold Record.text?
  rw [hf]
  cases v with
  | text s => exact absurd rfl (h s)
  | _ => rfl

theorem SameIds.not_text {v v' : Value} (h : SameIds v v') : (∀ s, v ≠ .text s) ∧ ∀ s, v' ≠ .text s := by
  cases h <;> simp

/-- A field is as good as another in which the same identifiers stand. -/
theorem SameIds.field {r : Record} {k : String} {v v' : Value} (h : r.find? k = some v) (hv : SameIds v v') :
    SameIds (.record r) (.record (r.insert k v')) := by
  refine .record ?_ fun id => ?_
  · by_cases hk : k = idKey
    · -- Neither an object nor an array is an identifier.
      subst hk
      rw [text?_insert_of_not_text hv.not_text.2, text?_eq_none h hv.not_text.1]
    · exact text?_insert_of_ne hk
  · by_cases hk : k = groupsKey
    · subst hk
      cases hv with
      | record => simp [WithinGroups, h]
      | list hi => exact withinGroups_insert h (hi id)
    · exact withinGroups_insert_of_ne hk

/-- An item is as good as another in which the same identifiers stand. -/
theorem SameIds.item {before after : List Value} {v v' : Value} (hv : SameIds v v') :
    SameIds (.list (before ++ v :: after)) (.list (before ++ v' :: after)) := by
  refine .list fun id => ?_
  cases hv with
  | @record r r' hid hg =>
    have hw : Within id r' ↔ Within id r := by rw [within_iff_groups, within_iff_groups, hid, hg]
    simp only [WithinItems, List.mem_append, List.mem_cons, or_and_right, exists_or, Value.record.injEq,
      exists_eq_left, hw]
  | list => simp [WithinItems]

theorem Reorders.sameIds {v v' : Value} (h : Reorders v v') : SameIds v v' := by
  induction h with
  | groups h hp =>
    refine .record (text?_insert_of_ne (show groupsKey ≠ idKey by decide)) fun id => withinGroups_insert h ?_
    simp only [WithinItems, hp.mem_iff]
  | field h _ ih => exact ih.field h
  | item _ ih => exact ih.item

theorem Reorders.groupIds_eq {r : Record} {v : Value} (h : Reorders (.record r) v) :
    ∃ r', v = .record r' ∧ groupIds ⟨r'⟩ = groupIds ⟨r⟩ := by
  cases h.sameIds with
  | record _ hg =>
    refine ⟨_, rfl, NameSet.ext fun id => ?_⟩
    rw [mem_groupIds, mem_groupIds]
    exact exists_groupsOf_iff.trans ((hg id).trans exists_groupsOf_iff.symm)

theorem groupIds_eq_of_reorders {r r' : Record} (h : ReflTransGen Reorders (.record r) (.record r')) :
    groupIds ⟨r'⟩ = groupIds ⟨r⟩ := by
  generalize hv : Value.record r = v at h
  induction h using ReflTransGen.head_induction_on generalizing r with
  | refl =>
    cases hv
    rfl
  | head hs _ ih =>
    subst hv
    obtain ⟨r₁, rfl, he⟩ := hs.groupIds_eq
    exact (ih rfl).trans he

/-! ## The result -/

/-- The identifiers of a record's groups are those of the groups that can be reached from it, and those that the
recursion collects. A search for them comes to its end and finds them in whatever order it visits the groups,
and no array has to be in order. -/
theorem groupIds_closure (r : PrincipalRecord) :
    (∀ id, id ∈ r.groupIds ↔ ∃ g, TransGen HoldsGroup r.fields g ∧ g.text? idKey = some id)
      ∧ r.groupIds = idsOfAll r.groups ∅
      ∧ (∀ g, idsOf g = idsOfAll (groupsOf g) (ownId g))
      ∧ WellFounded (fun s' s => Search.Visit s s')
      ∧ ReflTransGen Search.Visit ⟨∅, r.groups⟩ ⟨r.groupIds, []⟩
      ∧ (∀ s, ReflTransGen Search.Visit ⟨∅, r.groups⟩ s → (∀ s', ¬ Search.Visit s s') → s.found = r.groupIds)
      ∧ ∀ r', ReflTransGen Reorders (.record r.fields) (.record r') → groupIds ⟨r'⟩ = r.groupIds :=
  ⟨fun _ => mem_groupIds_iff_reachable, groupIds_eq_idsOfAll r, idsOf_eq, Search.wellFounded_visit,
    Search.visits_collectIds ∅ r.groups, fun _ h hend => Search.found_eq_groupIds h hend,
    fun _ h => groupIds_eq_of_reorders h⟩

end PrincipalRecord

end Gatehouse
